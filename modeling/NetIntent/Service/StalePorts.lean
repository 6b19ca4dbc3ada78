import NetIntent.Service.SubnetPorts

/-!
The collection of ports whose Pod is gone. A round takes the ids of the held ports that belong to
Pods, then the Pods that exist, and deletes every port that no existing Pod accounts for.
-/

namespace NetIntent.StalePorts

def name : String := "pod"

def source : String := "PodPortGarbageCollector"

def entry (id : String) (result : Except Failure Unit) : Audit.Entry :=
  (Audit.Entry.about .collect source "delete" id SubnetPort.kind).concluded
    (Failure.messageOf result)

/-- Handles stale ports in turn; a failure is counted and the next one is handled. -/
def handleAll : List String → Procedure State Unit
  | [] => .done ()
  | id :: rest =>
    .update (State.withCounters Counters.begin) fun _ =>
      (SubnetPorts.deleteById id).bind fun result =>
        .record (entry id result) <|
          .update (State.withCounters (Counters.conclude result.toBool)) fun _ => handleAll rest

def livePortIds (pods : List Pod) : KeySet :=
  .ofList (pods.map fun pod => Pod.portId pod.name pod.uid)

/-- One round. Without ports that belong to Pods there is nothing to ask, and without a list of the
Pods nothing is deleted. -/
def collect (order : VisitOrder String) : Procedure State Unit :=
  .read fun s =>
    let held := SubnetPorts.podPortIds s
    if held.isEmpty then .done ()
    else .call .pods fun
      | .error _ => .done ()
      | .ok pods => handleAll (order.arrange (held \ livePortIds pods).toList)

end NetIntent.StalePorts
