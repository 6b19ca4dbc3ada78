import NetIntent.Realize.Poll
import NetIntent.Service.State

/-!
Operations on subnet ports. A port is submitted under its subnet, realized, fetched and only then
held; a deletion counts also when the port was already gone.
-/

namespace NetIntent.SubnetPorts

def source : String := "SubnetPortService"

structure Settings where
  policy : Backoff

def Settings.ofConfig (c : Config) : Settings := ⟨c.retry.forKind .subnetPort⟩

variable (settings : Settings)

/-- Submits a port, waits until it is realized and fetches it. -/
def realize (subnet id : String) (port : SubnetPort) :
    Procedure State (Except Failure SubnetPort) :=
  .call (.patchPort subnet id port) fun
    | .error e => .done (.error (.client e))
    | .ok () =>
      (Realization.poll settings.policy (Path.subnetPort subnet id) []).bind fun
        | .error e => .done (.error (.realize e))
        | .ok () => .call (.getPort subnet id) fun reply => .done (reply.mapError .client)

def createEntry (held : Bool) (subnet id : String) (result : Except Failure SubnetPort) :
    Audit.Entry :=
  { Audit.Entry.about (if held then .modify else .create) source "create_or_update" id
      SubnetPort.kind with
    details := some (.map [("subnet_path", .text subnet)]) }.concluded (Failure.messageOf result)

/-- A confirmed port without a parent belongs to the subnet it was submitted under. -/
def confirmed (subnet : String) (port : SubnetPort) : SubnetPort :=
  { port with parentPath := port.parentPath <|> some subnet }

def hold (port : SubnetPort) : Procedure State (Except Failure SubnetPort) :=
  .update (State.withPorts fun ports => (ports.apply port).toOption.getD ports) fun s =>
    match s.ports.apply port with
    | .error e => .done (.error (.store e))
    | .ok _ => .done (.ok port)

def create (port : SubnetPort) (subnet : String) : Procedure State (Except Failure SubnetPort) :=
  match port.id with
  | none => .done (.error (.missingId SubnetPort.kind))
  | some id =>
    .read fun s =>
      (realize settings subnet id port).bind fun result =>
        .record (createEntry (s.ports.get? id).isSome subnet id result) <|
          match result with
          | .error f => .done (.error f)
          | .ok port => hold (confirmed subnet port)

def deleteEntry (id : String) (result : Except Failure Unit) : Audit.Entry :=
  (Audit.Entry.about .delete source "delete" id SubnetPort.kind).concluded
    (Failure.messageOf result)

def delete (port : SubnetPort) : Procedure State (Except Failure Unit) :=
  match port.id, port.subnetPath with
  | none, _ => .done (.error (.missingId SubnetPort.kind))
  | some _, none => .done (.error (.missingField SubnetPort.kind "parent_path"))
  | some id, some subnet =>
    .call (.deletePort subnet id) fun reply =>
      let result := Failure.ofDeletion reply
      .record (deleteEntry id result) <|
        match result with
        | .error f => .done (.error f)
        | .ok () => .update (State.withPorts (·.erase id)) fun _ => .done (.ok ())

/-- Deletes the port held under an id; there is nothing to do for other ids. -/
def deleteById (id : String) : Procedure State (Except Failure Unit) :=
  .read fun s =>
    match s.ports.get? id with
    | some port => delete port
    | none => .done (.ok ())

/-- The ids of the held ports that belong to a Pod. -/
def podPortIds (s : State) : KeySet :=
  .ofList ((s.ports.list.filter fun p => p.podUid.isSome).filterMap (·.id))

def ofPod (s : State) (namespaceName name : String) : List SubnetPort :=
  s.ports.recordsAt SubnetPort.podNameIndex (Pod.key namespaceName name)

def ofSubnet (s : State) (subnet : String) : List SubnetPort :=
  s.ports.recordsAt SubnetPort.subnetIndex subnet

def subnetOf (s : State) (id : String) : Option String := (s.ports.get? id).bind (·.subnetPath)

/-- Deletes in turn up to the first failure. -/
def deleteAll : List SubnetPort → Procedure State (Except Failure Unit)
  | [] => .done (.ok ())
  | port :: rest =>
    (delete port).bind fun
      | .error f => .done (.error f)
      | .ok () => deleteAll rest

def deleteOfPod (order : VisitOrder SubnetPort) (namespaceName name : String) :
    Procedure State (Except Failure Unit) :=
  .read fun s => deleteAll (order.arrange (ofPod s namespaceName name))

end NetIntent.SubnetPorts
