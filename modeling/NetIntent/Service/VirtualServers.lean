import NetIntent.Realize.Poll
import NetIntent.Service.State

/-!
Operations on virtual servers. A server is submitted, realized, fetched and only then held; a
deletion counts also when the server was already gone. After each change the shared group is brought
in line with the addresses held, one operation at a time.
-/

namespace NetIntent.VirtualServers

def source : String := "VirtualServerService"

structure Settings where
  cluster : String
  policy : Backoff
  vipGroup : VipGroup

def Settings.ofConfig (c : Config) : Settings :=
  ⟨c.cluster, c.retry.forKind .virtualServer, c.vipGroup⟩

variable (settings : Settings)

/-- Writes the addresses held to the group if they are not the ones last written. -/
def publish : Procedure State (Except Failure Unit) :=
  let target := settings.vipGroup
  .read fun s =>
    let new := s.addresses
    if s.published = new then .leave (.done (.ok ()))
    else .call (.getGroup target.domain target.group) fun
      | .error e => .leave (.done (.error (.client e)))
      | .ok group =>
        .call (.patchGroup target.domain target.group (group.update s.published new)) fun
          | .error e => .leave (.done (.error (.client e)))
          | .ok () =>
            .update (fun t => { t with published := new }) fun _ => .leave (.done (.ok ()))

def sync : Procedure State (Except Failure Unit) :=
  if settings.vipGroup.enabled then .enter (publish settings) else .done (.ok ())

/-- Takes the addresses held as the ones already in the group. -/
def resetBaseline : Procedure State Unit :=
  .enter (.update (fun s => { s with published := s.addresses }) fun _ => .leave (.done ()))

/-- Submits a server, waits until it is realized and fetches it. -/
def realize (id : String) (server : VirtualServer) :
    Procedure State (Except Failure VirtualServer) :=
  .call (.patchServer id server) fun
    | .error e => .done (.error (.client e))
    | .ok () =>
      (Realization.poll settings.policy (Path.virtualServer id) []).bind fun
        | .error e => .done (.error (.realize e))
        | .ok () => .call (.getServer id) fun reply => .done (reply.mapError .client)

def createEntry (held : Bool) (id : String) (server : VirtualServer)
    (result : Except Failure VirtualServer) : Audit.Entry :=
  { Audit.Entry.about (if held then .modify else .create) source "create_or_update" id
      VirtualServer.kind with
    details := some (.map [("ip_address", (server.address.map Document.text).getD .null),
      ("ports", Document.ofTexts server.ports)]) }.concluded (Failure.messageOf result)

/-- Takes a confirmed server into the store and publishes its address. -/
def hold (confirmed : VirtualServer) : Procedure State (Except Failure VirtualServer) :=
  .update (State.withServers fun servers =>
      (servers.apply confirmed).toOption.getD servers) fun s =>
    match s.servers.apply confirmed with
    | .error e => .done (.error (.store e))
    | .ok _ => (sync settings).bind fun result => .done (result.map fun _ => confirmed)

def create (server : VirtualServer) : Procedure State (Except Failure VirtualServer) :=
  match server.id with
  | none => .done (.error (.missingId VirtualServer.kind))
  | some id =>
    .read fun s =>
      (realize settings id server).bind fun result =>
        .record (createEntry (s.servers.get? id).isSome id server result) <|
          match result with
          | .error f => .done (.error f)
          | .ok confirmed => hold settings confirmed

def deleteEntry (id : String) (result : Except Failure Unit) : Audit.Entry :=
  (Audit.Entry.about .delete source "delete" id VirtualServer.kind).concluded
    (Failure.messageOf result)

def delete (id : String) : Procedure State (Except Failure Unit) :=
  .call (.deleteServer id) fun reply =>
    let result := Failure.ofDeletion reply
    .record (deleteEntry id result) <|
      match result with
      | .error f => .done (.error f)
      | .ok () => .update (State.withServers (·.erase id)) fun _ => sync settings

/-- Deletes in turn and goes on after failures, whose messages are collected. -/
def deleteAll : List String → Procedure State (List String)
  | [] => .done []
  | id :: rest =>
    (delete settings id).bind fun result =>
      (deleteAll rest).bind fun messages =>
        .done (match result with
          | .ok () => messages
          | .error f => f.message :: messages)

/-- The servers of a service that listen on a port. -/
def ofServiceAndPort (s : State) (uid port : String) : List VirtualServer :=
  s.servers.recordsAt VirtualServer.servicePortIndex (VirtualServer.servicePortKey uid port)

def deleteForPort (order : VisitOrder VirtualServer) (uid port : String) :
    Procedure State (Except Failure Unit) :=
  .read fun s =>
    (deleteAll settings ((order.arrange (ofServiceAndPort s uid port)).filterMap (·.id))).bind
      fun messages => .done (if messages.isEmpty then .ok () else .error (.several messages))

def ofType (s : State) (type : String) : List VirtualServer :=
  s.servers.recordsAt VirtualServer.typeIndex type

def layer4 (s : State) : List VirtualServer := ofType s VirtualServer.layer4

def ofService (s : State) (uid : String) : List VirtualServer :=
  s.servers.recordsAt VirtualServer.serviceIndex uid

def keysOfService (s : State) (uid : String) : List String :=
  s.servers.keysAt VirtualServer.serviceIndex uid

def ofBalancer (s : State) (id : String) : List VirtualServer :=
  s.servers.recordsAt VirtualServer.balancerIndex id

def layer4Tags (service : ServiceRef) (pool : Option String) : List Tag :=
  service.layer4Tags settings.cluster pool

end NetIntent.VirtualServers
