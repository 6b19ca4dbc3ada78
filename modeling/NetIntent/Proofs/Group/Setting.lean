import NetIntent.Proofs.Run
import NetIntent.Service.VirtualServers

/-! The shared group seen from outside. The remote side answers every call at will; of the group it
keeps what the last write that took effect put there, and a write may take effect although its
answer is lost. Other writers change their own part of the group between the operations. -/
namespace NetIntent

/-- The lists of addresses among a group's expressions. -/
def Group.lists (g : Group) : List (List String) :=
  g.expressions.filterMap fun
    | .addresses items => some items
    | .other => none

namespace VirtualServers

structure Remote where
  /-- The answer to a call, by the number of calls made before. A group that is asked for is
  answered with its present content. -/
  answer : Nat → (c : Call) → c.Reply
  /-- Whether a group write takes effect when its answer is lost. -/
  takesEffect : Nat → Bool
  chance : Nat → Float → Float

structure Cloud where
  calls : Nat := 0
  group : Group
  /-- The addresses that other writers have in the group. -/
  foreign : AddressSet

namespace Remote

def reply (remote : Remote) (c : Call) (w : Cloud) : c.Reply × Cloud :=
  let next := { w with calls := w.calls + 1 }
  match c with
  | .getGroup domain group =>
    ((remote.answer w.calls (.getGroup domain group)).map fun _ => w.group, next)
  | .patchGroup domain group value =>
    match remote.answer w.calls (.patchGroup domain group value) with
    | .ok () => (.ok (), { next with group := value })
    | .error (.transport text) =>
      (.error (.transport text),
        if remote.takesEffect w.calls then { next with group := value } else next)
    | .error e => (.error e, next)
  | c => (remote.answer w.calls c, next)

/-- Nothing else happens while an operation waits. -/
def world (remote : Remote) : World State Cloud where
  reply := remote.reply
  chance limit w := (remote.chance w.calls limit, w)
  note _ w := w
  pass _ state := state

@[simp]
theorem reply_world (remote : Remote) : remote.world.reply = remote.reply := rfl

end Remote

/-- A group write that took effect: the addresses last written and those held when it was made. -/
structure Write where
  known : AddressSet
  wanted : AddressSet
  acknowledged : Bool

abbrev Moment := Procedure.Moment State Cloud

/-- The group write that a call comes to, if it takes effect. -/
def Remote.write? (remote : Remote) (m : Moment) : Option Write :=
  match m.call with
  | .patchGroup domain group value =>
    match remote.answer m.remote.calls (.patchGroup domain group value) with
    | .ok () => some ⟨m.state.published, m.state.addresses, true⟩
    | .error (.transport _) =>
      if remote.takesEffect m.remote.calls then
        some ⟨m.state.published, m.state.addresses, false⟩
      else none
    | .error _ => none
  | _ => none

/-- The writes among some calls that took effect, the newest first. -/
def Remote.writes (remote : Remote) (calls : List Moment) : List Write :=
  (calls.filterMap remote.write?).reverse

/-- The operations that change virtual servers or the group. -/
inductive Request where
  | create (server : VirtualServer)
  | delete (id : String)
  | deleteForPort (order : VisitOrder VirtualServer) (uid port : String)
  | sync

namespace Request

abbrev Answer : Request → Type
  | create _ => VirtualServer
  | delete _ | deleteForPort .. | sync => Unit

def procedure (settings : Settings) : (request : Request) → Procedure State (Except Failure request.Answer)
  | create server => VirtualServers.create settings server
  | delete id => VirtualServers.delete settings id
  | deleteForPort order uid port => VirtualServers.deleteForPort settings order uid port
  | sync => VirtualServers.sync settings

end Request

/-- The service and the remote side between two operations, with the group writes so far that took
effect, the newest first. -/
structure Scene where
  state : State
  cloud : Cloud
  writes : List Write := []

namespace Scene

variable (settings : Settings) (remote : Remote) (scene : Scene) (request : Request)

def answer : Except Failure request.Answer :=
  ((request.procedure settings).run remote.world (scene.state, scene.cloud)).1

def calls : List Moment :=
  (request.procedure settings).moments remote.world (scene.state, scene.cloud)

def after : Scene where
  state := ((request.procedure settings).run remote.world (scene.state, scene.cloud)).2.1
  cloud := ((request.procedure settings).run remote.world (scene.state, scene.cloud)).2.2
  writes := remote.writes (calls settings remote scene request) ++ scene.writes

/-- What other writers leave of the group: their part is replaced, the rest stands. -/
def rewritten (foreign : AddressSet) (group : Group) : Scene :=
  { scene with cloud := { scene.cloud with group, foreign } }

end Scene

section

variable (settings : Settings) (remote : Remote) (own : String → Prop)

/-- A service built over a store, whose addresses stand in the group beside those of others. The
addresses that the store ever holds are among its `own`. -/
structure Starts (start : Scene) : Prop where
  built : ∃ servers ports, start.state = State.ofStores servers ports
  fresh : start.writes = []
  single : start.cloud.group.lists.length ≤ 1
  group : start.cloud.group.addresses = start.cloud.foreign ∪ start.state.addresses
  held : ∀ a ∈ start.state.addresses, own a
  apart : ∀ a ∈ start.cloud.foreign, ¬own a

/-- Operations in any order, with other writers between them. -/
inductive Reached (start : Scene) : Scene → Prop where
  | start : Reached start start
  | request {scene : Scene} (reached : Reached start scene) (request : Request)
      (held : ∀ a ∈ (scene.after settings remote request).state.addresses, own a) :
      Reached start (scene.after settings remote request)
  | others {scene : Scene} (reached : Reached start scene) (foreign : AddressSet) (group : Group)
      (single : group.lists.length ≤ 1)
      (replaced : group.addresses = foreign ∪ (scene.cloud.group.addresses \ scene.cloud.foreign))
      (apart : ∀ a ∈ foreign, ¬own a) :
      Reached start (scene.rewritten foreign group)

end

/-- A remote side on which nothing fails, apart from the calls at the given numbers. -/
def Remote.faulty (server : VirtualServer) (faults : List Nat) (takesEffect : Bool) : Remote where
  answer n c :=
    if n ∈ faults then .error (.transport "connection reset")
    else match c with
      | .patchServer .. | .deleteServer _ | .patchPort .. | .deletePort .. | .patchGroup .. => .ok ()
      | .getServer _ => .ok server
      | .getPort .. => .ok {}
      | .getGroup .. => .ok {}
      | .entities _ => .ok ⟨[]⟩
      | .pods => .ok []
  takesEffect _ := takesEffect
  chance _ _ := 0.0

namespace Sample

def standard : Settings := ⟨"cluster", .virtualServer, {}⟩

def server : VirtualServer where
  id := some "b"
  address := some "10.0.0.2"
  ports := ["80"]
  tags := [⟨Tag.Scope.serviceUid, "uid"⟩]

def stocked : Store VirtualServer := VirtualServer.emptyStore.insert "b" server

/-- A service over a store, and a group that lists some addresses. -/
def start (servers : Store VirtualServer) (listed foreign : List String) : Scene where
  state := .ofStores servers SubnetPort.emptyStore
  cloud := { group := { expressions := [.addresses listed] }, foreign := .ofList foreign }

end Sample

end VirtualServers

end NetIntent
