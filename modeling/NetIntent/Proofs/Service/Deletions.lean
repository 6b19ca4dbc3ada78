import NetIntent.Proofs.Collector.Round
import NetIntent.Proofs.Store.Losses

/-! Deletions, alone and in bulk. An object is lost exactly where the remote side confirms its deletion.
The servers of a service on one port are all asked for, whatever fails on the way; the ports of a Pod
only up to the first that fails. -/
namespace NetIntent

open StalePorts (Handling delete_handles)
open Store (Lost)

def Exchange.failure? (x : Exchange) : Option ClientError :=
  match x.reply with
  | .ok _ => none
  | .error e => some e

/-- What calls come to that end at the first failure. -/
def outcome (calls : List Exchange) : Except Failure Unit :=
  match calls.findSome? Exchange.failure? with
  | none => .ok ()
  | some e => .error (.client e)

variable {ω : Type} {world : World State ω} {s s' s'' : State}

namespace VirtualServers

/-- How a server was deleted: its deletion was confirmed, and calls about the group followed, or it was
answered with a failure. -/
inductive Removal where
  | confirmed (id : String) (reply : Except ClientError Unit) (group : List Exchange)
  | refused (id : String) (e : ClientError)

namespace Removal

def id : Removal → String
  | confirmed id _ _ | refused id _ => id

def Proper : Removal → Prop
  | confirmed _ reply group => Confirms reply = true ∧ ∀ x ∈ group, x.call.onGroup = true
  | refused _ e => Confirms (.error e : Except ClientError Unit) = false

def exchanges : Removal → List Exchange
  | confirmed id reply group => ⟨.deleteServer id, reply⟩ :: group
  | refused id e => [⟨.deleteServer id, .error e⟩]

def removed : Removal → Bool
  | confirmed .. => true
  | refused .. => false

def result : Removal → Except Failure Unit
  | confirmed _ _ group => outcome group
  | refused _ e => .error (.client e)

end Removal

theorem publish_outcome (settings : Settings) (s : State) (w : ω) :
    ((publish settings).run world (s, w)).1 = outcome ((publish settings).exchanges world (s, w)) := by
  unfold publish
  rw [Procedure.run_read, Procedure.exchanges_read]
  dsimp only
  split
  · rfl
  · rw [Procedure.run_call, Procedure.exchanges_call]
    rcases world.reply (.getGroup settings.vipGroup.domain settings.vipGroup.group) w
      with ⟨_ | group, w₁⟩
    · rfl
    · dsimp only
      rw [Procedure.run_call, Procedure.exchanges_call]
      generalize group.update s.published s.addresses = value
      rcases world.reply (.patchGroup settings.vipGroup.domain settings.vipGroup.group value) w₁
        with ⟨_ | _, w₂⟩ <;> rfl

theorem sync_outcome (settings : Settings) (s : State) (w : ω) :
    ((sync settings).run world (s, w)).1 = outcome ((sync settings).exchanges world (s, w)) := by
  unfold sync
  split
  · exact publish_outcome settings s w
  · rfl

/-- What one deletion asks, answers and leaves. -/
structure Removal.Accounts (r : Removal) (s : State) (calls : List Exchange)
    (result : Except Failure Unit) (s' : State) : Prop where
  proper : r.Proper
  calls : calls = r.exchanges
  result : result = r.result
  state : s' = if r.removed then { s with servers := s.servers.erase r.id, published := s'.published }
    else s
  gone : s'.servers.get? r.id = none ↔ r.removed = true ∨ s.servers.get? r.id = none

theorem delete_accounts (settings : Settings) (id : String) (s : State) (w : ω) :
    ∃ r : Removal, r.id = id ∧ r.Accounts s ((delete settings id).exchanges world (s, w))
      ((delete settings id).run world (s, w)).1 ((delete settings id).run world (s, w)).2.1 := by
  unfold delete
  rw [Procedure.exchanges_call, Procedure.run_call]
  rcases world.reply (.deleteServer id) w with ⟨reply, w₁⟩
  cases confirms : Confirms reply with
  | true =>
    simp only [Confirms.ofDeletion confirms]
    have published := sync_published settings world (s.withServers (·.erase id))
      (world.note (deleteEntry id (.ok ())) w₁)
    refine ⟨.confirmed id reply _, rfl, ⟨confirms, fun x member => ?_⟩, rfl,
      sync_outcome settings _ _, published.kept, ?_⟩
    · obtain ⟨m, made, rfl⟩ := List.mem_map.mp member
      exact (published.onGroup m made).1
    · have servers := congrArg State.servers published.kept
      exact iff_of_true (servers ▸ Store.get?_erase.trans (if_pos rfl)) (.inl rfl)
  | false =>
    obtain ⟨e, rfl, refused⟩ := refused_of_not_confirms confirms
    simp only [refused]
    exact ⟨.refused id e, rfl, confirms, rfl, rfl, rfl, by simp [Procedure.run, Removal.removed, Removal.id]⟩

/-- Servers deleted in turn: those removed are lost, and all other records stay. -/
structure Removed (removals : List Removal) (s : State) (calls : List Exchange) (s' : State) : Prop where
  proper : ∀ r ∈ removals, r.Proper
  calls : calls = removals.flatMap Removal.exchanges
  servers : Lost ((removals.filter (·.removed)).map Removal.id) s.servers s'.servers
  rest : s' = { s with servers := s'.servers, published := s'.published }

theorem Removal.Accounts.servers {r : Removal} {calls : List Exchange} {result : Except Failure Unit}
    (accounts : r.Accounts s calls result s') :
    s'.servers = if r.removed then s.servers.erase r.id else s.servers :=
  (congrArg State.servers accounts.state).trans (apply_ite State.servers _ _ _)

theorem Removed.cons {r : Removal} {removals : List Removal} {calls calls' : List Exchange}
    {result : Except Failure Unit} (consistent : s.servers.Consistent)
    (first : r.Accounts s calls result s') (rest : Removed removals s' calls' s'') :
    Removed (r :: removals) s (calls ++ calls') s'' where
  proper := List.forall_mem_cons.mpr ⟨first.proper, rest.proper⟩
  calls := by rw [first.calls, rest.calls, List.flatMap_cons]
  servers := .cons consistent first.servers rest.servers
  rest := by
    have state := first.state
    rw [rest.rest]
    split at state <;> rw [state]

theorem deleteAll_removes (settings : Settings) (ids : List String) (consistent : s.servers.Consistent)
    (w : ω) : ∃ removals : List Removal, removals.map Removal.id = ids ∧
      Removed removals s ((deleteAll settings ids).exchanges world (s, w))
        ((deleteAll settings ids).run world (s, w)).2.1 ∧
      ((deleteAll settings ids).run world (s, w)).1 =
        removals.filterMap fun r => Failure.messageOf r.result := by
  induction ids generalizing s w with
  | nil =>
    exact ⟨[], rfl, ⟨fun _ member => absurd member List.not_mem_nil, rfl, .none consistent, rfl⟩, rfl⟩
  | cons id rest ih =>
    obtain ⟨r, rfl, first⟩ := @delete_accounts ω world settings id s w
    simp only [deleteAll, Procedure.exchanges_bind, Procedure.run_bind, Procedure.exchanges_done,
      List.append_nil, Procedure.run]
    rcases ran : (delete settings r.id).run world (s, w) with ⟨result, s₁, w₁⟩
    rw [ran] at first
    have kept : s₁.servers.Consistent := by
      rw [first.servers]
      split
      · exact consistent.erase
      · exact consistent
    obtain ⟨removals, ids, more, messages⟩ := ih kept w₁
    refine ⟨r :: removals, congrArg (r.id :: ·) ids, .cons consistent first more, ?_⟩
    rw [messages, List.filterMap_cons, ← first.result]
    cases result <;> rfl

/-- The deletion of the servers of a service on one port: one deletion for each of them, and all failures
together. -/
structure RemovedForPort (removals : List Removal) (s : State) (key : String) (calls : List Exchange)
    (result : Except Failure Unit) (s' : State) : Prop where
  once : (removals.map Removal.id).Nodup
  each : ∀ id, id ∈ removals.map Removal.id ↔ s.servers.Finds VirtualServer.servicePortIndex key id
  removed : Removed removals s calls s'
  ok : result = .ok () ↔ ∀ r ∈ removals, r.result = .ok ()
  several : result ≠ .ok () →
    result = .error (.several (removals.filterMap fun r => Failure.messageOf r.result))

theorem messages_eq_nil {removals : List Removal} :
    (removals.filterMap fun r => Failure.messageOf r.result) = [] ↔
      ∀ r ∈ removals, r.result = .ok () := by
  rw [List.filterMap_eq_nil_iff]
  refine forall₂_congr fun r _ => ?_
  cases r.result <;> simp [Failure.messageOf]

theorem deleteForPort_removes (settings : Settings) (order : VisitOrder VirtualServer)
    (uid port : String) (sound : s.servers.Sound VirtualServer.indexNames) (w : ω) :
    ∃ removals : List Removal,
      (removals.map fun r => some r.id) = (order.arrange (ofServiceAndPort s uid port)).map (·.id) ∧
      RemovedForPort removals s (VirtualServer.servicePortKey uid port)
        ((deleteForPort settings order uid port).exchanges world (s, w))
        ((deleteForPort settings order uid port).run world (s, w)).1
        ((deleteForPort settings order uid port).run world (s, w)).2.1 := by
  obtain ⟨ids, found, once, each⟩ := sound.keys_of_found (by decide)
    (order.perm (ofServiceAndPort s uid port))
  have visited : (order.arrange (ofServiceAndPort s uid port)).map (·.id) = ids.map some := found
  have listed : (order.arrange (ofServiceAndPort s uid port)).filterMap (·.id) = ids := by
    have own := congrArg (List.filterMap fun id? => id?) visited
    simpa only [List.filterMap_map, Function.comp_def, List.filterMap_some] using own
  obtain ⟨removals, rfl, removed, messages⟩ :=
    @deleteAll_removes ω world s settings ids sound.consistent w
  refine ⟨removals, by rw [visited, List.map_map]; rfl, ?_⟩
  simp only [deleteForPort, Procedure.exchanges_read, Procedure.run_read, listed,
    Procedure.exchanges_bind, Procedure.run_bind, Procedure.exchanges_done, List.append_nil,
    Procedure.run, messages]
  refine ⟨once, each, removed, ?_, fun failed => ?_⟩
  · rw [← messages_eq_nil]
    cases removals.filterMap fun r => Failure.messageOf r.result <;> simp
  · cases messages : removals.filterMap fun r => Failure.messageOf r.result with
    | nil => exact absurd (by rw [messages]; rfl) failed
    | cons => rfl

end VirtualServers

namespace SubnetPorts

/-- What one deletion asks, answers and leaves. -/
structure Accounts (h : Handling) (s : State) (calls : List Exchange) (result : Except Failure Unit)
    (s' : State) : Prop where
  calls : calls = h.exchange?.toList
  result : result = h.result
  state : s' = if h.removed then s.withPorts (·.erase h.id) else s
  gone : s'.ports.get? h.id = none ↔ h.removed = true ∨ s.ports.get? h.id = none

/-- Ports deleted in turn up to the first that fails: all are removed, or those before it. -/
inductive UpToFirst (visited : List String) : List Handling → Except Failure Unit → Prop where
  | all {handled : List Handling} (ids : handled.map Handling.id = visited)
      (removed : ∀ h ∈ handled, h.removed = true) : UpToFirst visited handled (.ok ())
  | stopped {before : List Handling} {last : Handling} {unvisited : List String} {f : Failure}
      (ids : visited = before.map Handling.id ++ last.id :: unvisited)
      (removed : ∀ h ∈ before, h.removed = true) (kept : last.removed = false)
      (fails : last.result = .error f) : UpToFirst visited (before ++ [last]) (.error f)

theorem UpToFirst.next {h : Handling} {visited : List String} {handled : List Handling}
    {result : Except Failure Unit} (removed : h.removed = true)
    (rest : UpToFirst visited handled result) : UpToFirst (h.id :: visited) (h :: handled) result := by
  cases rest with
  | all ids all => exact .all (congrArg (h.id :: ·) ids) (List.forall_mem_cons.mpr ⟨removed, all⟩)
  | stopped ids before kept fails =>
    exact .stopped (congrArg (h.id :: ·) ids) (List.forall_mem_cons.mpr ⟨removed, before⟩) kept fails

theorem delete_accounts {port : SubnetPort} {id : String} (own : port.id = some id) (s : State) (w : ω) :
    ∃ h : Handling, h.id = id ∧ h.subnet? = port.subnetPath ∧
      Accounts h s ((delete port).exchanges world (s, w)) ((delete port).run world (s, w)).1
        ((delete port).run world (s, w)).2.1 := by
  obtain ⟨h, rfl, path, calls, -, result, state⟩ := @delete_handles ω world id port own s w
  refine ⟨h, rfl, path, calls, result, state, ?_⟩
  rw [state]
  cases h.removed <;> simp [State.withPorts, Store.get?_erase]

/-- Ports deleted in turn: those removed are lost, and all other records stay. -/
structure Removed (handled : List Handling) (s : State) (calls : List Exchange) (s' : State) : Prop where
  calls : calls = handled.filterMap Handling.exchange?
  ports : Lost ((handled.filter (·.removed)).map Handling.id) s.ports s'.ports
  rest : s' = { s with ports := s'.ports }

theorem Accounts.ports {h : Handling} {calls : List Exchange} {result : Except Failure Unit}
    (accounts : Accounts h s calls result s') :
    s'.ports = if h.removed then s.ports.erase h.id else s.ports :=
  (congrArg State.ports accounts.state).trans (apply_ite State.ports _ _ _)

theorem Removed.none (consistent : s.ports.Consistent) : Removed [] s [] s := ⟨rfl, .none consistent, rfl⟩

theorem Removed.cons {h : Handling} {handled : List Handling} {calls calls' : List Exchange}
    {result : Except Failure Unit} (consistent : s.ports.Consistent)
    (first : Accounts h s calls result s') (rest : Removed handled s' calls' s'') :
    Removed (h :: handled) s (calls ++ calls') s'' where
  calls := by
    rw [first.calls, rest.calls]
    cases h <;> rfl
  ports := .cons consistent first.ports rest.ports
  rest := by
    have state := first.state
    rw [rest.rest]
    split at state <;> rw [state]
    rfl

theorem deleteAll_removes {ports : List SubnetPort} {ids : List String} {start : State}
    (own : ports.map (·.id) = ids.map some)
    (held : ∀ port ∈ ports, ∀ id, port.id = some id → start.ports.get? id = some port)
    (consistent : s.ports.Consistent) (w : ω) : ∃ handled : List Handling,
      UpToFirst ids handled ((deleteAll ports).run world (s, w)).1 ∧
      Removed handled s ((deleteAll ports).exchanges world (s, w))
        ((deleteAll ports).run world (s, w)).2.1 ∧
      ∀ h ∈ handled, h.Of start := by
  induction ports generalizing ids s w with
  | nil =>
    obtain rfl : ids = [] := by simpa using own.symm
    exact ⟨[], .all rfl (by simp), .none consistent, by simp⟩
  | cons port rest ih =>
    cases ids with
    | nil => cases own
    | cons id ids =>
      rw [List.map_cons, List.map_cons, List.cons.injEq] at own
      obtain ⟨heldFirst, heldRest⟩ := List.forall_mem_cons.mp held
      obtain ⟨h, rfl, path, first⟩ := @delete_accounts ω world port id own.1 s w
      have path : h.Of start := .held (heldFirst _ own.1) path
      simp only [deleteAll, Procedure.exchanges_bind, Procedure.run_bind]
      rcases ran : (delete port).run world (s, w) with ⟨result, s₁, w₁⟩
      rw [ran] at first
      cases result with
      | ok _ =>
        have removed : h.removed = true := by rw [← h.result_toBool, ← first.result]; rfl
        have kept : s₁.ports.Consistent := by
          rw [first.ports, if_pos removed]
          exact consistent.erase
        obtain ⟨handled, ends, more, paths⟩ := ih own.2 heldRest kept w₁
        exact ⟨h :: handled, ends.next removed, .cons consistent first more,
          List.forall_mem_cons.mpr ⟨path, paths⟩⟩
      | error f =>
        have kept : h.removed = false := by rw [← h.result_toBool, ← first.result]; rfl
        have unchanged : s₁ = s := by simpa [kept] using first.state
        subst unchanged
        have ends : UpToFirst (h.id :: ids) ([] ++ [h]) (.error f) :=
          .stopped rfl (fun _ member => absurd member List.not_mem_nil) kept first.result.symm
        exact ⟨[h], ends, .cons consistent first (.none consistent),
          List.forall_mem_singleton.mpr path⟩

theorem UpToFirst.handled_prefix {visited : List String} {handled : List Handling}
    {result : Except Failure Unit} (ends : UpToFirst visited handled result) :
    handled.map Handling.id <+: visited := by
  cases ends with
  | all ids removed => exact ids ▸ List.prefix_rfl
  | @stopped before last unvisited _ ids removed kept fails =>
    exact ⟨unvisited, by rw [ids, List.map_append, List.append_assoc]; rfl⟩

/-- The deletion of the ports of a Pod. A port visited is gone exactly if it was handled and removed, and
all other ports stay. -/
structure RemovedOfPod (visited : List String) (handled : List Handling) (s : State) (key : String)
    (calls : List Exchange) (result : Except Failure Unit) (s' : State) : Prop where
  once : visited.Nodup
  each : ∀ id, id ∈ visited ↔ s.ports.Finds SubnetPort.podNameIndex key id
  paths : ∀ h ∈ handled, h.Of s
  ends : UpToFirst visited handled result
  removed : Removed handled s calls s'
  gone : ∀ id ∈ visited, s'.ports.get? id = none ↔ ∃ h ∈ handled, h.id = id ∧ h.removed = true
  others : s.ports.AgreeOutside (s.ports.Finds SubnetPort.podNameIndex key) s'.ports
  ok : result = .ok () → ∀ id, ¬s'.ports.Finds SubnetPort.podNameIndex key id

theorem mem_lost {handled : List Handling} {id : String} :
    id ∈ (handled.filter (·.removed)).map Handling.id ↔ ∃ h ∈ handled, h.id = id ∧ h.removed = true := by
  simp only [List.mem_map, List.mem_filter]
  constructor
  · rintro ⟨h, ⟨member, removed⟩, same⟩
    exact ⟨h, member, same, removed⟩
  · rintro ⟨h, member, same, removed⟩
    exact ⟨h, ⟨member, removed⟩, same⟩

theorem Removed.ofPod {visited : List String} {handled : List Handling} {key : String}
    {calls : List Exchange} {result : Except Failure Unit} (removed : Removed handled s calls s')
    (ends : UpToFirst visited handled result) (paths : ∀ h ∈ handled, h.Of s) (once : visited.Nodup)
    (each : ∀ id, id ∈ visited ↔ s.ports.Finds SubnetPort.podNameIndex key id) :
    RemovedOfPod visited handled s key calls result s' where
  once := once
  each := each
  paths := paths
  ends := ends
  removed := removed
  gone id member := by
    rw [← mem_lost]
    refine ⟨fun missing => Classical.byContradiction fun kept => ?_, removed.ports.missing id⟩
    obtain ⟨port, held, -⟩ := (each id).mp member
    rw [removed.ports.agree.held id kept, held] at missing
    cases missing
  others := by
    refine removed.ports.agree.mono fun id lost => ?_
    obtain ⟨h, member, rfl, -⟩ := mem_lost.mp lost
    have handledId : h.id ∈ handled.map Handling.id := List.mem_map_of_mem member
    exact (each h.id).mp (ends.handled_prefix.subset handledId)
  ok succeeded id finds := by
    subst succeeded
    obtain ⟨before, kept⟩ := removed.ports.finds_iff.mp finds
    cases ends with
    | all ids whole =>
      obtain ⟨h, member, rfl⟩ := List.mem_map.mp (ids ▸ (each id).mpr before)
      exact kept (mem_lost.mpr ⟨h, member, rfl, whole h member⟩)

theorem deleteOfPod_removes (order : VisitOrder SubnetPort) (namespaceName name : String)
    (sound : s.ports.Sound SubnetPort.indexNames) (w : ω) :
    ∃ (visited : List String) (handled : List Handling),
      (order.arrange (ofPod s namespaceName name)).map (·.id) = visited.map some ∧
      RemovedOfPod visited handled s (Pod.key namespaceName name)
        ((deleteOfPod order namespaceName name).exchanges world (s, w))
        ((deleteOfPod order namespaceName name).run world (s, w)).1
        ((deleteOfPod order namespaceName name).run world (s, w)).2.1 := by
  have perm := order.perm (ofPod s namespaceName name)
  obtain ⟨visited, found, once, each⟩ := sound.keys_of_found (by decide) perm
  have held : ∀ port ∈ order.arrange (ofPod s namespaceName name), ∀ id, port.id = some id →
      s.ports.get? id = some port := by
    intro port member id own
    rw [perm.mem_iff, ofPod, Store.mem_recordsAt sound.consistent
      (sound.indexes.symm ▸ by decide)] at member
    obtain ⟨⟨key, held⟩, -⟩ := member
    have keyed : port.id = some key := sound.consistent.keyed key port held
    exact Option.some.inj (own.symm.trans keyed) ▸ held
  obtain ⟨handled, ends, removed, paths⟩ :=
    @deleteAll_removes ω world s _ visited s found held sound.consistent w
  exact ⟨visited, handled, found, removed.ofPod ends paths once each⟩

end SubnetPorts

/-- Deletions take effect exactly where the remote side confirms them: one server or port, the servers
of a service on one port, and the ports of a Pod. -/
theorem deletions_remove_what_is_confirmed (settings : VirtualServers.Settings) (world : World State ω)
    (servers : s.servers.Sound VirtualServer.indexNames)
    (ports : s.ports.Sound SubnetPort.indexNames) (w : ω) :
    (∀ id : String, ∃ r : VirtualServers.Removal, r.id = id ∧
      r.Accounts s ((VirtualServers.delete settings id).exchanges world (s, w))
        ((VirtualServers.delete settings id).run world (s, w)).1
        ((VirtualServers.delete settings id).run world (s, w)).2.1) ∧
    (∀ port : SubnetPort, (∀ id, port.id = some id → ∃ h : Handling, h.id = id ∧
        h.subnet? = port.subnetPath ∧
        SubnetPorts.Accounts h s ((SubnetPorts.delete port).exchanges world (s, w))
          ((SubnetPorts.delete port).run world (s, w)).1
          ((SubnetPorts.delete port).run world (s, w)).2.1) ∧
      (port.id = none → (SubnetPorts.delete port).exchanges world (s, w) = [] ∧
        (SubnetPorts.delete port).run world (s, w) =
          (.error (.missingId SubnetPort.kind), s, w))) ∧
    (∀ (order : VisitOrder VirtualServer) (uid port : String),
      ∃ removals : List VirtualServers.Removal,
        (removals.map fun r => some r.id) =
          (order.arrange (VirtualServers.ofServiceAndPort s uid port)).map (·.id) ∧
        VirtualServers.RemovedForPort removals s (VirtualServer.servicePortKey uid port)
          ((VirtualServers.deleteForPort settings order uid port).exchanges world (s, w))
          ((VirtualServers.deleteForPort settings order uid port).run world (s, w)).1
          ((VirtualServers.deleteForPort settings order uid port).run world (s, w)).2.1) ∧
    ∀ (order : VisitOrder SubnetPort) (namespaceName name : String),
      ∃ (visited : List String) (handled : List Handling),
        (order.arrange (SubnetPorts.ofPod s namespaceName name)).map (·.id) = visited.map some ∧
        SubnetPorts.RemovedOfPod visited handled s (Pod.key namespaceName name)
          ((SubnetPorts.deleteOfPod order namespaceName name).exchanges world (s, w))
          ((SubnetPorts.deleteOfPod order namespaceName name).run world (s, w)).1
          ((SubnetPorts.deleteOfPod order namespaceName name).run world (s, w)).2.1 := by
  refine ⟨fun id => VirtualServers.delete_accounts settings id s w, fun port => ⟨fun id own =>
      SubnetPorts.delete_accounts own s w, fun bare => ?_⟩,
    fun order uid port => VirtualServers.deleteForPort_removes settings order uid port servers w,
    fun order namespaceName name => SubnetPorts.deleteOfPod_removes order namespaceName name ports w⟩
  simp only [SubnetPorts.delete, bare]
  exact ⟨rfl, rfl⟩

namespace Sample

def server (id port address : String) : VirtualServer :=
  { id := some id, ports := [port], address := some address, tags := [⟨Tag.Scope.serviceUid, "u"⟩] }

/-- Two servers of a service on one port and one on another. -/
def servers : List (Store.Change VirtualServer) :=
  [.apply (server "a" "80" "10.0.0.1"), .apply (server "b" "80" "10.0.0.2"),
    .apply (server "c" "443" "10.0.0.3")]

def port (id pod : String) : SubnetPort :=
  { id := some id, parentPath := some "/s"
    tags := [⟨Tag.Scope.namespaceName, "ns"⟩, ⟨Tag.Scope.podName, pod⟩] }

/-- Three ports of a Pod and one of another. -/
def ports : List (Store.Change SubnetPort) :=
  [.apply (port "w" "db"), .apply (port "x" "web"), .apply (port "y" "web"), .apply (port "z" "web")]

def start : State :=
  .ofStores (VirtualServer.emptyStore.served servers) (SubnetPort.emptyStore.served ports)

/-- One server and one port are not deleted, and the group is not answered. -/
def remote : World State Unit where
  reply
    | .deleteServer id, w => (if id = "a" then .error (.transport "down") else .ok (), w)
    | .deletePort _ id, w => (if id = "y" then .error (.transport "down") else .ok (), w)
    | _, w => (.error (.transport "busy"), w)
  chance limit w := (limit, w)
  note _ w := w
  pass _ state := state

def settings : VirtualServers.Settings := ⟨"cluster", .standard, {}⟩

def ofPort : Procedure State (Except Failure Unit) :=
  VirtualServers.deleteForPort settings (.held _) "u" "80"

def ofPod : Procedure State (Except Failure Unit) := SubnetPorts.deleteOfPod (.held _) "ns" "web"

end Sample

open Sample in
/-- Of two servers one is refused and one lost, with an unanswered group; of three ports the second is
refused and the third not asked for. -/
theorem refused_deletions_remove_less :
    start.servers.Sound VirtualServer.indexNames ∧ start.ports.Sound SubnetPort.indexNames ∧
    (∃ removals : List VirtualServers.Removal,
      (removals.map fun r => some r.id) = [some "a", some "b"] ∧
      VirtualServers.RemovedForPort removals start (VirtualServer.servicePortKey "u" "80")
        (ofPort.exchanges remote (start, ())) (ofPort.run remote (start, ())).1
        (ofPort.run remote (start, ())).2.1) ∧
    Failure.messageOf (ofPort.run remote (start, ())).1 =
      some "transport error: down\ntransport error: busy" ∧
    (ofPort.run remote (start, ())).2.1.servers.keys = ["a", "c"] ∧
    Failure.messageOf (ofPod.run remote (start, ())).1 = some "transport error: down" ∧
    (ofPod.run remote (start, ())).2.1.ports.keys = ["w", "y", "z"] := by
  have servers : start.servers.Sound VirtualServer.indexNames := Store.served_sound _ _
  have ports : start.ports.Sound SubnetPort.indexNames := Store.served_sound _ _
  have law := deletions_remove_what_is_confirmed settings remote servers ports ()
  obtain ⟨removals, visited, removed⟩ := law.2.2.1 (.held _) "u" "80"
  have found : (VirtualServers.ofServiceAndPort start "u" "80").map (·.id) = [some "a", some "b"] := by
    decide +kernel
  exact ⟨servers, ports, ⟨removals, visited.trans found, removed⟩, by decide +kernel, by decide +kernel,
    by decide +kernel, by decide +kernel⟩

end NetIntent
