import NetIntent.Proofs.Group.Ledger

/-! The group while no failed write takes effect. It then shows the addresses last written beside
those of other writers after every operation, whichever calls have failed; and the operations touch
it only through syncs, of which each is all or nothing. -/
namespace NetIntent.VirtualServers

variable {settings : Settings} {remote : Remote} {own : String → Prop} {s s' : State} {w w' : Cloud}
  {calls : List Moment} {writes : List Write}

/-- A call about the group that is answered with a failure. -/
def Remote.failed (remote : Remote) (m : Moment) : Bool :=
  match m.call with
  | .getGroup domain group => !(remote.reply (.getGroup domain group) m.remote).1.isOk
  | .patchGroup domain group value => !(remote.reply (.patchGroup domain group value) m.remote).1.isOk
  | _ => false

/-- A sync never touches the servers. It fails when a call fails and then leaves everything as it
was; else the addresses held are those last written. It writes only what is due, and once. -/
structure AllOrNothing (settings : Settings) (remote : Remote) (s : State) (w : Cloud) : Prop where
  servers : ((sync settings).run remote.world (s, w)).2.1.servers = s.servers
  failure : ((sync settings).run remote.world (s, w)).1.isOk = false ↔
    ∃ m ∈ (sync settings).moments remote.world (s, w), remote.failed m = true
  nothing : ((sync settings).run remote.world (s, w)).1.isOk = false →
    ((sync settings).run remote.world (s, w)).2.1 = s ∧
      ((sync settings).run remote.world (s, w)).2.2.group = w.group
  all : ((sync settings).run remote.world (s, w)).1.isOk = true →
    ((sync settings).run remote.world (s, w)).2.1 = { s with published := s.addresses }
  due : (∃ m ∈ (sync settings).moments remote.world (s, w), m.call.onGroup = true) →
    s.published ≠ s.addresses
  once : ((sync settings).moments remote.world (s, w)).countP (·.call.writesGroup) ≤ 1

theorem Remote.acknowledged (honest : ∀ n, remote.takesEffect n = false) :
    ∀ write ∈ remote.writes calls, write.acknowledged = true := by
  intro write member
  obtain ⟨m, _, written⟩ := List.mem_filterMap.mp (List.mem_reverse.mp member)
  unfold Remote.write? at written
  split at written
  · split at written
    · cases written
      rfl
    · rw [honest] at written
      cases written
    · cases written
  · cases written

theorem reached_acknowledged {start scene : Scene} (honest : ∀ n, remote.takesEffect n = false)
    (starts : Starts own start) (reached : Reached settings remote own start scene) :
    ∀ write ∈ scene.writes, write.acknowledged = true := by
  induction reached with
  | start =>
    rw [starts.fresh]
    exact fun _ member => absurd member List.not_mem_nil
  | request _ request _ ih =>
    intro write member
    obtain now | earlier := List.mem_append.mp member
    · exact Remote.acknowledged honest write now
    · exact ih write earlier
  | others _ _ _ _ _ _ ih => exact ih

theorem settled_of_acknowledged (acknowledged : ∀ write ∈ writes, write.acknowledged = true) :
    Settled writes := by
  refine ⟨fun last newest => acknowledged last (List.mem_of_mem_head? newest), fun a => ?_⟩
  induction writes with
  | nil => exact id
  | cons write earlier ih =>
    have before := ih fun write member => acknowledged write (List.mem_cons_of_mem _ member)
    rw [Stray, if_pos (acknowledged write List.mem_cons_self)]
    exact fun stray => before stray.2

theorem Attempt.unlost {result : Except Failure Unit} (honest : ∀ n, remote.takesEffect n = false)
    (attempt : Attempt settings remote s w calls result s' w') (failed : result.isOk = false) :
    s' = s ∧ w'.group = w.group := by
  cases attempt with
  | agreed => cases failed
  | written => cases failed
  | unfetched _ _ kept => exact ⟨rfl, kept⟩
  | refused _ _ _ _ kept => exact ⟨rfl, kept⟩
  | @unread _ w₁ _ _ _ _ effect =>
    have acknowledged := @Remote.acknowledged remote [⟨s, w₁, settings.write s w⟩] honest
      ⟨s.published, s.addresses, false⟩
    simp only [Remote.writes, List.filterMap_cons, List.filterMap_nil, effect] at acknowledged
    cases acknowledged List.mem_cons_self

theorem Attempt.failure {result : Except Failure Unit}
    (attempt : Attempt settings remote s w calls result s' w') :
    result.isOk = false ↔ ∃ m ∈ calls, remote.failed m = true := by
  cases attempt with
  | agreed => simp [Except.isOk, Except.toBool]
  | unfetched _ get => simp [Except.isOk, Except.toBool, Remote.failed, get]
  | refused _ get patch | unread _ get patch | written _ get patch =>
    simp [Except.isOk, Except.toBool, Remote.failed, get, patch]

theorem Attempt.all {result : Except Failure Unit}
    (attempt : Attempt settings remote s w calls result s' w') (succeeded : result.isOk = true) :
    s' = { s with published := s.addresses } := by
  cases attempt with
  | agreed same => rw [← same]
  | written => rfl
  | _ => cases succeeded

theorem Attempt.due {result : Except Failure Unit}
    (attempt : Attempt settings remote s w calls result s' w')
    (touched : ∃ m ∈ calls, m.call.onGroup = true) : s.published ≠ s.addresses := by
  cases attempt with
  | agreed =>
    obtain ⟨_, member, _⟩ := touched
    cases member
  | unfetched differs | refused differs | unread differs | written differs => exact differs

theorem Attempt.once {result : Except Failure Unit}
    (attempt : Attempt settings remote s w calls result s' w') :
    calls.countP (·.call.writesGroup) ≤ 1 := by
  cases attempt <;> simp [Call.writesGroup]

theorem sync_all_or_nothing (enabled : settings.vipGroup.enabled = true)
    (honest : ∀ n, remote.takesEffect n = false) (s : State) (w : Cloud) :
    AllOrNothing settings remote s w :=
  have attempt := sync_attempt enabled remote s w
  ⟨attempt.servers, attempt.failure, attempt.unlost honest, attempt.all, attempt.due, attempt.once⟩

/-- Beside the addresses of other writers the group shows the addresses last written, in one list,
after any operations and failures. Each further operation is made of calls apart from the group and
syncs; what the calls confirm of the servers stands whatever becomes of the syncs. -/
theorem group_eq_foreign_union_published {start scene : Scene}
    (enabled : settings.vipGroup.enabled = true) (honest : ∀ n, remote.takesEffect n = false)
    (starts : Starts own start) (reached : Reached settings remote own start scene) :
    scene.cloud.group.lists.length ≤ 1 ∧
      scene.cloud.group.addresses = scene.cloud.foreign ∪ scene.state.published ∧
      (∀ request : Request,
        Effects settings remote scene.state scene.cloud (scene.calls settings remote request)
            (scene.after settings remote request).state (scene.after settings remote request).cloud ∧
          (scene.after settings remote request).state.servers =
            remote.confirmed (scene.calls settings remote request) scene.state.servers) ∧
      ∀ s w, AllOrNothing settings remote s w := by
  have tracked := (reached_tracked enabled starts reached).1
  have acknowledged := reached_acknowledged honest starts reached
  refine ⟨tracked.single, tracked.matching_iff_settled.mpr (settled_of_acknowledged acknowledged),
    fun request => ?_, sync_all_or_nothing enabled honest⟩
  have effects := (request_effects enabled remote scene request).1
  exact ⟨effects, effects.servers enabled⟩

namespace Sample

/-- The group write of the deletion is the third call. -/
def interrupted : Remote := .faulty server [2] false

def shared : Scene := start stocked ["10.0.0.2", "10.0.0.9"] ["10.0.0.9"]

def undone : Scene := shared.after standard interrupted (.delete "b")

def edited : Scene :=
  undone.rewritten (.ofList ["10.0.0.7"]) { expressions := [.addresses ["10.0.0.2", "10.0.0.7"]] }

def synced : Scene := edited.after standard interrupted .sync

end Sample

open Sample in
/-- A deletion whose group write fails, another writer's change and a sync. -/
theorem group_after_interrupted_deletion :
    (shared.answer standard interrupted (.delete "b")).isOk = false ∧
      undone.cloud.group.addresses.toList = ["10.0.0.2", "10.0.0.9"] ∧
      undone.state.addresses.toList = [] ∧
      synced.cloud.group.addresses = synced.cloud.foreign ∪ synced.state.published ∧
      synced.cloud.group.addresses.toList = ["10.0.0.7"] := by
  have starts : Starts (· = "10.0.0.2") shared :=
    { built := ⟨_, _, rfl⟩
      fresh := rfl
      single := Nat.le_refl 1
      group := Std.ExtTreeSet.toList_inj.mp (by decide +kernel)
      held := AddressSet.all_mem (by decide +kernel)
      apart := AddressSet.all_mem (by decide +kernel) }
  have deleted : Reached standard interrupted (· = "10.0.0.2") shared undone :=
    .request .start (.delete "b") (AddressSet.all_mem (by decide +kernel))
  have changed : Reached standard interrupted (· = "10.0.0.2") shared edited :=
    .others deleted _ _ (Nat.le_refl 1) (Std.ExtTreeSet.toList_inj.mp (by decide +kernel))
      (AddressSet.all_mem (by decide +kernel))
  have reached : Reached standard interrupted (· = "10.0.0.2") shared synced :=
    .request changed .sync (AddressSet.all_mem (by decide +kernel))
  have law := group_eq_foreign_union_published rfl (fun _ => rfl) starts reached
  exact ⟨by decide +kernel, by decide +kernel, by decide +kernel, law.2.1, by decide +kernel⟩

end NetIntent.VirtualServers
