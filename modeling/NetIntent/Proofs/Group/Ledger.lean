import NetIntent.Proofs.Group.Operations

/-! What the shared group holds at any time of a run, said from the writes that took effect. Beside
the addresses of other writers stand those of the latest write, and strays: addresses that a write
with a lost answer brought in and that no acknowledged write has taken over since. -/
namespace NetIntent.VirtualServers

variable {settings : Settings} {remote : Remote} {own : String → Prop} {s s' : State} {w w' : Cloud}
  {calls : List Moment} {writes : List Write} {a : String}

/-- The newest write comes first. -/
def Stray (a : String) : List Write → Prop
  | [] => False
  | write :: earlier =>
    if write.acknowledged then a ∉ write.wanted ∧ Stray a earlier
    else (a ∈ write.wanted ∧ a ∉ write.known) ∨ Stray a earlier

/-- The addresses of the latest write: those last written, unless the answer of a later one was
lost. -/
def latest (published : AddressSet) : List Write → AddressSet
  | [] => published
  | write :: _ => if write.acknowledged then published else write.wanted

/-- The latest write is acknowledged, and so is a later write of every address that a write with a
lost answer brought in. -/
def Settled (writes : List Write) : Prop :=
  (∀ last ∈ writes.head?, last.acknowledged = true) ∧ ∀ a, ¬Stray a writes

theorem latest_of_acknowledged {published : AddressSet}
    (acknowledged : ∀ last ∈ writes.head?, last.acknowledged = true) :
    latest published writes = published := by
  cases writes with
  | nil => rfl
  | cons last earlier => exact if_pos (acknowledged last rfl)

/-- The group is what its writes made of it. `own` are the addresses that the store may hold. -/
structure Tracked (own : String → Prop) (s : State) (w : Cloud) (writes : List Write) : Prop where
  single : w.group.lists.length ≤ 1
  apart : ∀ a ∈ w.foreign, ¬own a
  published : ∀ a ∈ s.published, own a
  group : ∀ a, a ∈ w.group.addresses ↔
    a ∈ w.foreign ∨ a ∈ latest s.published writes ∨ Stray a writes
  strays : ∀ a, Stray a writes → own a ∧ a ∉ s.published
  pending : ∀ last earlier, writes = last :: earlier → last.acknowledged = false →
    last.known = s.published ∧ last.wanted ≠ last.known ∧ ∀ a ∈ last.wanted, own a

namespace Tracked

/-- Only the part of the state that concerns the group matters. -/
theorem congr (tracked : Tracked own s w writes) (published : s'.published = s.published)
    (group : w'.group = w.group) (foreign : w'.foreign = w.foreign) : Tracked own s' w' writes := by
  obtain ⟨single, apart, owned, held, strays, pending⟩ := tracked
  constructor
  · rwa [group]
  · rwa [foreign]
  · rwa [published]
  · rwa [group, foreign, published]
  · rwa [published]
  · rwa [published]

theorem latest_own (tracked : Tracked own s w writes) (recent : a ∈ latest s.published writes) :
    own a := by
  cases writes with
  | nil => exact tracked.published a recent
  | cons last earlier =>
    simp only [latest] at recent
    split at recent
    · exact tracked.published a recent
    · rename_i lost
      exact (tracked.pending last earlier rfl (Bool.eq_false_iff.mpr lost)).2.2 a recent

/-- Other writers replace their part and leave the rest. -/
theorem rewritten {foreign : AddressSet} {group : Group} (tracked : Tracked own s w writes)
    (single : group.lists.length ≤ 1)
    (replaced : group.addresses = foreign ∪ (w.group.addresses \ w.foreign))
    (apart : ∀ a ∈ foreign, ¬own a) :
    Tracked own s { w with group, foreign } writes where
  single := single
  apart := apart
  published := tracked.published
  group a := by
    have kept : a ∈ latest s.published writes ∨ Stray a writes → a ∉ w.foreign := by
      rintro (recent | stray) before
      · exact tracked.apart a before (tracked.latest_own recent)
      · exact tracked.apart a before (tracked.strays a stray).1
    rw [replaced, Std.ExtTreeSet.mem_union_iff, Std.ExtTreeSet.mem_diff_iff, tracked.group]
    constructor
    · rintro (foreign | ⟨before | ours, unknown⟩)
      · exact .inl foreign
      · exact absurd before unknown
      · exact .inr ours
    · rintro (foreign | ours)
      · exact .inl foreign
      · exact .inr ⟨.inr ours, kept ours⟩
  strays := tracked.strays
  pending := tracked.pending

theorem stray_held (tracked : Tracked own s w writes) (stray : Stray a writes) :
    a ∈ w.group.addresses ∧ a ∉ w.foreign ∧ a ∉ s.published := by
  obtain ⟨owned, unknown⟩ := tracked.strays a stray
  exact ⟨(tracked.group a).mpr (.inr (.inr stray)), fun foreign => tracked.apart a foreign owned, unknown⟩

/-- A latest write with a lost answer leaves the group with other addresses than those known. -/
theorem acknowledged_of_matching (tracked : Tracked own s w writes) (unstrayed : ∀ a, ¬Stray a writes)
    (matching : ∀ a, a ∈ w.group.addresses ↔ a ∈ w.foreign ∨ a ∈ s.published) :
    ∀ last ∈ writes.head?, last.acknowledged = true := by
  cases writes with
  | nil => exact fun _ absent => nomatch absent
  | cons last earlier =>
    rintro _ ⟨rfl⟩
    cases lost : last.acknowledged with
    | true => rfl
    | false =>
      obtain ⟨known, differs, owned⟩ := tracked.pending last earlier rfl lost
      have shown : ∀ a, a ∈ w.group.addresses ↔ a ∈ w.foreign ∨ a ∈ last.wanted := fun a => by
        rw [tracked.group, latest, if_neg (Bool.eq_false_iff.mp lost)]
        simp only [unstrayed, or_false]
      refine absurd (Std.ExtTreeSet.ext_mem fun a => ?_) differs
      rw [known]
      constructor
      · intro wanted
        obtain foreign | published := (matching a).mp ((shown a).mpr (.inr wanted))
        · exact absurd (owned a wanted) (tracked.apart a foreign)
        · exact published
      · intro published
        obtain foreign | wanted := (shown a).mp ((matching a).mpr (.inr published))
        · exact absurd (tracked.published a published) (tracked.apart a foreign)
        · exact wanted

theorem matching_iff_settled (tracked : Tracked own s w writes) :
    w.group.addresses = w.foreign ∪ s.published ↔ Settled writes := by
  constructor
  · intro same
    have matching : ∀ a, a ∈ w.group.addresses ↔ a ∈ w.foreign ∨ a ∈ s.published := fun a => by
      rw [same, Std.ExtTreeSet.mem_union_iff]
    have unstrayed : ∀ a, ¬Stray a writes := fun a stray => by
      obtain ⟨held, apart, unknown⟩ := tracked.stray_held stray
      exact ((matching a).mp held).elim apart unknown
    exact ⟨tracked.acknowledged_of_matching unstrayed matching, unstrayed⟩
  · rintro ⟨acknowledged, unstrayed⟩
    apply Std.ExtTreeSet.ext_mem
    intro a
    rw [tracked.group, latest_of_acknowledged acknowledged, Std.ExtTreeSet.mem_union_iff]
    simp only [unstrayed, or_false]

/-- What a write leaves standing: the addresses of others and the strays. -/
theorem remains (tracked : Tracked own s w writes) :
    (a ∈ w.group.addresses ∧ a ∉ s.published) ↔ a ∈ w.foreign ∨ Stray a writes := by
  constructor
  · rintro ⟨held, unknown⟩
    obtain foreign | recent | stray := (tracked.group a).mp held
    · exact .inl foreign
    · cases writes with
      | nil => exact absurd recent unknown
      | cons last earlier =>
        simp only [latest] at recent
        split at recent
        · exact absurd recent unknown
        · rename_i lost
          have known := (tracked.pending last earlier rfl (Bool.eq_false_iff.mpr lost)).1
          refine .inr ?_
          rw [Stray, if_neg lost, known]
          exact .inl ⟨recent, unknown⟩
    · exact .inr stray
  · rintro (foreign | stray)
    · exact ⟨(tracked.group a).mpr (.inl foreign),
        fun known => tracked.apart a foreign (tracked.published a known)⟩
    · exact ⟨(tracked.group a).mpr (.inr (.inr stray)), (tracked.strays a stray).2⟩

theorem written (tracked : Tracked own s w writes) (owned : ∀ a ∈ s.addresses, own a)
    (changed : w'.group = w.group.update s.published s.addresses) (foreign : w'.foreign = w.foreign) :
    Tracked own { s with published := s.addresses } w'
      (⟨s.published, s.addresses, true⟩ :: writes) where
  single := changed ▸ Group.lists_update
  apart := foreign ▸ tracked.apart
  published := owned
  group a := by
    rw [changed, Group.mem_addresses_update, tracked.remains, foreign]
    simp only [latest, Stray, if_true]
    by_cases held : a ∈ s.addresses
    · simp only [held, or_true, true_or]
    · simp only [held, or_false, not_false_eq_true, true_and, false_or]
  strays a stray := by
    simp only [Stray, if_true] at stray
    exact ⟨(tracked.strays a stray.2).1, stray.1⟩
  pending last earlier same lost := by
    cases same
    cases lost

theorem unread (tracked : Tracked own s w writes) (owned : ∀ a ∈ s.addresses, own a)
    (differs : s.published ≠ s.addresses)
    (changed : w'.group = w.group.update s.published s.addresses) (foreign : w'.foreign = w.foreign) :
    Tracked own s w' (⟨s.published, s.addresses, false⟩ :: writes) where
  single := changed ▸ Group.lists_update
  apart := foreign ▸ tracked.apart
  published := tracked.published
  group a := by
    rw [changed, Group.mem_addresses_update, tracked.remains, foreign]
    simp only [latest, Stray, Bool.false_eq_true, if_false]
    by_cases held : a ∈ s.addresses
    · simp only [held, or_true, true_or]
    · simp only [held, or_false, false_and, false_or]
  strays a stray := by
    simp only [Stray, Bool.false_eq_true, if_false] at stray
    obtain ⟨held, unknown⟩ | stray := stray
    · exact ⟨owned a held, unknown⟩
    · exact tracked.strays a stray
  pending last earlier same _ := by
    cases same
    exact ⟨rfl, differs.symm, owned⟩

theorem attempt {result : Except Failure Unit} (tracked : Tracked own s w writes)
    (attempt : Attempt settings remote s w calls result s' w')
    (owned : ∀ write ∈ remote.writes calls, ∀ a ∈ write.wanted, own a) :
    Tracked own s' w' (remote.writes calls ++ writes) := by
  have foreign := attempt.foreign
  cases attempt with
  | agreed => exact tracked
  | unfetched _ _ kept => exact tracked.congr rfl kept foreign
  | refused _ _ _ lost kept =>
    simp only [Remote.writes, List.filterMap_cons, List.filterMap_nil, lost]
    exact tracked.congr rfl kept foreign
  | unread differs _ _ effect changed =>
    simp only [Remote.writes, List.filterMap_cons, List.filterMap_nil, effect] at owned ⊢
    exact tracked.unread (owned _ List.mem_cons_self) differs changed foreign
  | written _ _ _ effect changed =>
    simp only [Remote.writes, List.filterMap_cons, List.filterMap_nil, effect] at owned ⊢
    exact tracked.written (owned _ List.mem_cons_self) changed foreign

theorem effect {ok : Bool} (enabled : settings.vipGroup.enabled = true)
    (tracked : Tracked own s w writes) (effect : Effect settings remote s w calls ok s' w')
    (owned : ∀ write ∈ remote.writes calls, ∀ a ∈ write.wanted, own a) :
    Tracked own s' w' (remote.writes calls ++ writes) := by
  cases effect with
  | refused exchanges =>
    obtain ⟨published, group, foreign, none⟩ := exchanges.keeps
    exact none ▸ tracked.congr published group foreign
  | tried exchanges =>
    obtain ⟨published, group, foreign, none⟩ := exchanges.keeps
    rw [Remote.writes_append, none, List.append_nil] at owned ⊢
    exact (tracked.congr published group foreign).attempt (sync_attempt enabled remote _ _) owned

theorem effects (enabled : settings.vipGroup.enabled = true) (tracked : Tracked own s w writes)
    (effects : Effects settings remote s w calls s' w')
    (owned : ∀ write ∈ remote.writes calls, ∀ a ∈ write.wanted, own a) :
    Tracked own s' w' (remote.writes calls ++ writes) := by
  induction effects with
  | none => exact tracked
  | next _ effect ih =>
    simp only [Remote.writes_append, List.mem_append, List.append_assoc] at owned ⊢
    exact (ih fun write member => owned write (.inr member)).effect enabled effect
      fun write member => owned write (.inl member)

end Tracked

/-- Every scene of a run is tracked, whatever the remote side answers. -/
theorem reached_tracked {start scene : Scene} (enabled : settings.vipGroup.enabled = true)
    (starts : Starts own start) (reached : Reached settings remote own start scene) :
    Tracked own scene.state scene.cloud scene.writes ∧ ∀ a ∈ scene.state.addresses, own a := by
  induction reached with
  | start =>
    obtain ⟨⟨servers, ports, built⟩, fresh, single, group, held, apart⟩ := starts
    have published : start.state.published = start.state.addresses := by
      rw [built]
      rfl
    refine ⟨⟨single, apart, published ▸ held, fun a => ?_, fun a stray => ?_, fun _ _ same => ?_⟩, held⟩
    · rw [group, fresh, Std.ExtTreeSet.mem_union_iff, published]
      simp only [latest, Stray, or_false]
    · rw [fresh] at stray
      exact stray.elim
    · rw [fresh] at same
      cases same
  | request _ request held ih =>
    obtain ⟨tracked, before⟩ := ih
    obtain ⟨effects, wanted⟩ := request_effects enabled remote _ request
    exact ⟨tracked.effects enabled effects fun write member a requested =>
      (wanted write member a requested).elim (before a) (held a), held⟩
  | others _ foreign group single replaced apart ih =>
    exact ⟨ih.1.rewritten single replaced apart, ih.2⟩

end NetIntent.VirtualServers
