import NetIntent.Proofs.Store.Commutation
import NetIntent.Proofs.Store.Frame

/-! What is found in a store that was built up by changes, and what is left of it when some keys are
lost: nothing under these, and under all others what was there. -/
namespace NetIntent.Store

variable {R : Type} [Indexed R] {s s' s'' : Store R} {names : List String} {name value key : String}

/-- A store with some indexes that lists every record as it is held. -/
structure Sound (names : List String) (s : Store R) : Prop where
  consistent : s.Consistent
  indexes : s.indexNames = names

/-- Whatever changes a new store has served, it is sound. -/
theorem served_sound (names : List String) (changes : List (Change R)) :
    ((Store.empty names : Store R).served changes).Sound names := by
  have kept := serveAll_refines (Consistent.empty (R := R) names) (fun _ => rfl) changes
  exact ⟨kept.2.1, kept.2.2.1⟩

/-- The record held under a key has a value among its keys of the named index. -/
def Finds (s : Store R) (name value key : String) : Prop :=
  ∃ r, s.get? key = some r ∧ value ∈ Indexed.indexKeys name r

/-- The records found under a value, in any order, are each held under a key of their own. -/
theorem Sound.keys_of_found (sound : s.Sound names) (registered : name ∈ names) {records : List R}
    (found : records.Perm (s.recordsAt name value)) :
    ∃ keys : List String, records.map Indexed.key = keys.map some ∧ keys.Nodup ∧
      ∀ key, key ∈ keys ↔ s.Finds name value key := by
  have own : (s.recordsAt name value).map Indexed.key = (s.keysAt name value).map some :=
    map_key_of_found sound.consistent (recordsAt_map_some sound.consistent)
  have listed : (records.filterMap Indexed.key).Perm (s.keysAt name value) := by
    have whole : (s.recordsAt name value).filterMap Indexed.key = s.keysAt name value := by
      rw [← Function.id_comp (Indexed.key (R := R)), ← List.filterMap_map, own, List.filterMap_map]
      exact List.filterMap_some
    exact whole ▸ found.filterMap Indexed.key
  refine ⟨records.filterMap Indexed.key, ?_, listed.nodup_iff.mpr keysAt_nodup, fun key => ?_⟩
  · rw [List.map_filterMap_some_eq_filter_map_isSome]
    refine (List.filter_eq_self.mpr fun key member => ?_).symm
    rw [(found.map Indexed.key).mem_iff, own] at member
    obtain ⟨_, -, rfl⟩ := List.mem_map.mp member
    rfl
  · rw [listed.mem_iff, mem_keysAt sound.consistent (sound.indexes.symm ▸ registered)]
    rfl

/-- A store after the loss of some keys. -/
structure Lost (gone : List String) (s s' : Store R) : Prop where
  consistent : s'.Consistent
  missing : ∀ key ∈ gone, s'.get? key = none
  agree : AgreeOutside (· ∈ gone) s s'

namespace Lost

variable {gone gone' : List String}

theorem none (consistent : s.Consistent) : Lost [] s s :=
  ⟨consistent, fun _ member => absurd member List.not_mem_nil, .refl s⟩

theorem erase (consistent : s.Consistent) : Lost [key] s (s.erase key) where
  consistent := consistent.erase
  missing k member := by rw [get?_erase, if_pos (List.mem_singleton.mp member)]
  agree := (erase_agree s key).mono fun _ same => List.mem_singleton.mpr same

theorem trans (first : Lost gone s s') (rest : Lost gone' s' s'') : Lost (gone ++ gone') s s'' where
  consistent := rest.consistent
  missing k member := by
    by_cases later : k ∈ gone'
    · exact rest.missing k later
    · rw [rest.agree.held k later]
      exact first.missing k ((List.mem_append.mp member).resolve_right later)
  agree := (first.agree.mono fun _ => List.mem_append_left gone').trans
    (rest.agree.mono fun _ => List.mem_append_right gone)

/-- Items in turn, each of which loses its key or nothing. -/
theorem cons {ι : Type} {id : ι → String} {removed : ι → Bool} {item : ι} {rest : List ι}
    (consistent : s.Consistent) (first : s' = if removed item then s.erase (id item) else s)
    (later : Lost ((rest.filter removed).map id) s' s'') :
    Lost (((item :: rest).filter removed).map id) s s'' := by
  cases own : removed item with
  | true =>
    rw [own, if_pos rfl] at first
    subst first
    rw [List.filter_cons_of_pos own]
    exact (erase consistent).trans later
  | false =>
    rw [own, if_neg Bool.false_ne_true] at first
    subst first
    rw [List.filter_cons_of_neg (by simp [own])]
    exact later

/-- What is still found was found before, and is not lost. -/
theorem finds_iff (lost : Lost gone s s') :
    s'.Finds name value key ↔ s.Finds name value key ∧ key ∉ gone := by
  constructor
  · rintro ⟨r, held, listed⟩
    have kept : key ∉ gone := by
      intro member
      rw [lost.missing key member] at held
      cases held
    exact ⟨⟨r, (lost.agree.held key kept).symm.trans held, listed⟩, kept⟩
  · rintro ⟨⟨r, held, listed⟩, kept⟩
    exact ⟨r, (lost.agree.held key kept).trans held, listed⟩

end Lost

end NetIntent.Store
