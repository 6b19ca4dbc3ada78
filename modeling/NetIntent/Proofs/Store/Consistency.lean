import NetIntent.Proofs.Store.Tables

/-! What every change of a store keeps: records stand under their own keys, the tables are those of
the index names, and each table lists exactly the records held. -/
namespace NetIntent.Store

variable {R : Type} [Indexed R] {s : Store R} {key name value : String} {record : R}

/-- A table has a held record under each of its index keys in the named index, and nothing else. -/
structure Lists (records : Std.ExtTreeMap String R) (name : String) (t : IndexTable) : Prop where
  full : t.Full
  mem_keys : ∀ value key,
    key ∈ t.keys value ↔ ∃ r, records[key]? = some r ∧ value ∈ Indexed.indexKeys name r

structure Consistent (s : Store R) : Prop where
  keyed : ∀ key r, s.get? key = some r → Indexed.key r = some key
  named : ∀ name, name ∈ s.tables ↔ name ∈ s.indexNames
  lists : ∀ name t, s.tables[name]? = some t → Lists s.records name t

theorem Lists.dropped {records : Std.ExtTreeMap String R} {t : IndexTable}
    (lists : Lists records name t) (held : records[key]? = some record) :
    Lists (records.erase key) name (t.dropAll key (Indexed.indexKeys name record)) := by
  refine ⟨lists.full.dropAll, fun value k => ?_⟩
  rw [IndexTable.mem_keys_dropAll, lists.mem_keys]
  by_cases same : k = key
  · subst same
    simp [held]
  · simp [Std.ExtTreeMap.getElem?_erase, same, Ne.symm same]

theorem Lists.added {records : Std.ExtTreeMap String R} {t : IndexTable}
    (lists : Lists records name t) (free : records[key]? = none) :
    Lists (records.insert key record) name (t.addAll key (Indexed.indexKeys name record)) := by
  refine ⟨lists.full.addAll, fun value k => ?_⟩
  rw [IndexTable.mem_keys_addAll, lists.mem_keys]
  by_cases same : k = key
  · subst same
    simp [free]
  · simp [Std.ExtTreeMap.getElem?_insert, same, Ne.symm same]

namespace Consistent

theorem empty (names : List String) : (Store.empty names : Store R).Consistent where
  keyed key r found := by simp [Store.empty, get?] at found
  named name := by simp [Store.empty, Std.ExtTreeMap.mem_ofList, Function.comp_def]
  lists name t found := by
    have bare : t = ∅ := by
      rw [Store.empty, Std.ExtTreeMap.ofList_eq_insertMany_empty,
        Std.ExtTreeMap.getElem?_insertMany_list] at found
      simp only [List.findSomeRev?_eq_findSome?_reverse, Std.ExtTreeMap.getElem?_empty,
        Option.or_none] at found
      obtain ⟨⟨_, _⟩, member, picked⟩ := List.exists_of_findSome?_eq_some found
      grind
    subst bare
    exact ⟨fun value keys found => by simp at found, by simp [Store.empty]⟩

theorem erase (consistent : s.Consistent) : (s.erase key).Consistent := by
  cases held : s.get? key with
  | none => rwa [erase_of_missing held]
  | some old =>
    refine ⟨fun k r found => ?_, fun name => ?_, fun name t found => ?_⟩
    · rw [get?_erase] at found
      split at found
      · contradiction
      · exact consistent.keyed k r found
    · rw [indexNames_erase, ← consistent.named, erase_of_held held]
      simp [unindex]
    · rw [erase_of_held held] at found ⊢
      rw [getElem?_unindex, Option.map_eq_some_iff] at found
      obtain ⟨before, found, rfl⟩ := found
      exact (consistent.lists name before found).dropped held

theorem insert (consistent : s.Consistent) (own : Indexed.key record = some key) :
    (s.insert key record).Consistent where
  keyed k r found := by
    rw [get?_insert] at found
    split at found
    · rename_i same
      cases found
      exact same ▸ own
    · exact consistent.keyed k r found
  named name := by
    rw [indexNames_insert, ← @indexNames_erase _ _ s key, ← consistent.erase.named]
    simp [Store.insert, index]
  lists name t found := by
    simp only [Store.insert, getElem?_index, Option.map_eq_some_iff] at found
    obtain ⟨before, found, rfl⟩ := found
    have free : (s.erase key).records[key]? = none := by simp [records_erase]
    simpa only [Store.insert] using (consistent.erase.lists name before found).added free

theorem apply {after : Store R} (consistent : s.Consistent) (applied : s.apply record = .ok after) :
    after.Consistent := by
  unfold Store.apply at applied
  split at applied
  · contradiction
  · rename_i key own
    simp only [Except.ok.injEq] at applied
    subst applied
    split
    · exact consistent.erase
    · exact consistent.insert own

end Consistent

end NetIntent.Store
