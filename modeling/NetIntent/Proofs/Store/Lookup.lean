import NetIntent.Proofs.Store.Consistency

/-! Lookups on a consistent store. Each finds what is held, once; a registered index finds a record
under its current index keys only, and an unregistered one finds nothing. -/
namespace NetIntent.Store

theorem values_eq_toList {α β : Type} {cmp : α → α → Ordering} [Std.TransCmp cmp]
    (t : Std.ExtTreeMap α β cmp) : t.values = t.toList.map Prod.snd := by
  have folded : t.values = t.foldr (fun _ v rest => v :: rest) [] := by
    rcases t with ⟨⟨t⟩⟩
    induction t using Quotient.ind
    rfl
  rw [folded, Std.ExtTreeMap.foldr_eq_foldr_toList]
  induction t.toList with
  | nil => rfl
  | cons item rest ih => rw [List.foldr_cons, List.map_cons, ih]

variable {R : Type} {s : Store R} {key name value : String} {r : R}

theorem keys_nodup : s.keys.Nodup := Std.ExtTreeMap.nodup_keys

theorem mem_keys : key ∈ s.keys ↔ (s.get? key).isSome := by
  rw [keys, Std.ExtTreeMap.mem_keys, Std.ExtTreeMap.mem_iff_isSome_getElem?, get?]

theorem list_map_some : s.list.map some = s.keys.map s.get? := by
  rw [list, values_eq_toList, keys, ← Std.ExtTreeMap.map_fst_toList_eq_keys, List.map_map, List.map_map]
  apply List.map_congr_left
  intro item member
  exact (Std.ExtTreeMap.mem_toList_iff_getElem?_eq_some.mp member).symm

theorem mem_list : r ∈ s.list ↔ ∃ key, s.get? key = some r := by
  have lifted : r ∈ s.list ↔ some r ∈ s.keys.map s.get? := by
    rw [← list_map_some]
    simp
  rw [lifted, List.mem_map]
  constructor
  · rintro ⟨key, -, found⟩
    exact ⟨key, found⟩
  · rintro ⟨key, found⟩
    exact ⟨key, mem_keys.mpr (by simp [found]), found⟩

theorem size_eq : s.size = s.keys.length := Std.ExtTreeMap.length_keys.symm

theorem isEmpty_iff : s.isEmpty = true ↔ ∀ key, s.get? key = none := by
  rw [isEmpty, ← Std.ExtTreeMap.isEmpty_keys, List.isEmpty_iff, List.eq_nil_iff_forall_not_mem]
  refine forall_congr' fun key => ?_
  rw [show s.records.keys = s.keys from rfl, mem_keys, Option.not_isSome_iff_eq_none]

theorem keysAt_nodup : (s.keysAt name value).Nodup := by
  unfold keysAt
  split
  · exact List.nodup_nil
  · exact Std.ExtTreeSet.distinct_toList.imp fun different same => different (by simp [same])

variable [Indexed R] (consistent : s.Consistent)

include consistent

theorem mem_keysAt (registered : name ∈ s.indexNames) :
    key ∈ s.keysAt name value ↔ ∃ r, s.get? key = some r ∧ value ∈ Indexed.indexKeys name r := by
  obtain ⟨t, found⟩ := Option.isSome_iff_exists.mp
    (Std.ExtTreeMap.mem_iff_isSome_getElem?.mp ((consistent.named name).mpr registered))
  simp only [keysAt, found, Std.ExtTreeSet.mem_toList]
  exact (consistent.lists name t found).mem_keys value key

theorem keysAt_unregistered (unknown : name ∉ s.indexNames) : s.keysAt name value = [] := by
  have missing : s.tables[name]? = none := by
    rw [← consistent.named, Std.ExtTreeMap.mem_iff_isSome_getElem?] at unknown
    simpa using unknown
  rw [keysAt, missing]

theorem held_of_mem_keysAt (member : key ∈ s.keysAt name value) : (s.get? key).isSome := by
  by_cases registered : name ∈ s.indexNames
  · obtain ⟨r, held, -⟩ := (mem_keysAt consistent registered).mp member
    rw [held, Option.isSome_some]
  · simp [keysAt_unregistered consistent registered] at member

theorem mem_recordsAt (registered : name ∈ s.indexNames) :
    r ∈ s.recordsAt name value ↔ (∃ key, s.get? key = some r) ∧ value ∈ Indexed.indexKeys name r := by
  simp only [recordsAt, List.mem_filterMap, mem_keysAt consistent registered]
  constructor
  · rintro ⟨key, ⟨_, held, listed⟩, found⟩
    obtain rfl := Option.some.inj (held.symm.trans found)
    exact ⟨⟨key, held⟩, listed⟩
  · rintro ⟨⟨key, held⟩, listed⟩
    exact ⟨key, ⟨r, held, listed⟩, held⟩

theorem recordsAt_unregistered (unknown : name ∉ s.indexNames) : s.recordsAt name value = [] := by
  rw [recordsAt, keysAt_unregistered consistent unknown, List.filterMap_nil]

theorem recordsAt_map_some : (s.recordsAt name value).map some = (s.keysAt name value).map s.get? := by
  rw [recordsAt, List.map_filterMap_some_eq_filter_map_isSome]
  refine List.filter_eq_self.mpr fun found member => ?_
  obtain ⟨key, listed, rfl⟩ := List.mem_map.mp member
  exact held_of_mem_keysAt consistent listed

/-- Records found under some keys have these as their own. -/
theorem map_key_of_found {keys : List String} {records : List R}
    (found : records.map some = keys.map s.get?) : records.map Indexed.key = keys.map some := by
  induction keys generalizing records with
  | nil => rw [List.map_eq_nil_iff.mp found, List.map_nil, List.map_nil]
  | cons key rest ih =>
    cases records with
    | nil => cases found
    | cons r records =>
      rw [List.map_cons, List.map_cons, List.cons.injEq] at found
      rw [List.map_cons, List.map_cons, consistent.keyed key r found.1.symm, ih found.2]

theorem nodup_of_found {keys : List String} {records : List R} (distinct : keys.Nodup)
    (found : records.map some = keys.map s.get?) : records.Nodup := by
  have own : (records.map Indexed.key).Nodup := by
    rw [map_key_of_found consistent found]
    exact List.Pairwise.map some (fun _ _ different same => different (Option.some.inj same)) distinct
  exact List.Pairwise.of_map Indexed.key (fun _ _ different same => different (by rw [same])) own

end NetIntent.Store
