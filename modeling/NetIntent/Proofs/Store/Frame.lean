import NetIntent.Proofs.Store.Consistency
import NetIntent.Proofs.Store.Lookup

/-! The frame of a change. Erasing, inserting and applying a record touch what stands under its own
primary key; other records, and the index keys they are listed under, stay. -/
namespace NetIntent.Store

variable {R : Type} {s s' s'' : Store R} {key k name value : String} {record : R}

/-- Two stores with the same index names that hold and list alike all keys apart from some. -/
structure AgreeOutside (touched : String → Prop) (s s' : Store R) : Prop where
  names : s'.indexNames = s.indexNames
  held : ∀ k, ¬touched k → s'.get? k = s.get? k
  listed : ∀ k, ¬touched k → ∀ name value, k ∈ s'.keysAt name value ↔ k ∈ s.keysAt name value

namespace AgreeOutside

variable {touched touched' : String → Prop}

theorem refl (s : Store R) : AgreeOutside touched s s :=
  ⟨rfl, fun _ _ => rfl, fun _ _ _ _ => .rfl⟩

theorem trans (first : AgreeOutside touched s s') (rest : AgreeOutside touched s' s'') :
    AgreeOutside touched s s'' where
  names := rest.names.trans first.names
  held k free := (rest.held k free).trans (first.held k free)
  listed k free name value := (rest.listed k free name value).trans (first.listed k free name value)

theorem mono (agree : AgreeOutside touched s s') (wider : ∀ k, touched k → touched' k) :
    AgreeOutside touched' s s' where
  names := agree.names
  held k free := agree.held k (mt (wider k) free)
  listed k free := agree.listed k (mt (wider k) free)

end AgreeOutside

theorem mem_keysAt_table : k ∈ s.keysAt name value ↔
    ∃ t, s.tables[name]? = some t ∧ k ∈ t.keys value := by
  unfold keysAt
  split
  · rename_i missing
    simp [missing]
  · rename_i t found
    simp [found]

variable [Indexed R]

theorem erase_agree (s : Store R) (key : String) : AgreeOutside (· = key) s (s.erase key) where
  names := indexNames_erase
  held k free := by rw [get?_erase, if_neg free]
  listed k free name value := by
    cases held : s.get? key with
    | none => rw [erase_of_missing held]
    | some old =>
      simp only [mem_keysAt_table, erase_of_held held, getElem?_unindex, Option.map_eq_some_iff]
      constructor
      · rintro ⟨_, ⟨t, found, rfl⟩, member⟩
        exact ⟨t, found, (IndexTable.mem_keys_dropAll.mp member).1⟩
      · rintro ⟨t, found, member⟩
        exact ⟨_, ⟨t, found, rfl⟩, IndexTable.mem_keys_dropAll.mpr ⟨member, fun both => free both.2⟩⟩

theorem insert_agree (s : Store R) (key : String) (record : R) :
    AgreeOutside (· = key) s (s.insert key record) where
  names := indexNames_insert
  held k free := by rw [get?_insert, if_neg free]
  listed k free name value := by
    rw [← (erase_agree s key).listed k free]
    simp only [mem_keysAt_table, insert, getElem?_index, Option.map_eq_some_iff]
    constructor
    · rintro ⟨_, ⟨t, found, rfl⟩, member⟩
      obtain ⟨-, same⟩ | member := IndexTable.mem_keys_addAll.mp member
      · exact absurd same free
      · exact ⟨t, found, member⟩
    · rintro ⟨t, found, member⟩
      exact ⟨_, ⟨t, found, rfl⟩, IndexTable.mem_keys_addAll.mpr (.inr member)⟩

theorem apply_agree (applied : s.apply record = .ok s') :
    AgreeOutside (some · = Indexed.key record) s s' := by
  unfold Store.apply at applied
  split at applied
  · cases applied
  · rename_i key own
    simp only [own, Option.some.injEq]
    cases applied
    split
    · exact erase_agree s key
    · exact insert_agree s key record

theorem held_of_erase {r : R}
    (held : (s.erase key).get? k = some r) : s.get? k = some r := by
  rw [get?_erase] at held
  split at held
  · cases held
  · exact held

/-- Whatever an application leaves under a key was held before or is the record applied, under its
own key. -/
theorem held_of_apply {r : R} (applied : s.apply record = .ok s') (held : s'.get? k = some r) :
    s.get? k = some r ∨ r = record ∧ Indexed.key record = some k := by
  unfold Store.apply at applied
  split at applied
  · cases applied
  · rename_i key own
    cases applied
    split at held
    · rw [get?_erase] at held
      split at held
      · cases held
      · exact .inl held
    · rw [get?_insert] at held
      split at held
      · rename_i same
        exact .inr ⟨(Option.some.inj held).symm, same ▸ own⟩
      · exact .inl held

end NetIntent.Store
