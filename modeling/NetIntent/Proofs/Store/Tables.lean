import NetIntent.Store.Basic

/-! Index tables under the changes of a store. A held record is listed under exactly its index keys,
in every table, and no table keeps an index key without primary keys. -/
namespace NetIntent

namespace IndexTable

variable {t : IndexTable} {key k value v : String}

/-- Every index key stands for at least one primary key. -/
def Full (t : IndexTable) : Prop := ∀ (value : String) (keys : KeySet), t[value]? = some keys → keys ≠ ∅

@[simp] theorem keys_empty : keys ∅ v = ∅ := by simp [keys]

theorem mem_keys_add : k ∈ (t.add value key).keys v ↔ (v = value ∧ k = key) ∨ k ∈ t.keys v := by
  by_cases same : v = value
  · subst same
    simp only [add, keys, Std.ExtTreeMap.getElem?_alter_self, Option.getD_some,
      Std.ExtTreeSet.mem_insert, Std.LawfulEqCmp.compare_eq_iff_eq, true_and]
    exact or_congr_left eq_comm
  · simp [add, keys, Std.ExtTreeMap.getElem?_alter, same, Ne.symm same]

theorem mem_keys_drop : k ∈ (t.drop value key).keys v ↔ k ∈ t.keys v ∧ ¬(v = value ∧ k = key) := by
  by_cases same : v = value
  · subst same
    cases found : t[v]? with
    | none => simp [drop, keys, found]
    | some held =>
      have kept : k ∈ ((some (held.erase key)).filter fun keys => !keys.isEmpty).getD ∅ ↔
          k ∈ held.erase key := by
        by_cases bare : held.erase key = ∅
        · simp [bare, Option.filter]
        · have filled := Std.ExtTreeSet.isEmpty_eq_false_iff.mpr bare
          simp [Option.filter, filled]
      simpa [drop, keys, found, Std.ExtTreeSet.mem_erase, @eq_comm _ k, and_comm] using kept
  · simp [drop, keys, Std.ExtTreeMap.getElem?_alter, same, Ne.symm same]

theorem Full.add (full : t.Full) : (t.add value key).Full := by
  intro v keys found
  by_cases same : v = value
  · subst same
    simp only [IndexTable.add, Std.ExtTreeMap.getElem?_alter_self, Option.some.injEq] at found
    subst found
    intro bare
    have member : key ∈ ((t[v]?).getD ∅).insert key := Std.ExtTreeSet.mem_insert_self
    rw [bare] at member
    exact Std.ExtTreeSet.not_mem_empty member
  · rw [IndexTable.add, Std.ExtTreeMap.getElem?_alter, if_neg (by simpa using Ne.symm same)] at found
    exact full v keys found

theorem Full.drop (full : t.Full) : (t.drop value key).Full := by
  intro v keys found
  by_cases same : v = value
  · subst same
    simp only [IndexTable.drop, Std.ExtTreeMap.getElem?_alter_self,
      Option.filter_eq_some_iff] at found
    intro bare
    simp [bare] at found
  · rw [IndexTable.drop, Std.ExtTreeMap.getElem?_alter, if_neg (by simpa using Ne.symm same)] at found
    exact full v keys found

/-- Adds a primary key under several index keys. -/
def addAll (t : IndexTable) (key : String) (values : List String) : IndexTable :=
  values.foldl (fun t value => t.add value key) t

/-- Drops a primary key under several index keys. -/
def dropAll (t : IndexTable) (key : String) (values : List String) : IndexTable :=
  values.foldl (fun t value => t.drop value key) t

theorem mem_keys_addAll {values : List String} :
    k ∈ (t.addAll key values).keys v ↔ (v ∈ values ∧ k = key) ∨ k ∈ t.keys v := by
  induction values generalizing t with
  | nil => simp [addAll]
  | cons value rest ih =>
    have step : t.addAll key (value :: rest) = (t.add value key).addAll key rest := rfl
    rw [step, ih, mem_keys_add, List.mem_cons]
    grind

theorem mem_keys_dropAll {values : List String} :
    k ∈ (t.dropAll key values).keys v ↔ k ∈ t.keys v ∧ ¬(v ∈ values ∧ k = key) := by
  induction values generalizing t with
  | nil => simp [dropAll]
  | cons value rest ih =>
    have step : t.dropAll key (value :: rest) = (t.drop value key).dropAll key rest := rfl
    rw [step, ih, mem_keys_drop, List.mem_cons]
    grind

theorem Full.addAll {values : List String} (full : t.Full) : (t.addAll key values).Full := by
  induction values generalizing t with
  | nil => exact full
  | cons value rest ih => exact ih full.add

theorem Full.dropAll {values : List String} (full : t.Full) : (t.dropAll key values).Full := by
  induction values generalizing t with
  | nil => exact full
  | cons value rest ih => exact ih full.drop

end IndexTable

namespace Store

variable {R : Type} [Indexed R] {s : Store R} {key k name value : String} {record r : R}

theorem getElem?_unindex (tables : Std.ExtTreeMap String IndexTable) :
    (unindex tables key record)[name]? =
      tables[name]?.map fun t => IndexTable.dropAll t key (Indexed.indexKeys name record) := by
  simp [unindex, IndexTable.dropAll]

theorem getElem?_index (tables : Std.ExtTreeMap String IndexTable) :
    (index tables key record)[name]? =
      tables[name]?.map fun t => IndexTable.addAll t key (Indexed.indexKeys name record) := by
  simp [index, IndexTable.addAll]

@[simp] theorem indexNames_erase : (s.erase key).indexNames = s.indexNames := by
  unfold erase
  split <;> rfl

@[simp] theorem indexNames_insert : (s.insert key record).indexNames = s.indexNames := by
  simp [insert]

theorem erase_of_missing (missing : s.get? key = none) : s.erase key = s := by
  unfold erase
  rw [show s.records[key]? = none from missing]

theorem erase_of_held (held : s.get? key = some record) : s.erase key =
    { s with records := s.records.erase key, tables := unindex s.tables key record } := by
  unfold erase
  rw [show s.records[key]? = some record from held]

theorem records_erase : (s.erase key).records = s.records.erase key := by
  cases found : s.get? key with
  | some old => rw [erase_of_held found]
  | none =>
    rw [erase_of_missing found]
    apply Std.ExtTreeMap.ext_getElem?
    intro k
    by_cases same : key = k
    · subst same
      rw [Std.ExtTreeMap.getElem?_erase_self]
      exact found
    · simp [Std.ExtTreeMap.getElem?_erase, same]

theorem records_insert : (s.insert key record).records = (s.records.erase key).insert key record := by
  simp only [insert, records_erase]

theorem get?_erase : (s.erase key).get? k = if k = key then none else s.get? k := by
  simp only [get?, records_erase, Std.ExtTreeMap.getElem?_erase, Std.LawfulEqCmp.compare_eq_iff_eq,
    @eq_comm _ key]

theorem get?_insert : (s.insert key record).get? k = if k = key then some record else s.get? k := by
  simp only [get?, records_insert, Std.ExtTreeMap.getElem?_insert, Std.ExtTreeMap.getElem?_erase,
    Std.LawfulEqCmp.compare_eq_iff_eq, @eq_comm _ key]
  split <;> rfl

end Store

end NetIntent
