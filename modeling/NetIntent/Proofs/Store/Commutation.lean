import NetIntent.Proofs.Store.Refinement
import NetIntent.Store.Indexes

/-! Changes of different keys commute. They share index keys, whose sets of primary keys come and go,
but each change adds and drops entries of its own primary key only. What a store becomes therefore
depends on the order of the changes to each key, and on nothing else of their order. -/
namespace NetIntent

namespace IndexTable

variable {t : IndexTable} {key key' value value' : String}

theorem alter_comm {f g : Option KeySet → Option KeySet}
    (alike : value = value' → ∀ keys, f (g keys) = g (f keys)) :
    (t.alter value f).alter value' g = (t.alter value' g).alter value f := by
  apply Std.ExtTreeMap.ext_getElem?
  intro v
  simp only [Std.ExtTreeMap.getElem?_alter, Std.LawfulEqCmp.compare_eq_iff_eq]
  by_cases first : value = v
  · subst first
    by_cases second : value' = value
    · subst second
      simp only [if_true, alike rfl]
    · simp only [second, if_true, if_false]
  · by_cases second : value' = v
    · subst second
      simp only [first, Ne.symm first, if_true, if_false]
    · simp only [first, second, if_false]

theorem add_comm : (t.add value key).add value' key' = (t.add value' key').add value key := by
  apply alter_comm
  intro _ keys
  simp only [Option.getD_some, Option.some.injEq]
  apply Std.ExtTreeSet.ext_mem
  intro k
  simp only [Std.ExtTreeSet.mem_insert]
  exact or_left_comm

theorem drop_twice (keys : KeySet) :
    (((some (keys.erase key)).filter (!·.isEmpty)).map (·.erase key')).filter (!·.isEmpty) =
      (some ((keys.erase key).erase key')).filter (!·.isEmpty) := by
  by_cases bare : keys.erase key = ∅
  · simp [bare, Option.filter_some]
  · have filled := Std.ExtTreeSet.isEmpty_eq_false_iff.mpr bare
    simp [Option.filter_some, filled]

theorem drop_comm : (t.drop value key).drop value' key' = (t.drop value' key').drop value key := by
  apply alter_comm
  intro _ keys
  cases keys with
  | none => rfl
  | some keys =>
    have swapped : (keys.erase key).erase key' = (keys.erase key').erase key := by
      apply Std.ExtTreeSet.ext_mem
      intro k
      simp only [Std.ExtTreeSet.mem_erase]
      exact and_left_comm
    simp only [Option.map_some, drop_twice, swapped]

theorem getD_drop (keys : Option KeySet) :
    ((keys.map (·.erase key)).filter (!·.isEmpty)).getD ∅ = (keys.getD ∅).erase key := by
  cases keys with
  | none => simp
  | some keys =>
    by_cases bare : keys.erase key = ∅
    · simp [bare, Option.filter_some]
    · have filled := Std.ExtTreeSet.isEmpty_eq_false_iff.mpr bare
      simp [Option.filter_some, filled]

theorem drop_add_comm (apart : key ≠ key') :
    (t.add value key).drop value' key' = (t.drop value' key').add value key := by
  apply alter_comm
  intro _ keys
  have swapped : ((keys.getD ∅).insert key).erase key' = ((keys.getD ∅).erase key').insert key := by
    apply Std.ExtTreeSet.ext_mem
    intro k
    simp only [Std.ExtTreeSet.mem_erase, Std.ExtTreeSet.mem_insert,
      Std.LawfulEqCmp.compare_eq_iff_eq, ne_eq]
    grind
  have filled : ((keys.getD ∅).erase key').insert key ≠ ∅ := by
    intro bare
    have member : key ∈ ((keys.getD ∅).erase key').insert key := Std.ExtTreeSet.mem_insert_self
    rw [bare] at member
    exact Std.ExtTreeSet.not_mem_empty member
  rw [getD_drop, Option.map_some, swapped, Option.filter_some,
    Std.ExtTreeSet.isEmpty_eq_false_iff.mpr filled]
  rfl

/-- Steps that commute one by one commute as a whole. -/
theorem foldl_comm {f g : IndexTable → String → IndexTable}
    (comm : ∀ t v w, g (f t v) w = f (g t w) v) (values values' : List String) :
    values'.foldl g (values.foldl f t) = values.foldl f (values'.foldl g t) := by
  induction values generalizing t with
  | nil => rfl
  | cons v rest ih =>
    have first : values'.foldl g (f t v) = f (values'.foldl g t) v :=
      List.foldl_hom (f · v) fun t w => comm t v w
    simp only [List.foldl_cons, ih, first]

/-- Moves a primary key from the index keys of one version to those of the next. -/
def refresh (t : IndexTable) (key : String) (before after : List String) : IndexTable :=
  (t.dropAll key before).addAll key after

theorem refresh_comm {before after before' after' : List String} (apart : key ≠ key') :
    (t.refresh key before after).refresh key' before' after' =
      (t.refresh key' before' after').refresh key before after := by
  have addAll_comm : ∀ (t : IndexTable),
      (t.addAll key after).addAll key' after' = (t.addAll key' after').addAll key after :=
    fun t => foldl_comm (fun _ _ _ => add_comm) after after'
  have dropAll_comm : ∀ (t : IndexTable),
      (t.dropAll key before).dropAll key' before' = (t.dropAll key' before').dropAll key before :=
    fun t => foldl_comm (fun _ _ _ => drop_comm) before before'
  have dropAll_addAll : ∀ (t : IndexTable),
      (t.addAll key after).dropAll key' before' = (t.dropAll key' before').addAll key after :=
    fun t => foldl_comm (fun _ _ _ => drop_add_comm apart) after before'
  have addAll_dropAll : ∀ (t : IndexTable),
      (t.addAll key' after').dropAll key before = (t.dropAll key before).addAll key' after' :=
    fun t => foldl_comm (fun _ _ _ => drop_add_comm apart.symm) after' before
  simp only [refresh]
  calc (((t.dropAll key before).addAll key after).dropAll key' before').addAll key' after'
      = (((t.dropAll key before).dropAll key' before').addAll key after).addAll key' after' := by
        rw [dropAll_addAll]
    _ = (((t.dropAll key' before').dropAll key before).addAll key' after').addAll key after := by
        rw [dropAll_comm, addAll_comm]
    _ = (((t.dropAll key' before').addAll key' after').dropAll key before).addAll key after := by
        rw [addAll_dropAll]

end IndexTable

namespace Store

variable {R : Type} {s s' : Store R}

/-- A store is what its lookups by key and its tables say. -/
theorem ext_lookups (names : s.indexNames = s'.indexNames) (held : ∀ key, s.get? key = s'.get? key)
    (tables : ∀ name : String, s.tables[name]? = s'.tables[name]?) : s = s' := by
  have records : s.records = s'.records := Std.ExtTreeMap.ext_getElem? held
  have indexes : s.tables = s'.tables := Std.ExtTreeMap.ext_getElem? tables
  cases s
  cases s'
  cases names
  cases records
  cases indexes
  rfl

variable [Indexed R] {key key' k name : String} {record? record?' : Option R}

/-- Sets what is held under a key. -/
def put (s : Store R) (key : String) : Option R → Store R
  | none => s.erase key
  | some record => s.insert key record

/-- The index keys of what is held under a key. -/
def listing (name : String) (record? : Option R) : List String :=
  record?.elim [] (Indexed.indexKeys name)

@[simp] theorem indexNames_put : (s.put key record?).indexNames = s.indexNames := by
  cases record? with
  | none => exact indexNames_erase
  | some record => exact indexNames_insert

theorem get?_put : (s.put key record?).get? k = if k = key then record? else s.get? k := by
  cases record? with
  | none => exact get?_erase
  | some record => exact get?_insert

theorem tables_erase : (s.erase key).tables[name]? =
    s.tables[name]?.map (·.dropAll key (listing name (s.get? key))) := by
  cases held : s.get? key with
  | none =>
    rw [erase_of_missing held]
    exact Option.map_id'.symm
  | some old =>
    rw [erase_of_held held]
    exact getElem?_unindex s.tables

theorem tables_put : (s.put key record?).tables[name]? =
    s.tables[name]?.map (·.refresh key (listing name (s.get? key)) (listing name record?)) := by
  cases record? with
  | none => exact tables_erase
  | some record =>
    simp only [put, insert, getElem?_index, tables_erase, Option.map_map]
    rfl

theorem put_comm (apart : key ≠ key') :
    (s.put key record?).put key' record?' = (s.put key' record?').put key record? := by
  apply ext_lookups
  · simp only [indexNames_put]
  · intro k
    simp only [get?_put]
    grind
  · intro name
    have here : (s.put key' record?').get? key = s.get? key := by rw [get?_put, if_neg apart]
    have there : (s.put key record?).get? key' = s.get? key' := by rw [get?_put, if_neg apart.symm]
    simp only [tables_put, here, there, Option.map_map, Function.comp_def,
      IndexTable.refresh_comm apart]

namespace Change

/-- The key that a change is for; an application of a record without one changes nothing. -/
def key? : Change R → Option String
  | apply record => Indexed.key record
  | delete key => some key

/-- What a change leaves under its key. -/
def value? : Change R → Option R
  | apply record => if Indexed.tombstone record then none else some record
  | delete _ => none

end Change

variable {change change' : Change R}

theorem serve_keyless (keyless : change.key? = none) : (s.serve change).2 = s := by
  cases change with
  | delete key => cases keyless
  | apply record =>
    have missing : Indexed.key record = none := keyless
    simp only [serve, Store.apply, missing]

theorem serve_keyed (keyed : change.key? = some key) :
    (s.serve change).2 = s.put key change.value? := by
  cases change with
  | delete k =>
    obtain rfl := Option.some.inj keyed
    rfl
  | apply record =>
    have own : Indexed.key record = some key := keyed
    simp only [serve, Store.apply, own, Change.value?]
    split <;> rfl

theorem serve_comm (apart : change.key? ≠ change'.key?) :
    ((s.serve change).2.serve change').2 = ((s.serve change').2.serve change).2 := by
  cases keyed : change.key? with
  | none => simp only [serve_keyless keyed]
  | some key =>
    cases keyed' : change'.key? with
    | none => simp only [serve_keyless keyed']
    | some key' =>
      rw [keyed, keyed'] at apart
      simp only [serve_keyed keyed, serve_keyed keyed']
      exact put_comm fun same => apart (congrArg some same)

/-- What changes leave that are served in turn. -/
def served (s : Store R) (changes : List (Change R)) : Store R := (serveAll serve s changes).2

/-- The changes for one key, in their order. -/
def ofKey (key : String) (changes : List (Change R)) : List (Change R) :=
  changes.filter (·.key? = some key)

variable {changes changes' before rest : List (Change R)}

theorem served_cons : s.served (change :: rest) = (s.serve change).2.served rest := rfl

theorem served_keyless (keyless : ∀ change ∈ changes, change.key? = none) : s.served changes = s := by
  induction changes with
  | nil => rfl
  | cons change rest ih =>
    have first : (s.serve change).2 = s := serve_keyless (keyless change List.mem_cons_self)
    have later : s.served rest = s := ih fun c member => keyless c (List.mem_cons_of_mem change member)
    exact (congrArg (served · rest) first).trans later

/-- A change may be served before any changes for other keys. -/
theorem served_earlier (apart : ∀ b ∈ before, b.key? ≠ change.key?) :
    s.served (before ++ change :: rest) = (s.serve change).2.served (before ++ rest) := by
  induction before generalizing s with
  | nil => rfl
  | cons b before ih =>
    have first : b.key? ≠ change.key? := apart b List.mem_cons_self
    calc s.served (b :: before ++ change :: rest)
        = ((s.serve b).2.serve change).2.served (before ++ rest) :=
          ih fun c member => apart c (List.mem_cons_of_mem b member)
      _ = ((s.serve change).2.serve b).2.served (before ++ rest) := by rw [serve_comm first]

/-- Of two stores that agree on a key, one may serve the changes for other keys too. -/
theorem get?_served (same : s.get? key = s'.get? key) :
    (s.served changes).get? key = (s'.served (ofKey key changes)).get? key := by
  induction changes generalizing s s' with
  | nil => exact same
  | cons change rest ih =>
    by_cases own : change.key? = some key
    · have ours : ofKey key (change :: rest) = change :: ofKey key rest :=
        List.filter_cons_of_pos (by simpa using own)
      have set : ∀ s : Store R, (s.serve change).2.get? key = change.value? := fun s => by
        rw [serve_keyed own, get?_put, if_pos rfl]
      rw [ours, served_cons, served_cons]
      exact ih ((set s).trans (set s').symm)
    · have others : ofKey key (change :: rest) = ofKey key rest :=
        List.filter_cons_of_neg (by simpa using own)
      have kept : (s.serve change).2.get? key = s.get? key := by
        cases keyed : change.key? with
        | none => rw [serve_keyless keyed]
        | some k =>
          have apart : key ≠ k := fun equal => own (equal ▸ keyed)
          rw [serve_keyed keyed, get?_put, if_neg apart]
      rw [others, served_cons]
      exact ih (kept.trans same)

theorem served_eq_of_ofKey (alike : ∀ key, ofKey key changes = ofKey key changes') :
    s.served changes = s.served changes' := by
  induction changes generalizing s changes' with
  | nil =>
    have keyless : ∀ change ∈ changes', change.key? = none := by
      intro change member
      apply Option.eq_none_iff_forall_ne_some.mpr
      intro key keyed
      exact List.filter_eq_nil_iff.mp (alike key).symm change member (by simpa using keyed)
    exact (served_keyless keyless).symm
  | cons change rest ih =>
    cases keyed : change.key? with
    | none =>
      have skipped : ∀ key, ofKey key (change :: rest) = ofKey key rest :=
        fun key => List.filter_cons_of_neg (by simp [keyed])
      calc s.served (change :: rest)
          = s.served rest := congrArg (served · rest) (serve_keyless keyed)
        _ = s.served changes' := ih fun key => (skipped key).symm.trans (alike key)
    | some key =>
      have first : change :: ofKey key rest = ofKey key changes' := by
        rw [← alike key]
        exact (List.filter_cons_of_pos (by simpa using keyed)).symm
      obtain ⟨before, after, rfl, none, -, later⟩ := List.filter_eq_cons_iff.mp first.symm
      have apart : ∀ b ∈ before, b.key? ≠ change.key? := by
        intro b member same
        exact none b member (by simpa using same.trans keyed)
      have remaining : ∀ k, ofKey k rest = ofKey k (before ++ after) := by
        intro k
        by_cases own : k = key
        · subst own
          have bare : ofKey k before = [] := List.filter_eq_nil_iff.mpr none
          calc ofKey k rest = ofKey k after := later.symm
            _ = ofKey k (before ++ after) := by
              simp only [ofKey, List.filter_append] at bare ⊢
              simp [bare]
        · have other : ¬change.key? = some k := by
            rw [keyed]
            exact fun same => own (Option.some.inj same).symm
          simpa [ofKey, List.filter_cons, other] using alike k
      calc s.served (change :: rest)
          = (s.serve change).2.served (before ++ after) := ih remaining
        _ = s.served (before ++ change :: after) := (served_earlier apart).symm

/-- Changes in another order, with those for each key in the same one, leave the same store, index
tables included; and under each key it holds what the changes for that key leave alone. -/
theorem reordered_changes_agree (s : Store R)
    (alike : ∀ key, ofKey key changes = ofKey key changes') :
    s.served changes = s.served changes' ∧
      ∀ key, (s.served changes).get? key = (s.served (ofKey key changes)).get? key :=
  ⟨served_eq_of_ofKey alike, fun _ => get?_served rfl⟩

namespace Sample

def port (id : String) : SubnetPort := { id := some id, tags := [⟨Tag.Scope.podUid, "u"⟩] }

/-- The index key of the Pod is dropped with its first port and added again with its second. -/
def apart : List (Change SubnetPort) := [.apply (port "p"), .delete "p", .apply {}, .apply (port "q")]

/-- The index key of the Pod is kept throughout. -/
def mixed : List (Change SubnetPort) := [.apply (port "q"), .apply (port "p"), .delete "p"]

end Sample

open Sample in
/-- Two ports of one Pod, and a record without key. -/
theorem reordered_ports_agree :
    (∀ key, ofKey key apart = ofKey key mixed) ∧
      SubnetPort.emptyStore.served apart = SubnetPort.emptyStore.served mixed ∧
      (SubnetPort.emptyStore.served apart).keysAt SubnetPort.podUidIndex "u" = ["q"] := by
  have alike : ∀ key, ofKey key apart = ofKey key mixed := by
    intro key
    by_cases first : key = "p"
    · subst first
      rfl
    · by_cases second : key = "q"
      · subst second
        rfl
      · simp [ofKey, apart, mixed, Change.key?, Indexed.key, port, Ne.symm first, Ne.symm second]
  exact ⟨alike, (reordered_changes_agree _ alike).1, by decide +kernel⟩

end Store

end NetIntent
