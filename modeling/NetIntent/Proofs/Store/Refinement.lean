import NetIntent.Proofs.Store.Lookup

/-! A store refines a plain map. The same changes asked of both are answered alike, and afterwards
every lookup of the store, its index tables included, says what the map says. -/
namespace NetIntent.Store

variable {R : Type}

inductive Change (R : Type) where
  | apply (record : R)
  | delete (key : String)

/-- What a change answers. -/
inductive Receipt (R : Type) where
  | applied (result : Except StoreError Unit)
  /-- The record that a deletion took out, if any. -/
  | deleted (held : Option R)

/-- Changes asked in turn: their answers and what they leave. -/
def serveAll {S : Type} (serve : S → Change R → Receipt R × S) (s : S) :
    List (Change R) → List (Receipt R) × S
  | [] => ([], s)
  | change :: rest =>
    let (receipt, s) := serve s change
    let (receipts, s) := serveAll serve s rest
    (receipt :: receipts, s)

/-- A map without indexes. -/
abbrev Contents (R : Type) := String → Option R

namespace Contents

def set (m : Contents R) (key : String) (value : Option R) : Contents R :=
  fun k => if k = key then value else m k

def serve [Indexed R] (m : Contents R) : Change R → Receipt R × Contents R
  | .apply record =>
    match Indexed.key record with
    | none => (.applied (.error (.missingKey (Indexed.kind R))), m)
    | some key =>
      (.applied (.ok ()), m.set key (if Indexed.tombstone record then none else some record))
  | .delete key => (.deleted (m key), m.set key none)

end Contents

variable [Indexed R]

def serve (s : Store R) : Change R → Receipt R × Store R
  | .apply record =>
    match s.apply record with
    | .error e => (.applied (.error e), s)
    | .ok after => (.applied (.ok ()), after)
  | .delete key =>
    let (held, after) := s.remove key
    (.deleted held, after)

/-- A store answers every lookup from a map and keeps nothing in its tables beside it. -/
structure Shows (s : Store R) (m : Contents R) : Prop where
  get : ∀ key, s.get? key = m key
  keys_distinct : s.keys.Nodup
  keys_held : ∀ key, key ∈ s.keys ↔ (m key).isSome
  list_held : s.list.map some = s.keys.map m
  list_distinct : s.list.Nodup
  size_held : s.size = s.keys.length
  empty_iff : s.isEmpty = true ↔ ∀ key, m key = none
  found_keys_distinct : ∀ name value, (s.keysAt name value).Nodup
  found_keys : ∀ name ∈ s.indexNames, ∀ value key,
    key ∈ s.keysAt name value ↔ ∃ r, m key = some r ∧ value ∈ Indexed.indexKeys name r
  found_distinct : ∀ name value, (s.recordsAt name value).Nodup
  found : ∀ name ∈ s.indexNames, ∀ value r,
    r ∈ s.recordsAt name value ↔ (∃ key, m key = some r) ∧ value ∈ Indexed.indexKeys name r
  found_own_keys : ∀ name value,
    (s.recordsAt name value).map Indexed.key = (s.keysAt name value).map some
  unregistered : ∀ name ∉ s.indexNames, ∀ value,
    s.keysAt name value = [] ∧ s.recordsAt name value = []
  tables_full : ∀ (name : String) (t : IndexTable) (value : String) (keys : KeySet),
    s.tables[name]? = some t → t[value]? = some keys →
      keys ≠ ∅ ∧ ∀ key ∈ keys, ∃ r, m key = some r ∧ value ∈ Indexed.indexKeys name r

theorem Consistent.shows {s : Store R} {m : Contents R} (consistent : s.Consistent)
    (same : ∀ key, s.get? key = m key) : s.Shows m := by
  obtain rfl : s.get? = m := funext same
  refine
    { get := fun _ => rfl
      keys_distinct := keys_nodup
      keys_held := fun _ => mem_keys
      list_held := list_map_some
      list_distinct := nodup_of_found consistent keys_nodup list_map_some
      size_held := size_eq
      empty_iff := isEmpty_iff
      found_keys_distinct := fun _ _ => keysAt_nodup
      found_keys := fun _ registered _ _ => mem_keysAt consistent registered
      found_distinct := fun _ _ => nodup_of_found consistent keysAt_nodup (recordsAt_map_some consistent)
      found := fun _ registered _ _ => mem_recordsAt consistent registered
      found_own_keys := fun _ _ => map_key_of_found consistent (recordsAt_map_some consistent)
      unregistered := fun _ unknown _ =>
        ⟨keysAt_unregistered consistent unknown, recordsAt_unregistered consistent unknown⟩
      tables_full := ?_ }
  intro name t value keys table entry
  have lists := consistent.lists name t table
  refine ⟨lists.full value keys entry, fun key member => (lists.mem_keys value key).mp ?_⟩
  simpa [IndexTable.keys, entry] using member

/-- One change: the same answer, and the lookups by key stay alike. -/
theorem serve_refines {s : Store R} {m : Contents R} (consistent : s.Consistent)
    (same : ∀ key, s.get? key = m key) (change : Change R) :
    (s.serve change).1 = (m.serve change).1 ∧ (s.serve change).2.Consistent ∧
      (s.serve change).2.indexNames = s.indexNames ∧
      ∀ key, (s.serve change).2.get? key = (m.serve change).2 key := by
  cases change with
  | delete key =>
    refine ⟨congrArg Receipt.deleted (same key), consistent.erase, indexNames_erase, fun k => ?_⟩
    simp only [serve, remove, Contents.serve, Contents.set, get?_erase, same]
  | apply record =>
    cases own : Indexed.key record with
    | none => simpa [serve, Store.apply, Contents.serve, own] using And.intro consistent same
    | some key =>
      by_cases dead : Indexed.tombstone record = true
      · have erased : ∀ k, (s.erase key).get? k = m.set key none k := fun k => by
          simp only [get?_erase, Contents.set, same]
        simpa [serve, Store.apply, Contents.serve, own, dead] using
          And.intro consistent.erase erased
      · have inserted : ∀ k, (s.insert key record).get? k = m.set key (some record) k := fun k => by
          simp only [get?_insert, Contents.set, same]
        simpa [serve, Store.apply, Contents.serve, own, dead] using
          And.intro (consistent.insert own) inserted

theorem serveAll_refines {s : Store R} {m : Contents R} (consistent : s.Consistent)
    (same : ∀ key, s.get? key = m key) (changes : List (Change R)) :
    (serveAll serve s changes).1 = (serveAll Contents.serve m changes).1 ∧
      (serveAll serve s changes).2.Consistent ∧
      (serveAll serve s changes).2.indexNames = s.indexNames ∧
      ∀ key, (serveAll serve s changes).2.get? key = (serveAll Contents.serve m changes).2 key := by
  induction changes generalizing s m with
  | nil => exact ⟨rfl, consistent, rfl, same⟩
  | cons change rest ih =>
    obtain ⟨answer, kept, names, alike⟩ := serve_refines consistent same change
    obtain ⟨answers, kept, names', alike⟩ := ih kept alike
    exact ⟨by simp only [serveAll, answer, answers], kept, names'.trans names, alike⟩

/-- A new store and an empty map, asked the same changes, cannot be told apart. -/
theorem refines_plain_map (names : List String) (changes : List (Change R)) :
    (serveAll serve (Store.empty names) changes).1 =
        (serveAll Contents.serve (fun _ => none) changes).1 ∧
      (serveAll serve (Store.empty names) changes).2.indexNames = names ∧
      (serveAll serve (Store.empty names) changes).2.Shows
        (serveAll Contents.serve (fun _ => none) changes).2 := by
  have vacant : ∀ key, (Store.empty names : Store R).get? key = none := fun key => by
    simp [Store.empty, get?]
  obtain ⟨answers, consistent, registered, alike⟩ :=
    serveAll_refines (Consistent.empty names) vacant changes
  exact ⟨answers, registered, consistent.shows alike⟩

end NetIntent.Store
