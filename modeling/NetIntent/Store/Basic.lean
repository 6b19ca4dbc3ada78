import Std.Data.ExtTreeMap
import Std.Data.ExtTreeSet
import NetIntent.Text.Quoted

/-!
An in-memory store of records by primary key, with tables from index keys to the primary keys found
under them. A record's index keys may change between its versions, so a new version first takes away
the entries of the old one, and no table keeps an index key without primary keys.
-/

namespace NetIntent

/-- What a store asks of its records. -/
class Indexed (R : Type) where
  kind : String
  key : R → Option String
  /-- The keys a record is found under in the named index; none leaves it out. -/
  indexKeys : String → R → List String
  tombstone : R → Bool

inductive StoreError where
  | missingKey (kind : String)
  deriving DecidableEq

def StoreError.message : StoreError → String
  | .missingKey kind => kind ++ " record has no primary key"

abbrev KeySet := Std.ExtTreeSet String

abbrev IndexTable := Std.ExtTreeMap String KeySet

namespace IndexTable

def add (t : IndexTable) (indexKey key : String) : IndexTable :=
  t.alter indexKey fun keys => some ((keys.getD ∅).insert key)

def drop (t : IndexTable) (indexKey key : String) : IndexTable :=
  t.alter indexKey fun keys => (keys.map (·.erase key)).filter (!·.isEmpty)

def keys (t : IndexTable) (indexKey : String) : KeySet := t[indexKey]?.getD ∅

end IndexTable

structure Store (R : Type) where
  /-- The index names as they were given, repetitions included. -/
  indexNames : List String
  records : Std.ExtTreeMap String R
  tables : Std.ExtTreeMap String IndexTable

namespace Store

variable {R : Type}

def empty (indexNames : List String) : Store R :=
  ⟨indexNames, ∅, .ofList (indexNames.map fun name => (name, ∅))⟩

def get? (s : Store R) (key : String) : Option R := s.records[key]?

def list (s : Store R) : List R := s.records.values

def keys (s : Store R) : List String := s.records.keys

def size (s : Store R) : Nat := s.records.size

def isEmpty (s : Store R) : Bool := s.records.isEmpty

/-- The primary keys under a value of a named index; an unknown index has none. -/
def keysAt (s : Store R) (name value : String) : List String :=
  match s.tables[name]? with
  | none => []
  | some t => (t.keys value).toList

def recordsAt (s : Store R) (name value : String) : List R :=
  (s.keysAt name value).filterMap (s.records[·]?)

/-- A one-line summary for logs. -/
def summary (s : Store R) : String :=
  let names := ", ".intercalate (s.indexNames.map Text.quoted)
  "ResourceStore \x7b len: " ++ toString s.size ++ ", indices: [" ++ names ++ "] \x7d"

variable [Indexed R]

/-- Every table without the entries of one version of a record. -/
def unindex (tables : Std.ExtTreeMap String IndexTable) (key : String) (record : R) :
    Std.ExtTreeMap String IndexTable :=
  tables.map fun name t =>
    (Indexed.indexKeys name record).foldl (fun t k => IndexTable.drop t k key) t

/-- Every table with the entries of one version of a record. -/
def index (tables : Std.ExtTreeMap String IndexTable) (key : String) (record : R) :
    Std.ExtTreeMap String IndexTable :=
  tables.map fun name t =>
    (Indexed.indexKeys name record).foldl (fun t k => IndexTable.add t k key) t

def erase (s : Store R) (key : String) : Store R :=
  match s.records[key]? with
  | none => s
  | some old => { s with records := s.records.erase key, tables := unindex s.tables key old }

/-- The store after a removal, and the record that was held. -/
def remove (s : Store R) (key : String) : Option R × Store R := (s.get? key, s.erase key)

def insert (s : Store R) (key : String) (record : R) : Store R :=
  let s := s.erase key
  { s with records := s.records.insert key record, tables := index s.tables key record }

/-- Takes a snapshot of a record: a tombstone removes its key, anything else replaces what it
held. -/
def apply (s : Store R) (record : R) : Except StoreError (Store R) :=
  match Indexed.key record with
  | none => .error (.missingKey (Indexed.kind R))
  | some key => .ok (if Indexed.tombstone record then s.erase key else s.insert key record)

end Store

end NetIntent
