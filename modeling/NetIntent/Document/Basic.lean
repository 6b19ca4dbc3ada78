/-!
The document tree that records are read from and written to. A member list keeps its order and its
repetitions, because a repeated known member is refused and a repeated unknown one is not.
-/

namespace NetIntent

/-- A number keeps how it was written: an integer never stands for a fraction, nor a fraction for an
integer. -/
inductive Number where
  | int (value : Int)
  | real (value : Float)

inductive Document where
  | null
  | bool (value : Bool)
  | number (value : Number)
  | text (value : String)
  /-- An unquoted scalar, whose kind is decided by the field that reads it. -/
  | plain (value : String)
  /-- A list, which may also give the fields of a record by position. -/
  | list (items : List Document)
  /-- A list that never stands for a record. -/
  | sequence (items : List Document)
  | map (members : List (String × Document))
  /-- What the grammar admits but no value stands for: a number too large, half a surrogate pair,
  too deep a nest, a map with a key that is no text. -/
  | unreadable

namespace Document

instance : Inhabited Document := ⟨.null⟩

mutual

/-- Whether every part has a value. A part nobody reads may lack one. -/
def readable : Document → Bool
  | .unreadable => false
  | .list items | .sequence items => readableAll items
  | .map members => readableMembers members
  | .null | .bool _ | .number _ | .text _ | .plain _ => true

def readableAll : List Document → Bool
  | [] => true
  | item :: rest => readable item && readableAll rest

def readableMembers : List (String × Document) → Bool
  | [] => true
  | (_, value) :: rest => readable value && readableMembers rest

end

end Document

end NetIntent
