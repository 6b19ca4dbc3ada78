import NetIntent.Document.Decimal

/-!
Documents from JSON text, strictly: no trailing comma, no comment, no raw control character, nothing
after the value. Half a surrogate pair, a number too large and a nest deeper than 127 leave a
document that only a reader of that part refuses.
-/

namespace NetIntent.Json

def isSpace (c : Char) : Bool := c == ' ' || c == '\n' || c == '\t' || c == '\r'

def skipSpace : List Char → List Char := List.dropWhile isSpace

/-- The number that four hexadecimal digits spell. -/
def unit? (a b c d : Char) : Option Nat := do
  let a ← Numeral.digitOf? 16 a
  let b ← Numeral.digitOf? 16 b
  let c ← Numeral.digitOf? 16 c
  let d ← Numeral.digitOf? 16 d
  pure (((a * 16 + b) * 16 + c) * 16 + d)

/-- A character of a string literal, or one half of a surrogate pair. -/
inductive Piece where
  | whole (c : Char)
  | half (unit : Nat)

def isHigh (unit : Nat) : Bool := 0xD800 ≤ unit && unit < 0xDC00

def isLow (unit : Nat) : Bool := 0xDC00 ≤ unit && unit < 0xE000

def pieceOf (unit : Nat) : Piece :=
  if isHigh unit || isLow unit then .half unit else .whole (Char.ofNat unit)

/-- The pieces of a string literal after its opening quote, and what follows its closing quote. -/
def pieces : List Char → Option (List Piece × List Char)
  | '"' :: rest => some ([], rest)
  | '\\' :: 'u' :: a :: b :: c :: d :: rest => do
    let unit ← unit? a b c d
    let (tail, rest) ← pieces rest
    pure (pieceOf unit :: tail, rest)
  | '\\' :: c :: rest => do
    let c ← match c with
      | '"' => some '"'
      | '\\' => some '\\'
      | '/' => some '/'
      | 'b' => some '\x08'
      | 'f' => some '\x0c'
      | 'n' => some '\n'
      | 'r' => some '\r'
      | 't' => some '\t'
      | _ => none
    let (tail, rest) ← pieces rest
    pure (.whole c :: tail, rest)
  | c :: rest =>
    if c == '\\' || c.toNat < 0x20 then none
    else do
      let (tail, rest) ← pieces rest
      pure (.whole c :: tail, rest)
  | [] => none

/-- Joins halves into characters; `none` when a half stands alone. -/
def joinPieces : List Piece → Option (List Char)
  | [] => some []
  | .whole c :: rest => (joinPieces rest).map (c :: ·)
  | .half high :: .half low :: rest =>
    if isHigh high && isLow low then
      (joinPieces rest).map (Char.ofNat (0x10000 + (high - 0xD800) * 0x400 + (low - 0xDC00)) :: ·)
    else none
  | .half _ :: _ => none

/-- A string literal after its opening quote, `none` inside when no text stands for it. -/
def scanText (cs : List Char) : Option (Option String × List Char) := do
  let (ps, rest) ← pieces cs
  pure ((joinPieces ps).map String.ofList, rest)

def depthLimit : Nat := 127

/-- Beyond the depth limit a container has no value. -/
def within (depth : Nat) (d : Document) : Document :=
  if depth ≤ depthLimit then d else .unreadable

/-- A map with a key that is no text has no value. -/
def mapOf (members : List (Option String × Document)) : Document :=
  match members.mapM fun (key, value) => key.map (·, value) with
  | some members => .map members
  | none => .unreadable

mutual

/-- A value at the front of a text; `depth` counts the containers around it and itself. -/
def value : Nat → Nat → List Char → Option (Document × List Char)
  | 0, _, _ => none
  | fuel + 1, depth, cs =>
    match skipSpace cs with
    | 'n' :: 'u' :: 'l' :: 'l' :: rest => some (.null, rest)
    | 't' :: 'r' :: 'u' :: 'e' :: rest => some (.bool true, rest)
    | 'f' :: 'a' :: 'l' :: 's' :: 'e' :: rest => some (.bool false, rest)
    | '"' :: rest => do
      let (s, rest) ← scanText rest
      pure (s.elim .unreadable .text, rest)
    | '[' :: rest =>
      match skipSpace rest with
      | ']' :: rest => some (within depth (.list []), rest)
      | rest => do
        let (items, rest) ← items fuel (depth + 1) rest
        pure (within depth (.list items), rest)
    | '\x7b' :: rest =>
      match skipSpace rest with
      | '\x7d' :: rest => some (within depth (.map []), rest)
      | rest => do
        let (members, rest) ← members fuel (depth + 1) rest
        pure (within depth (mapOf members), rest)
    | cs => do
      let (n, rest) ← Numeral.scan cs
      pure (n.document, rest)

def items : Nat → Nat → List Char → Option (List Document × List Char)
  | 0, _, _ => none
  | fuel + 1, depth, cs => do
    let (item, rest) ← value fuel depth cs
    match skipSpace rest with
    | ',' :: rest =>
      let (tail, rest) ← items fuel depth rest
      pure (item :: tail, rest)
    | ']' :: rest => pure ([item], rest)
    | _ => none

def members : Nat → Nat → List Char → Option (List (Option String × Document) × List Char)
  | 0, _, _ => none
  | fuel + 1, depth, cs =>
    match skipSpace cs with
    | '"' :: rest => do
      let (key, rest) ← scanText rest
      match skipSpace rest with
      | ':' :: rest =>
        let (item, rest) ← value fuel depth rest
        match skipSpace rest with
        | ',' :: rest =>
          let (tail, rest) ← members fuel depth rest
          pure ((key, item) :: tail, rest)
        | '\x7d' :: rest => pure ([(key, item)], rest)
        | _ => none
      | _ => none
    | _ => none

end

/-- The document a text spells; every step of the reader consumes a character, which bounds its
steps. -/
def read? (s : String) : Option Document := do
  let cs := s.toList
  let (d, rest) ← value (2 * cs.length + 2) 1 cs
  if (skipSpace rest).isEmpty then some d else none

end NetIntent.Json
