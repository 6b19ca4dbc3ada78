import NetIntent.Document.Decimal

/-!
Reading values and record fields out of documents. A record is a map of named fields, or a list of
its fields in order. Unknown names are passed over, known names may occur once, and each field
decides what its absence means.
-/

namespace NetIntent.Document

def text? : Document → Option String
  | .text s | .plain s => some s
  | _ => none

/-- The spellings that an unquoted scalar may use for a truth value. -/
def plainBool? (s : String) : Option Bool :=
  if s == "true" || s == "True" || s == "TRUE" then some true
  else if s == "false" || s == "False" || s == "FALSE" then some false
  else none

def bool? : Document → Option Bool
  | .bool b => some b
  | .plain s => plainBool? s
  | _ => none

def natOf? (base : Nat) : List Char → Option Nat
  | [] => none
  | cs => cs.foldlM (fun n c => (Numeral.digitOf? base c).map (base * n + ·)) 0

/-- An unquoted numeral: decimal without leading zeros, or marked as base 16, 8 or 2. -/
def plainNat? (s : String) : Option Nat :=
  let unsigned := match s.toList with
    | '+' :: rest => rest
    | cs => cs
  match unsigned with
  | '0' :: 'x' :: rest => natOf? 16 rest
  | '0' :: 'o' :: rest => natOf? 8 rest
  | '0' :: 'b' :: rest => natOf? 2 rest
  | '0' :: _ :: _ => none
  | cs => natOf? 10 cs

/-- An integer from zero up to, not including, `limit`. -/
def nat? (limit : Nat) (d : Document) : Option Nat := do
  let n ← match d with
    | .number (.int (.ofNat n)) => some n
    | .plain s => plainNat? s
    | _ => none
  if n < limit then some n else none

def word? (d : Document) : Option UInt64 := (d.nat? UInt64.size).map UInt64.ofNat

def int64? : Document → Option Int64
  | .number (.int i) =>
    if -0x8000000000000000 ≤ i ∧ i < 0x8000000000000000 then some (Int64.ofInt i) else none
  | _ => none

/-- An unquoted decimal: digits on at least one side of an optional point, then an optional power of
ten. -/
def plainDecimal? (cs : List Char) : Option Float := do
  let (negative, cs) := match cs with
    | '-' :: rest => (true, rest)
    | rest => (false, rest)
  let (whole, cs) := Numeral.spanDigits cs
  let (fraction, cs) := match cs with
    | '.' :: rest => Numeral.spanDigits rest
    | rest => ([], rest)
  let (power, cs) ← Numeral.scanExponent cs
  if (whole ++ fraction).isEmpty || !cs.isEmpty then none
  else
    let x ← Numeral.nearest? (whole ++ fraction) (power.getD 0 - fraction.length)
    pure (Numeral.signed negative x)

def plainReal? (s : String) : Option Float :=
  if s == ".inf" || s == ".Inf" || s == ".INF" || s == "+.inf" || s == "+.Inf" || s == "+.INF" then
    some (1.0 / 0.0)
  else if s == "-.inf" || s == "-.Inf" || s == "-.INF" then some (-1.0 / 0.0)
  else if s == ".nan" || s == ".NaN" || s == ".NAN" then some (0.0 / 0.0)
  else
    match s.toList with
    | '+' :: '-' :: _ => none
    | '+' :: rest => plainDecimal? rest
    | cs => plainDecimal? cs

/-- An integer is taken for the nearest binary64 number. -/
def real? : Document → Option Float
  | .number (.int (.ofNat n)) => some (UInt64.ofNat n).toFloat
  | .number (.int (.negSucc n)) => some (-(UInt64.ofNat (n + 1)).toFloat)
  | .number (.real x) => some x
  | .plain s => plainReal? s
  | _ => none

def listOf {α : Type} (read : Document → Option α) : Document → Option (List α)
  | .list items => items.mapM read
  | _ => none

/-- The name of a case without data: the name itself, or a map with that one key and null. -/
def caseName? : Document → Option String
  | .text s => some s
  | .map [(name, .null)] => some name
  | _ => none

/-- The value of a name that occurs at most once. -/
def sole (members : List (String × Document)) (name : String) : Option (Option Document) :=
  match members.filter (·.1 == name) with
  | [] => some none
  | [(_, value)] => some (some value)
  | _ => none

/-- What a document gives to each of the named fields. A value left out gives nothing. -/
def fields (names : List String) : Document → Option (List (Option Document))
  | .map members => names.mapM (sole members)
  | .list items =>
    if items.length ≤ names.length then
      some (items.map some ++ List.replicate (names.length - items.length) none)
    else none
  | .plain "" => some (List.replicate names.length none)
  | _ => none

def required {α : Type} (read : Document → Option α) (field : Option Document) : Option α :=
  field.bind read

def orElse {α : Type} (read : Document → Option α) (value : α) : Option Document → Option α
  | none => some value
  | some d => read d

/-- An optional value: absent and null are the same. -/
def optional {α : Type} (read : Document → Option α) : Option Document → Option (Option α)
  | none | some .null => some none
  | some d => (read d).map some

/-- The member of an optional value that is written only when there is one. -/
def memberIfSome (name : String) : Option String → List (String × Document)
  | none => []
  | some s => [(name, .text s)]

def ofTexts (items : List String) : Document := .list (items.map .text)

end NetIntent.Document
