import NetIntent.Document.Basic

/-!
Numerals. A numeral without fraction and exponent is an integer while it fits 64 bits; any other is
the nearest binary64 number.
-/

namespace NetIntent

/-- A numeral as written: digits before and after the point and the power of ten, absent parts as
`none`. -/
structure Numeral where
  negative : Bool
  whole : List Nat
  fraction : Option (List Nat)
  exponent : Option Int

namespace Numeral

/-- The value of a digit of a numeral to some base up to 16, in either case. -/
def digitOf? (base : Nat) (c : Char) : Option Nat := do
  let d ← if c.isDigit then some (c.toNat - '0'.toNat)
    else if 'a' ≤ c ∧ c ≤ 'f' then some (c.toNat - 'a'.toNat + 10)
    else if 'A' ≤ c ∧ c ≤ 'F' then some (c.toNat - 'A'.toNat + 10)
    else none
  if d < base then some d else none

def digit? (c : Char) : Option Nat := if c.isDigit then some (c.toNat - '0'.toNat) else none

/-- The digits at the front of a text and what follows them. -/
def spanDigits : List Char → List Nat × List Char
  | [] => ([], [])
  | c :: rest =>
    match digit? c with
    | some d => let (ds, tail) := spanDigits rest; (d :: ds, tail)
    | none => ([], c :: rest)

def ofDigits (ds : List Nat) : Nat := ds.foldl (fun n d => 10 * n + d) 0

/-- A point is followed by at least one digit. -/
def scanFraction : List Char → Option (Option (List Nat) × List Char)
  | '.' :: rest =>
    match spanDigits rest with
    | ([], _) => none
    | (ds, tail) => some (some ds, tail)
  | rest => some (none, rest)

def scanPower (sign : Int) (cs : List Char) : Option (Option Int × List Char) :=
  match spanDigits cs with
  | ([], _) => none
  | (ds, tail) => some (some (sign * ofDigits ds), tail)

def scanExponent : List Char → Option (Option Int × List Char)
  | 'e' :: '+' :: rest | 'E' :: '+' :: rest => scanPower 1 rest
  | 'e' :: '-' :: rest | 'E' :: '-' :: rest => scanPower (-1) rest
  | 'e' :: rest | 'E' :: rest => scanPower 1 rest
  | rest => some (none, rest)

/-- The numeral at the front of a text: no plus sign, no leading zero, no bare point. -/
def scan (cs : List Char) : Option (Numeral × List Char) := do
  let (negative, cs) := match cs with
    | '-' :: rest => (true, rest)
    | rest => (false, rest)
  let (whole, cs) := spanDigits cs
  match whole with
  | [] | 0 :: _ :: _ => none
  | _ =>
    let (fraction, cs) ← scanFraction cs
    let (exponent, cs) ← scanExponent cs
    pure (⟨negative, whole, fraction, exponent⟩, cs)

/-- The binary64 number nearest to digits times a power of ten; `none` when it is too large. Powers
far outside the range of binary64 are settled without computing them. -/
def nearest? (digits : List Nat) (power : Int) : Option Float :=
  let ds := digits.dropWhile (· == 0)
  let size := power + ds.length
  if ds.isEmpty || size < -400 then some 0.0
  else if 400 < size then none
  else
    let x := Float.ofScientific (ofDigits ds) (decide (power < 0)) power.natAbs
    if x.isInf then none else some x

def signed (negative : Bool) (x : Float) : Float := if negative then -x else x

def real? (n : Numeral) : Option Float :=
  let fraction := n.fraction.getD []
  (nearest? (n.whole ++ fraction) (n.exponent.getD 0 - fraction.length)).map (signed n.negative)

/-- Zero with a minus sign is not an integer. -/
def int? (n : Numeral) : Option Int :=
  let m := ofDigits n.whole
  if n.fraction.isSome || n.exponent.isSome then none
  else if n.negative then (if 0 < m ∧ m ≤ 0x8000000000000000 then some (-m) else none)
  else if m < UInt64.size then some m else none

/-- A numeral too large for binary64 has no value. -/
def document (n : Numeral) : Document :=
  match n.int? with
  | some i => .number (.int i)
  | none =>
    match n.real? with
    | some x => .number (.real x)
    | none => .unreadable

end Numeral

end NetIntent
