import NetIntent.Binary64

/-!
The shortest decimal that reads back as a given binary64 number, and its text: positional for
exponents from -5 to 16, scientific with a signed exponent beyond, and never without a point or an
exponent.
-/

namespace NetIntent.Shortest

/-- Four times the number and the ends of the interval that rounds to it, as fractions over
`scale`. -/
structure Interval where
  low : Nat
  value : Nat
  high : Nat
  scale : Nat
  closed : Bool

def interval (x : Binary64) : Interval :=
  let low := 4 * x.mantissa - (if x.tight then 1 else 2)
  let value := 4 * x.mantissa
  let high := 4 * x.mantissa + 2
  let closed := x.mantissa % 2 = 0
  match x.exponent with
  | .ofNat e => let unit := Nat.pow 2 e; ⟨low * unit, value * unit, high * unit, 4, closed⟩
  | .negSucc e => ⟨low, value, high, 4 * Nat.pow 2 (e + 1), closed⟩

/-- Whether `n * 10 ^ power` lies in the interval. -/
def Interval.holds (i : Interval) (n : Nat) (power : Int) : Bool :=
  let (n, unit) := match power with
    | .ofNat k => (n * Nat.pow 10 k * i.scale, 1)
    | .negSucc k => (n * i.scale, Nat.pow 10 (k + 1))
  if i.closed then i.low * unit ≤ n && n ≤ i.high * unit
  else i.low * unit < n && n < i.high * unit

/-- The neighbours of the value on the grid of multiples of `10 ^ power`: the one below and twice
the distance from it, in grid units over `unit`. -/
def Interval.grid (i : Interval) (power : Int) : Nat × Nat × Nat :=
  let (top, unit) := match power with
    | .ofNat k => (i.value, i.scale * Nat.pow 10 k)
    | .negSucc k => (i.value * Nat.pow 10 (k + 1), i.scale)
  (top / unit, 2 * (top % unit), unit)

/-- The nearest grid point in the interval, the even one of two equally near. -/
def Interval.pick (i : Interval) (power : Int) : Option Nat :=
  let (below, twice, unit) := i.grid power
  let lower := i.holds below power
  let upper := i.holds (below + 1) power
  if lower && upper then
    some (if twice < unit || (twice = unit && below % 2 = 0) then below else below + 1)
  else if lower then some below
  else if upper then some (below + 1)
  else none

/-- The coarsest grid with a point in the interval, starting at `10 ^ power` and refining `fuel`
times. -/
def search (i : Interval) : Nat → Int → Nat × Int
  | 0, power => ((i.pick power).getD 0, power)
  | fuel + 1, power =>
    match i.pick power with
    | some 0 | none => search i fuel (power - 1)
    | some n => (n, power)

/-- A coarsest point may still end in zeros when it is a power of ten. -/
def trim : Nat → Nat → Int → Nat × Int
  | 0, n, power => (n, power)
  | fuel + 1, n, power =>
    if n % 10 = 0 ∧ n ≠ 0 then trim fuel (n / 10) (power + 1) else (n, power)

/-- Digits and power of ten of the shortest decimal of a positive number. -/
def decimal (bits : UInt64) : Nat × Int :=
  let (n, power) := search (interval (.ofBits bits)) 650 310
  trim 20 n power

def layout (digits : List Char) (power : Int) : List Char :=
  let size : Int := digits.length
  let point := size + power
  if 0 ≤ power ∧ point ≤ 16 then digits ++ List.replicate power.toNat '0' ++ ['.', '0']
  else if 0 < point ∧ point ≤ 16 then digits.take point.toNat ++ '.' :: digits.drop point.toNat
  else if -5 < point ∧ point ≤ 0 then '0' :: '.' :: List.replicate (-point).toNat '0' ++ digits
  else
    let exponent := 'e' :: (if 0 < point then ['+'] else []) ++ (toString (point - 1)).toList
    match digits with
    | [d] => d :: exponent
    | d :: rest => d :: '.' :: rest ++ exponent
    | [] => exponent

/-- The text of a number; what is not finite has none of its own and is written as null. -/
def text (x : Float) : String :=
  if x.isNaN || x.isInf then "null"
  else
    let bits := x.toBits
    let sign := if 0x8000000000000000 ≤ bits.toNat then ['-'] else []
    let magnitude := UInt64.ofNat (bits.toNat % 0x8000000000000000)
    if magnitude.toNat = 0 then String.ofList (sign ++ ['0', '.', '0'])
    else
      let (n, power) := decimal magnitude
      String.ofList (sign ++ layout (Nat.toDigits 10 n) power)

end NetIntent.Shortest
