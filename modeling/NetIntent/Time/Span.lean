import NetIntent.Binary64

/-!
Spans of time in whole nanoseconds, up to the longest span that 64 bits of seconds can hold. Sums
stop at that limit. Scaling goes through binary64 seconds and rounds to the nearest nanosecond, a
half to the even one; what is negative, too long or no number becomes the longest span. A timer
runs for whole milliseconds, and never longer than its own limit.
-/

namespace NetIntent

/-- Nanoseconds in a second. -/
def Span.second : Nat := 1000000000

/-- Nanoseconds in a millisecond. -/
def Span.millisecond : Nat := 1000000

def Span.limit : Nat := UInt64.size * Span.second - 1

structure Span where
  nanos : Nat
  le_limit : nanos ≤ Span.limit
  deriving DecidableEq

namespace Span

def zero : Span := ⟨0, Nat.zero_le _⟩

def longest : Span := ⟨limit, Nat.le_refl _⟩

instance : Inhabited Span := ⟨zero⟩

/-- The span of a count of nanoseconds, or the longest one. -/
def ofNanos (n : Nat) : Span := if h : n ≤ limit then ⟨n, h⟩ else longest

def ofSecs (n : UInt64) : Span := ofNanos (n.toNat * second)

def ofMillis (n : UInt64) : Span := ofNanos (n.toNat * millisecond)

def add (a b : Span) : Span := ofNanos (a.nanos + b.nanos)

instance : Add Span := ⟨add⟩

/-- The sum of `n` equal spans. -/
def times (n : Nat) (a : Span) : Span := ofNanos (n * a.nanos)

/-- The longest time that a timer runs: thirty years of 365 days. -/
def timerLimit : Nat := 30 * 365 * 86400 * second

/-- How long a timer runs that is set to a span. It counts milliseconds, the last one whole. -/
def timed (a : Span) : Span :=
  ofNanos ((min a.nanos timerLimit + (millisecond - 1)) / millisecond * millisecond)

def secs (a : Span) : Nat := a.nanos / second

def fraction (a : Span) : Nat := a.nanos % second

/-- Whole milliseconds, kept to 64 bits. -/
def millis (a : Span) : UInt64 := UInt64.ofNat (a.nanos / millisecond)

def toReal (a : Span) : Float :=
  (UInt64.ofNat a.secs).toFloat + (UInt64.ofNat a.fraction).toFloat / 1000000000.0

/-- The quotient rounded to the nearest integer, a half to the even one. -/
def roundQuotient (n unit : Nat) : Nat :=
  let (q, r) := (n / unit, n % unit)
  if 2 * r < unit ∨ (2 * r = unit ∧ q % 2 = 0) then q else q + 1

/-- Nanoseconds in a non-negative finite number of seconds. -/
def nanosOfReal (x : Float) : Nat :=
  let x := Binary64.ofBits x.toBits
  match x.exponent with
  | .ofNat e => x.mantissa * Nat.pow 2 e * second
  | .negSucc e => roundQuotient (x.mantissa * second) (Nat.pow 2 (e + 1))

/-- The span of a number of seconds; `none` when it is negative, too long or no number. -/
def ofReal? (x : Float) : Option Span :=
  if x.isNaN || x.isInf || x < 0 then none
  else
    let n := nanosOfReal x
    if h : n ≤ limit then some ⟨n, h⟩ else none

def scale (a : Span) (factor : Float) : Span := (ofReal? (a.toReal * factor)).getD longest

/-- Seconds, a point and nine digits. -/
def display (a : Span) : String :=
  let digits := Nat.toDigits 10 a.fraction
  toString a.secs ++ "." ++ String.ofList (List.replicate (9 - digits.length) '0' ++ digits)

end Span

end NetIntent
