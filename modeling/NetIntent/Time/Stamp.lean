import NetIntent.Document.Decimal
import NetIntent.Text.Blank
import NetIntent.Time.Span

/-!
Points in time in UTC. They are written as date, time and as few of 0, 3, 6 or 9 fraction digits as
they need, and read with any offset of whole minutes, with blanks allowed between the parts.
-/

namespace NetIntent

/-- Seconds since 1970 and nanoseconds, which reach past a second only in a leap second. -/
structure Stamp where
  secs : Int
  nanos : Nat
  deriving DecidableEq

namespace Stamp

def isLeapYear (year : Int) : Bool := (year % 4 == 0 && year % 100 != 0) || year % 400 == 0

def daysInMonth (year : Int) (month : Nat) : Nat :=
  if month = 2 then (if isLeapYear year then 29 else 28)
  else if month = 4 ∨ month = 6 ∨ month = 9 ∨ month = 11 then 30
  else 31

/-- Days from the first of March of year zero, counted in years that start in March. -/
def marchDays (year : Int) (month day : Nat) : Int :=
  let y := if month ≤ 2 then year - 1 else year
  let m : Int := if month ≤ 2 then month + 9 else month - 3
  365 * y + y.fdiv 4 - y.fdiv 100 + y.fdiv 400 + (153 * m + 2) / 5 + day - 1

/-- Days since 1970. -/
def daysOfDate (year : Int) (month day : Nat) : Int := marchDays year month day - 719468

/-- Year, month and day of a number of days since 1970. -/
def dateOfDays (days : Int) : Int × Nat × Nat :=
  let z := days + 719468
  let era := z.fdiv 146097
  let dayOfEra := z.fmod 146097
  let yearOfEra := (dayOfEra - dayOfEra / 1460 + dayOfEra / 36524 - dayOfEra / 146096) / 365
  let dayOfYear := dayOfEra - (365 * yearOfEra + yearOfEra / 4 - yearOfEra / 100)
  let m := (5 * dayOfYear + 2) / 153
  let day := dayOfYear - (153 * m + 2) / 5 + 1
  let month := if m < 10 then m + 3 else m - 9
  let year := yearOfEra + era * 400 + (if month ≤ 2 then 1 else 0)
  (year, month.toNat, day.toNat)

def padded (width n : Nat) : List Char :=
  let digits := Nat.toDigits 10 n
  List.replicate (width - digits.length) '0' ++ digits

/-- Four digits, and a sign outside the years 0 to 9999. -/
def yearText (year : Int) : List Char :=
  if 0 ≤ year ∧ year ≤ 9999 then padded 4 year.toNat
  else (if year < 0 then '-' else '+') :: padded 4 year.natAbs

def fractionText (nanos : Nat) : List Char :=
  if nanos = 0 then []
  else if nanos % Span.millisecond = 0 then '.' :: padded 3 (nanos / Span.millisecond)
  else if nanos % 1000 = 0 then '.' :: padded 6 (nanos / 1000)
  else '.' :: padded 9 nanos

def display (t : Stamp) : String :=
  let (year, month, day) := dateOfDays (t.secs.fdiv 86400)
  let second := (t.secs.fmod 86400).toNat
  String.ofList (yearText year ++ '-' :: padded 2 month ++ '-' :: padded 2 day ++
    'T' :: padded 2 (second / 3600) ++ ':' :: padded 2 (second / 60 % 60) ++
    ':' :: padded 2 (second % 60 + t.nanos / Span.second) ++
    fractionText (t.nanos % Span.second) ++ ['Z'])

def skipBlank : List Char → List Char := List.dropWhile Text.isBlank

/-- A number of one to `width` digits, within bounds. -/
def number (width low high : Nat) (cs : List Char) : Option (Nat × List Char) :=
  let ds := (cs.take width).takeWhile Char.isDigit
  let n := Numeral.ofDigits (ds.filterMap Numeral.digit?)
  if ds.isEmpty || n < low || high < n then none else some (n, cs.drop ds.length)

def lastYear : Nat := 262142

/-- Years before the year zero, of which there is one more than after it. -/
def yearsBefore : Nat := 262143

/-- A signed year has any number of digits, an unsigned one at most four. -/
def year : List Char → Option (Int × List Char)
  | '-' :: rest => (number rest.length 0 yearsBefore rest).map fun (n, rest) => (-(n : Int), rest)
  | '+' :: rest => (number rest.length 0 lastYear rest).map fun (n, rest) => ((n : Int), rest)
  | cs => (number 4 0 9999 cs).map fun (n, rest) => ((n : Int), rest)

def mark (c : Char) (cs : List Char) : Option (List Char) :=
  match cs with
  | d :: rest => if c = d then some rest else none
  | [] => none

def date (cs : List Char) : Option (Int × List Char) := do
  let (y, cs) ← year (skipBlank cs)
  let cs ← mark '-' (skipBlank cs)
  let (m, cs) ← number 2 1 12 (skipBlank cs)
  let cs ← mark '-' (skipBlank cs)
  let (d, cs) ← number 2 1 31 (skipBlank cs)
  if d ≤ daysInMonth y m then some (daysOfDate y m d, cs) else none

/-- Nanoseconds after a point; digits beyond the ninth are passed over. -/
def fraction : List Char → Option (Nat × List Char)
  | '.' :: rest =>
    let ds := rest.takeWhile Char.isDigit
    let kept := (ds.take 9).filterMap Numeral.digit?
    if ds.isEmpty then none
    else some (Numeral.ofDigits kept * Nat.pow 10 (9 - kept.length), rest.drop ds.length)
  | rest => some (0, rest)

/-- Seconds of the day and nanoseconds; second 60 is a leap second. -/
def time (cs : List Char) : Option ((Nat × Nat) × List Char) := do
  let (h, cs) ← number 2 0 23 (skipBlank cs)
  let cs ← mark ':' (skipBlank cs)
  let (m, cs) ← number 2 0 59 (skipBlank cs)
  let cs ← mark ':' (skipBlank cs)
  let (s, cs) ← number 2 0 60 (skipBlank cs)
  let (nanos, cs) ← fraction cs
  let (s, nanos) := if s = 60 then (59, nanos + Span.second) else (s, nanos)
  pure ((h * 3600 + m * 60 + s, nanos), cs)

def twoDigits : List Char → Option (Nat × List Char)
  | a :: b :: rest => do
    let a ← Numeral.digit? a
    let b ← Numeral.digit? b
    pure (10 * a + b, rest)
  | _ => none

def hoursAndMinutes (sign : Int) (cs : List Char) : Option (Int × List Char) := do
  let (h, cs) ← twoDigits cs
  let (m, cs) ← twoDigits (cs.dropWhile fun c => c == ':' || Text.isBlank c)
  if h < 24 ∧ m < 60 then some (sign * (h * 3600 + m * 60 : Nat), cs) else none

/-- Seconds east of Greenwich. -/
def offset (cs : List Char) : Option (Int × List Char) :=
  match cs with
  | 'Z' :: rest | 'z' :: rest => some (0, rest)
  | '+' :: rest => hoursAndMinutes 1 rest
  | '-' :: rest | '\u2212' :: rest => hoursAndMinutes (-1) rest
  | a :: b :: c :: rest =>
    if [a.toLower, b.toLower, c.toLower] = ['u', 't', 'c'] then some (0, rest) else none
  | _ => none

/-- Whether a second since 1970 falls on a day of a year that can be written. -/
def inRange (secs : Int) : Bool :=
  let day := secs.fdiv 86400
  daysOfDate (-(yearsBefore : Int)) 1 1 ≤ day && day ≤ daysOfDate lastYear 12 31

/-- The offset may carry a point into the year before or after, but not out of range. -/
def read? (s : String) : Option Stamp := do
  let (days, cs) ← date s.toList
  let cs ← match cs with
    | 't' :: rest | 'T' :: rest | ' ' :: rest => some rest
    | _ => none
  let ((second, nanos), cs) ← time cs
  let (east, cs) ← offset (skipBlank cs)
  let secs := days * 86400 + second - east
  if (skipBlank cs).isEmpty && inRange secs then some ⟨secs, nanos⟩ else none

end Stamp

end NetIntent
