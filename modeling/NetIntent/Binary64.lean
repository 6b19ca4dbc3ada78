/-!
Finite binary64 numbers as integers times powers of two, without their signs.
-/

namespace NetIntent

/-- The number `mantissa * 2 ^ exponent`; `tight` marks one whose lower neighbour is nearer than its
upper one. -/
structure Binary64 where
  mantissa : Nat
  exponent : Int
  tight : Bool

namespace Binary64

/-- How many numbers there are from one power of two up to, not including, the next. -/
def perOctave : Nat := 0x10000000000000

def ofBits (bits : UInt64) : Binary64 :=
  let fraction : Nat := bits.toNat % perOctave
  let field : Nat := bits.toNat / perOctave % 0x800
  if field = 0 then ⟨fraction, -1074, false⟩
  else ⟨perOctave + fraction, field - 1075, fraction = 0 ∧ 1 < field⟩

end Binary64

end NetIntent
