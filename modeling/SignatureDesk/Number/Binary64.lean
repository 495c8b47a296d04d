/-
Finite binary64 numbers, held exactly. A number is a sign and a magnitude
counted in units of the smallest positive one, so magnitudes are natural
numbers, comparison is comparison of integers, and an operation is its exact
result followed by one rounding to the nearest representable magnitude, ties
to the even significand.
-/
namespace SignatureDesk

/-- A finite binary64 number: `units` times `2 ^ -1074`, negated when `negative`. -/
structure Binary64 where
  negative : Bool
  units : Nat
deriving Repr, DecidableEq, Inhabited

namespace Binary64

/-- The number of units in one. -/
def unitExponent : Nat := 1074

/-- Magnitudes from here on are not finite. -/
def limit : Nat := Nat.pow 2 2098

/-- The representable magnitude nearest to `num / den` units; none past the largest. -/
def roundUnits (num den : Nat) : Option Nat :=
  let whole := num / den
  let step := Nat.pow 2 (whole.log2 - 52)
  let kept := whole / step
  let twice := 2 * (num - kept * step * den)
  let up := step * den < twice || (step * den == twice && kept % 2 == 1)
  let units := (if up then kept + 1 else kept) * step
  if units < limit then some units else none

/-- The number nearest to `num / den`, up to sign. -/
def ofRatio (negative : Bool) (num den : Nat) : Option Binary64 :=
  (roundUnits (num * Nat.pow 2 unitExponent) den).map (⟨negative, ·⟩)

def ofNat (n : Nat) : Binary64 := ⟨false, (roundUnits (n * Nat.pow 2 unitExponent) 1).getD 0⟩

/-- The nearest number to an integer of at most 64 bits, which is always finite. -/
def ofInt (z : Int) : Binary64 := ⟨z < 0, (ofNat z.natAbs).units⟩

def zero : Binary64 := ⟨false, 0⟩

def neg (x : Binary64) : Binary64 := ⟨!x.negative, x.units⟩

/-- The signed count of units; both zeros have none. -/
def scaled (x : Binary64) : Int := if x.negative then -(x.units : Int) else x.units

def compare (x y : Binary64) : Ordering := Ord.compare x.scaled y.scaled

/-- The rounded product, unless it overflows. -/
def mul? (x y : Binary64) : Option Binary64 :=
  (roundUnits (x.units * y.units) (Nat.pow 2 unitExponent)).map (⟨x.negative != y.negative, ·⟩)

/-- The rounded quotient of a number by a positive one, unless it overflows. -/
def div? (x y : Binary64) : Option Binary64 :=
  (roundUnits (x.units * Nat.pow 2 unitExponent) y.units).map (⟨x.negative != y.negative, ·⟩)

/-- The number nearest to a power of ten within range. -/
def powerOfTen (k : Nat) : Binary64 := ofNat (Nat.pow 10 k)

/-- The nearest integer to the magnitude, halves away from zero. -/
def roundNat (x : Binary64) : Nat := (2 * x.units + Nat.pow 2 unitExponent) / (Nat.pow 2 (unitExponent + 1))

end Binary64
end SignatureDesk
