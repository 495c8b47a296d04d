/-
Decimal forms of binary64 numbers: the fewest digits that read back to the same
number, how a digit string is laid out with its point or exponent, and the
reading of a decimal with a single rounding.
-/
import SignatureDesk.Number.Binary64

namespace SignatureDesk

/-- A decimal `digits * 10 ^ exponent`. -/
structure Decimal where
  digits : Nat
  exponent : Int
deriving Repr, DecidableEq

namespace Decimal

/-- The number of decimal digits, one for zero. -/
def width (n : Nat) : Nat := (Nat.toDigits 10 n).length

/-- Moves trailing zeros of the digits into the exponent. -/
def normalize : Nat → Decimal → Decimal
  | 0, d => d
  | fuel + 1, d =>
    if d.digits != 0 && d.digits % 10 == 0 then normalize fuel ⟨d.digits / 10, d.exponent + 1⟩ else d

/-- The reals that round to a magnitude, in quarters of the gap above it. -/
structure Neighbourhood where
  low : Nat
  value : Nat
  high : Nat
  closed : Bool

/-- A representable magnitude with the midpoints to its neighbours, all in quarter units. -/
def Neighbourhood.ofUnits (units : Nat) : Neighbourhood :=
  let shift := units.log2 - 52
  let kept := units / Nat.pow 2 shift
  let gap := Nat.pow 2 shift
  let below := if kept == Nat.pow 2 52 && shift != 0 then gap else 2 * gap
  ⟨4 * units - below, 4 * units, 4 * units + 2 * gap, kept % 2 == 0⟩

/-- Whether `num / den` quarter units lie in the neighbourhood. -/
def Neighbourhood.holds (n : Neighbourhood) (num den : Nat) : Bool :=
  if n.closed then n.low * den ≤ num && num ≤ n.high * den
  else n.low * den < num && num < n.high * den

/-- The multiples of `10 ^ exponent` next to the magnitude that lie in its
neighbourhood, the nearer one first; of two equally near, the even one. -/
def gridPoint (n : Neighbourhood) (exponent : Int) : Option Nat :=
  -- a grid point `d` is `d * num / den` quarter units
  let num := 4 * Nat.pow 2 Binary64.unitExponent * Nat.pow 10 exponent.toNat
  let den := Nat.pow 10 (-exponent).toNat
  let d := n.value * den / num
  let low := n.holds (d * num) den
  let high := n.holds ((d + 1) * num) den
  let toLow := n.value * den - d * num
  let toHigh := (d + 1) * num - n.value * den
  if low && high then
    if toLow < toHigh || (toLow == toHigh && d % 2 == 0) then some d else some (d + 1)
  else if low then some d
  else if high then some (d + 1)
  else none

/-- The number of digits before the point of a positive magnitude (zero or less
when it is below one tenth). -/
def pointOf (units : Nat) : Int :=
  let whole := units / Nat.pow 2 Binary64.unitExponent
  if whole != 0 then width whole
  else
    -- the first power of ten that lifts the magnitude to one or more
    let lifted (k : Nat) : Bool := Nat.pow 2 Binary64.unitExponent ≤ units * Nat.pow 10 (k + 1)
    Int.neg ((List.range 330).findIdx lifted)

/-- The fewest digits, tried from one to seventeen, that read back to `units`. -/
def shortestFrom (n : Neighbourhood) (point : Int) : List Nat → Decimal
  | [] => ⟨0, 0⟩
  | width :: more =>
    match gridPoint n (point - width) with
    | some d => normalize 20 ⟨d, point - width⟩
    | none => shortestFrom n point more

/-- The shortest decimal that reads back to a magnitude of `units`. -/
def shortest (units : Nat) : Decimal :=
  if units == 0 then ⟨0, 0⟩
  else shortestFrom (.ofUnits units) (pointOf units) ((List.range 17).map (· + 1))

/-- How a digit string is written. -/
structure Layout where
  /-- Positional notation while the point stands within these bounds. -/
  positional : Int → Bool
  /-- Whether an integral value keeps `.0`. -/
  pointZero : Bool

def zeros (n : Nat) : List Char := List.replicate n '0'

/-- The text of a positive decimal or zero. -/
def write (layout : Layout) (d : Decimal) : List Char :=
  let ds := Nat.toDigits 10 d.digits
  let point : Int := ds.length + d.exponent
  let tail := if layout.pointZero then ['.', '0'] else []
  if d.digits == 0 then '0' :: tail
  else if layout.positional point then
    if 0 ≤ d.exponent then ds ++ zeros d.exponent.toNat ++ tail
    else if 0 < point then ds.take point.toNat ++ ['.'] ++ ds.drop point.toNat
    else ['0', '.'] ++ zeros (-point).toNat ++ ds
  else
    let power := (toString (point - 1)).toList
    match ds with
    | [d] => d :: 'e' :: power
    | d :: rest => d :: '.' :: rest ++ 'e' :: power
    | [] => []

/-- The number nearest to a decimal; none when it overflows. The bounds only
keep hopeless exponents from being raised. -/
def toBinary64? (negative : Bool) (d : Decimal) : Option Binary64 :=
  let point := width d.digits + d.exponent
  if d.digits == 0 then some ⟨negative, 0⟩
  else if 320 < point then none
  else if point < -400 then some ⟨negative, 0⟩
  else
    let num := d.digits * Nat.pow 10 d.exponent.toNat
    let den := Nat.pow 10 (-d.exponent).toNat
    Binary64.ofRatio negative num den

end Decimal

/-- The text of a number in a layout. -/
def Binary64.write (layout : Decimal.Layout) (x : Binary64) : List Char :=
  (if x.negative then ['-'] else []) ++ (Decimal.shortest x.units).write layout

end SignatureDesk
