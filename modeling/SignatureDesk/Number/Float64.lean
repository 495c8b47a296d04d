/-
Binary64 numbers with the infinities and the one that is no number, in the plain
notation: digits with a point and perhaps an exponent on the way in, digits
with a point alone on the way out.
-/
import SignatureDesk.Number.Decimal
import SignatureDesk.Text.Case
import SignatureDesk.Time.Instant

namespace SignatureDesk

inductive Float64 where
  | finite (x : Binary64)
  | infinite (negative : Bool)
  | nan
deriving Repr, DecidableEq

namespace Float64

/-- Positional notation whatever the magnitude; no point in an integer. -/
def plainLayout : Decimal.Layout := ⟨fun _ => true, false⟩

def write : Float64 → String
  | .finite x => String.ofList (x.write plainLayout)
  | .infinite negative => if negative then "-inf" else "inf"
  | .nan => "NaN"

/-- The number that a sign and a decimal stand for, infinite past the finite ones. -/
def ofDecimal (negative : Bool) (d : Decimal) : Float64 :=
  match d.toBinary64? negative with
  | some x => .finite x
  | none => .infinite negative

/-- A sign at the start of a text, true for minus, and the rest. -/
def takeSign : List Char → Bool × List Char
  | '-' :: rest => (true, rest)
  | '+' :: rest => (false, rest)
  | rest => (false, rest)

/-- An exponent that is the whole of a text: nothing, or `e` and an integer. -/
def exponent? (s : List Char) : Option Int :=
  match s with
  | [] => some 0
  | e :: rest =>
    if e = 'e' || e = 'E' then
      let (negative, ds) := takeSign rest
      if ds.isEmpty || !ds.all Text.isAsciiDigit then none
      else some (if negative then -(Instant.ofDigits ds : Int) else Instant.ofDigits ds)
    else none

/-- Digits with or without a point, at least one of them, and an exponent. -/
def decimal? (s : List Char) : Option Decimal := do
  let whole := s.takeWhile Text.isAsciiDigit
  let rest := s.dropWhile Text.isAsciiDigit
  let (fraction, rest) :=
    match rest with
    | '.' :: rest => (rest.takeWhile Text.isAsciiDigit, rest.dropWhile Text.isAsciiDigit)
    | rest => ([], rest)
  if whole.isEmpty && fraction.isEmpty then none
  else some ⟨Instant.ofDigits (whole ++ fraction), (← exponent? rest) - fraction.length⟩

/-- Reads a number, or one of the words for those that are not finite. -/
def read? (s : String) : Option Float64 :=
  let (negative, rest) := takeSign s.toList
  let word := String.ofList (rest.map Text.asciiLowerChar)
  if word = "inf" || word = "infinity" then some (.infinite negative)
  else if word = "nan" then some .nan
  else (decimal? rest).map (ofDecimal negative)

/-- The nearest natural number below a bound: zero for what is negative or no
number, the last one below the bound for what lies past it. -/
def saturate (bound : Nat) : Float64 → Nat
  | .finite x => if x.negative then 0 else min x.roundNat (bound - 1)
  | .infinite negative => if negative then 0 else bound - 1
  | .nan => 0

end Float64
end SignatureDesk
