/-
Reading the number of a JSON text. The digits are gathered into a significand
of 64 bits; integers that fit stay integers, and everything else becomes a float
by one rounding of the significand and one multiplication or division by a power
of ten, so a float of many digits can miss the nearest one by a unit.
-/
import SignatureDesk.Json.Basic
import SignatureDesk.Text.Case
import SignatureDesk.Time.Instant

namespace SignatureDesk.Json

/-- The largest significand. -/
def significandLimit : Nat := Nat.pow 2 64

/-- A significand with the digits that no longer fitted it. -/
structure Gathered where
  significand : Nat
  dropped : Nat

/-- Appends digits while they fit, and counts the others from the first that does not. -/
def gather (significand : Nat) : List Char → Gathered
  | [] => ⟨significand, 0⟩
  | c :: rest =>
    let next := significand * 10 + Instant.digitValue c
    if next < significandLimit then gather next rest else ⟨significand, rest.length + 1⟩

/-- Divides by powers of ten until the exponent is used up or nothing is left. -/
def divideByTens (x : Binary64) (k : Nat) : Binary64 :=
  if k ≤ 308 then (x.div? (.powerOfTen k)).getD .zero
  else if x.units = 0 then x
  else divideByTens ((x.div? (.powerOfTen 308)).getD .zero) (k - 308)
termination_by k

/-- `significand * 10 ^ exponent`; none past the finite numbers. -/
def ofParts (significand : Nat) (exponent : Int) : Option Binary64 :=
  let x := Binary64.ofNat significand
  if exponent < 0 then some (divideByTens x exponent.natAbs)
  else if exponent ≤ 308 then x.mul? (.powerOfTen exponent.toNat)
  else if significand = 0 then some .zero
  else none

/-- The parts of a number in a text. -/
structure Numeral where
  negative : Bool
  whole : List Char
  fraction : Option (List Char)
  /-- Whether the exponent is negative, and its digits. -/
  exponent : Option (Bool × List Char)

/-- The largest written exponent that counts. -/
def exponentLimit : Nat := Nat.pow 2 31

/-- The float of a numeral; none past the finite numbers. -/
def Numeral.float? (n : Numeral) : Option Binary64 :=
  let whole := gather 0 n.whole
  let both := gather whole.significand (n.fraction.getD [])
  let shift : Int := whole.dropped - ((n.fraction.getD []).length - both.dropped : Nat)
  match n.exponent with
  | none => ofParts both.significand shift
  | some (down, ds) =>
    let e := Instant.ofDigits ds
    if exponentLimit ≤ e then
      if both.significand ≠ 0 ∧ !down then none else some .zero
    else ofParts both.significand (if down then shift - e else shift + e)

/-- The number of a numeral; none past the finite numbers. -/
def Numeral.number? (n : Numeral) : Option Number :=
  let n' := Instant.ofDigits n.whole
  if n.fraction.isNone ∧ n.exponent.isNone ∧ n' < significandLimit ∧
      (n.negative → n' ≠ 0 ∧ n' ≤ Nat.pow 2 63) then
    some (.int (if n.negative then -(n' : Int) else n'))
  else
    n.float?.map fun x => .float (if n.negative then x.neg else x)

/-- The digits at the start of a text, and the rest. -/
def spanDigits (s : List Char) : List Char × List Char :=
  (s.takeWhile Text.isAsciiDigit, s.dropWhile Text.isAsciiDigit)

/-- At least one digit at the start of a text. -/
def takeDigits (s : List Char) : Option (List Char × List Char) :=
  match spanDigits s with
  | ([], _) => none
  | r => some r

/-- Digits of a whole number, which has no superfluous zero in front. -/
def takeWhole (s : List Char) : Option (List Char × List Char) :=
  match takeDigits s with
  | some ('0' :: _ :: _, _) => none
  | r => r

def takeExponent (s : List Char) : Option (Option (Bool × List Char) × List Char) :=
  match s with
  | e :: rest =>
    if e = 'e' ∨ e = 'E' then
      let (down, rest) :=
        match rest with
        | '+' :: rest => (false, rest)
        | '-' :: rest => (true, rest)
        | rest => (false, rest)
      (takeDigits rest).map fun (ds, rest) => (some (down, ds), rest)
    else some (none, s)
  | [] => some (none, [])

/-- The numeral at the start of a text. -/
def takeNumeral (s : List Char) : Option (Numeral × List Char) := do
  let (negative, s) :=
    match s with
    | '-' :: rest => (true, rest)
    | s => (false, s)
  let (whole, s) ← takeWhole s
  let (fraction, s) ←
    match s with
    | '.' :: rest => (takeDigits rest).map fun (ds, rest) => (some ds, rest)
    | s => some (none, s)
  let (exponent, s) ← takeExponent s
  some (⟨negative, whole, fraction, exponent⟩, s)

end SignatureDesk.Json
