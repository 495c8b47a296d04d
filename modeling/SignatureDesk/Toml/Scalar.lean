/-
The unquoted values of TOML: booleans, integers in four bases, floats, and dates
and times, which are kept as their text in a fixed form.
-/
import SignatureDesk.Config.Value
import SignatureDesk.Text.Hex
import SignatureDesk.Text.White
import SignatureDesk.Time.Calendar

namespace SignatureDesk.Toml

/-- Digits with single underscores between them, without those; none if an
underscore stands anywhere else. -/
def digits? (isDigit : Char → Bool) : List Char → Option (List Char)
  | [] => none
  | [c] => if isDigit c then some [c] else none
  | c :: '_' :: rest => if isDigit c then (digits? isDigit rest).map (c :: ·) else none
  | c :: rest => if isDigit c then (digits? isDigit rest).map (c :: ·) else none

/-- Decimal digits without a superfluous zero in front. -/
def whole? (s : List Char) : Option (List Char) :=
  match digits? Text.isAsciiDigit s with
  | some ('0' :: _ :: _) => none
  | r => r

/-- The number that digits of a base write. -/
def inBase? (base : Nat) (s : List Char) : Option Int := do
  let ds ← digits? (fun c => ((Text.hexValue? c).filter (· < base)).isSome) s
  let n := ds.foldl (fun n c => n * base + (Text.hexValue? c).getD 0) 0
  if n < Nat.pow 2 63 then some n else none

def integer? (s : List Char) : Option Int :=
  match s with
  | '0' :: 'x' :: rest => inBase? 16 rest
  | '0' :: 'o' :: rest => inBase? 8 rest
  | '0' :: 'b' :: rest => inBase? 2 rest
  | s => do
    let (negative, rest) := Float64.takeSign s
    let n := Instant.ofDigits (← whole? rest)
    if negative then if n ≤ Nat.pow 2 63 then some (-(n : Int)) else none
    else if n < Nat.pow 2 63 then some n else none

/-- A float: a whole number with a fraction, an exponent or both, or a word. A
positive one has to be finite. -/
def float? (s : List Char) : Option Float64 := do
  let (negative, rest) := Float64.takeSign s
  if rest = ['i', 'n', 'f'] then some (.infinite negative)
  else if rest = ['n', 'a', 'n'] then some .nan
  else
    let isMark := fun c : Char => c = '.' || c = 'e' || c = 'E'
    let whole ← whole? (rest.takeWhile (!isMark ·))
    let tail := rest.dropWhile (!isMark ·)
    if tail.isEmpty then none
    else
      let isE := fun c : Char => c = 'e' || c = 'E'
      let fraction ← match tail.takeWhile (!isE ·) with
        | [] => some []
        | _ :: ds => digits? Text.isAsciiDigit ds
      let exponent ← match tail.dropWhile (!isE ·) with
        | [] => some 0
        | _ :: e => do
          let (down, ds) := Float64.takeSign e
          let n := Instant.ofDigits (← digits? Text.isAsciiDigit ds)
          some (if down then -(n : Int) else n)
      let x := Float64.ofDecimal negative
        ⟨Instant.ofDigits (whole ++ fraction), exponent - fraction.length⟩
      if x = .infinite false then none else some x

/-! ## Dates and times -/

def takeDate (s : List Char) : Option (List Char × List Char) := do
  let (year, s) ← Instant.takeNumber 4 4 s
  let s ← Instant.takeChar '-' s
  let (month, s) ← Instant.takeNumber 2 2 s
  let s ← Instant.takeChar '-' s
  let (day, s) ← Instant.takeNumber 2 2 s
  if Date.valid ⟨year, month, day⟩ then
    some (Instant.padded 4 year ++ '-' :: Instant.padded 2 month ++ '-' :: Instant.padded 2 day, s)
  else none

/-- A fraction of a second to nine places, without zeros at its end. -/
def takeFraction (s : List Char) : Option (List Char × List Char) :=
  match s with
  | '.' :: rest =>
    let ds := rest.takeWhile Text.isAsciiDigit
    if ds.isEmpty then none
    else
      let kept := Text.dropRightWhile (· = '0') (ds.take 9)
      some (if kept.isEmpty then [] else '.' :: kept, rest.dropWhile Text.isAsciiDigit)
  | s => some ([], s)

def takeTime (s : List Char) : Option (List Char × List Char) := do
  let (hour, s) ← Instant.takeNumber 2 2 s
  let s ← Instant.takeChar ':' s
  let (minute, s) ← Instant.takeNumber 2 2 s
  let s ← Instant.takeChar ':' s
  let (second, s) ← Instant.takeNumber 2 2 s
  let (fraction, s) ← takeFraction s
  if hour ≤ 23 && minute ≤ 59 && second ≤ 60 then
    some (Instant.padded 2 hour ++ ':' :: Instant.padded 2 minute ++ ':' :: Instant.padded 2 second ++
      fraction, s)
  else none

/-- An offset that is the whole of a text, or nothing. -/
def offset? (s : List Char) : Option (List Char) :=
  match s with
  | [] => some []
  | ['Z'] => some ['Z']
  | ['z'] => some ['Z']
  | sign :: rest => do
    if sign ≠ '+' && sign ≠ '-' then none
    let (hours, rest) ← Instant.takeNumber 2 2 rest
    let rest ← Instant.takeChar ':' rest
    let (minutes, rest) ← Instant.takeNumber 2 2 rest
    let zero := hours = 0 && minutes = 0
    if rest.isEmpty && hours ≤ 23 && minutes ≤ 59 then
      some ((if zero then '+' else sign) :: Instant.padded 2 hours ++ ':' :: Instant.padded 2 minutes)
    else none

/-- A date, a time, or both with or without an offset, in its fixed form. -/
def moment? (s : List Char) : Option (List Char) :=
  match takeDate s with
  | some (date, []) => some date
  | some (date, mark :: rest) => do
    if mark ≠ 'T' && mark ≠ 't' && mark ≠ ' ' then none
    let (time, rest) ← takeTime rest
    some (date ++ 'T' :: time ++ (← offset? rest))
  | none =>
    match takeTime s with
    | some (time, []) => some time
    | _ => none

/-! ## Values -/

def isScalarChar (c : Char) : Bool :=
  Text.isAsciiLetter c || Text.isAsciiDigit c || "+-_.:".toList.contains c

/-- The unquoted text at the start of a text; a date takes the time behind one space with it. -/
def takeScalar (s : List Char) : List Char × List Char :=
  let word := s.takeWhile isScalarChar
  let rest := s.dropWhile isScalarChar
  match takeDate word, rest with
  | some (_, []), ' ' :: c :: more =>
    if Text.isAsciiDigit c then
      (word ++ ' ' :: (c :: more).takeWhile isScalarChar, (c :: more).dropWhile isScalarChar)
    else (word, rest)
  | _, _ => (word, rest)

/-- The value of an unquoted text. -/
def scalar? (s : List Char) : Option Config.Value :=
  if s = "true".toList then some (.flag true)
  else if s = "false".toList then some (.flag false)
  else
    match moment? s with
    | some m => some (.text (String.ofList m))
    | none =>
      match integer? s with
      | some z => some (.int z)
      | none => (float? s).map .float

end SignatureDesk.Toml
