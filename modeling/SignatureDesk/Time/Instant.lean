/-
Instants of time and their written form. An instant counts whole seconds from
the start of 1970 and the nanoseconds after; a second that a leap second
prolongs runs to two thousand million of them, and prints as second 60.

There are two readers of the date-time notation of the internet. The strict one
takes exactly the notation; the relaxed one also lets numbers be short or
signed, and white space stand between the parts.
-/
import SignatureDesk.Text.Case
import SignatureDesk.Text.White
import SignatureDesk.Time.Calendar

namespace SignatureDesk

structure Instant where
  seconds : Int
  nanos : Nat
deriving Repr, DecidableEq

namespace Instant

/-- Earlier first; within a second by nanoseconds. -/
def compare (a b : Instant) : Ordering :=
  (Ord.compare a.seconds b.seconds).then (Ord.compare a.nanos b.nanos)

/-! ## Reading -/

/-- The parts of a written date and time, with its offset from universal time in seconds. -/
structure Stamp where
  date : Date
  hour : Nat
  minute : Nat
  second : Nat
  nanos : Nat
  offset : Int

/-- The years that instants are kept in. -/
def yearInRange (year : Int) : Bool := -262143 ≤ year && year ≤ 262142

/-- The instant that a stamp denotes, when its parts are those of a calendar and a clock. -/
def ofStamp? (s : Stamp) : Option Instant :=
  if s.date.valid && yearInRange s.date.year && s.hour ≤ 23 && s.minute ≤ 59 && s.second ≤ 60 &&
      s.offset.natAbs < 86400 then
    let leap := s.second == 60
    let clock := s.hour * 3600 + s.minute * 60 + if leap then 59 else s.second
    let seconds := s.date.toDays * 86400 + clock - s.offset
    if yearInRange (Date.ofDays (seconds / 86400)).year then
      some ⟨seconds, if leap then s.nanos + 1000000000 else s.nanos⟩
    else none
  else none

def digitValue (c : Char) : Nat := c.toNat - '0'.toNat

/-- The number that decimal digits write. -/
def ofDigits (ds : List Char) : Nat := ds.foldl (fun n c => 10 * n + digitValue c) 0

/-- Between `least` and `most` decimal digits, and what follows them. -/
def takeNumber (least most : Nat) (s : List Char) : Option (Nat × List Char) :=
  let ds := (s.take most).takeWhile Text.isAsciiDigit
  if ds.length < least then none else some (ofDigits ds, s.drop ds.length)

def takeChar (c : Char) : List Char → Option (List Char)
  | d :: rest => if d = c then some rest else none
  | [] => none

/-- A fraction of a second: digits past the ninth are dropped. -/
def takeFraction : List Char → Option (Nat × List Char)
  | '.' :: rest => do
    let ds := (rest.take 9).takeWhile Text.isAsciiDigit
    if ds.isEmpty then none
    else some (ofDigits ds * Nat.pow 10 (9 - ds.length), (rest.drop ds.length).dropWhile Text.isAsciiDigit)
  | s => some (0, s)

/-- An offset from universal time: `Z`, or a sign, two digits, what `separator`
takes away, and two digits of minutes. -/
def takeOffset (separator : List Char → Option (List Char)) :
    List Char → Option (Int × List Char)
  | [] => none
  | c :: rest =>
    if c = 'Z' ∨ c = 'z' then some (0, rest)
    else if c = '+' ∨ c = '-' ∨ c = '−' then do
      let (hours, rest) ← takeNumber 2 2 rest
      let rest ← separator rest
      let (minutes, rest) ← takeNumber 2 2 rest
      if 59 < minutes then none
      let seconds : Int := (hours * 3600 + minutes * 60 : Nat)
      some (if c = '+' then seconds else -seconds, rest)
    else none

/-- The mark between date and time. -/
def takeTimeMark : List Char → Option (List Char)
  | c :: rest => if c = 'T' ∨ c = 't' ∨ c = ' ' then some rest else none
  | [] => none

/-- The strict notation, to the end of the text. -/
def readStrictChars (s : List Char) : Option Instant := do
  let (year, s) ← takeNumber 4 4 s
  let s ← takeChar '-' s
  let (month, s) ← takeNumber 2 2 s
  let s ← takeChar '-' s
  let (day, s) ← takeNumber 2 2 s
  let s ← takeTimeMark s
  let (hour, s) ← takeNumber 2 2 s
  let s ← takeChar ':' s
  let (minute, s) ← takeNumber 2 2 s
  let s ← takeChar ':' s
  let (second, s) ← takeNumber 2 2 s
  let (nanos, s) ← takeFraction s
  let (offset, s) ← takeOffset (takeChar ':') s
  if s.isEmpty then ofStamp? ⟨⟨year, month, day⟩, hour, minute, second, nanos, offset⟩ else none

def readStrict (s : String) : Option Instant := readStrictChars s.toList

/-- A year: four digits at most, or any number of them after a sign. -/
def takeYear (s : List Char) : Option (Int × List Char) :=
  match s with
  | '-' :: rest => (takeNumber 1 rest.length rest).map fun (n, r) => (-(n : Int), r)
  | '+' :: rest => (takeNumber 1 rest.length rest).map fun (n, r) => ((n : Int), r)
  | s => (takeNumber 1 4 s).map fun (n, r) => ((n : Int), r)

/-- One or two digits after white space. -/
def takeLoose (s : List Char) : Option (Nat × List Char) := takeNumber 1 2 (Text.trimLeft s)

/-- A separator after white space. -/
def takeMark (c : Char) (s : List Char) : Option (List Char) := takeChar c (Text.trimLeft s)

/-- A zone: the letters UTC, or an offset with any colons and white space inside. -/
def takeZone (s : List Char) : Option (Int × List Char) :=
  if (s.take 3).map Text.asciiUpperChar == ['U', 'T', 'C'] then some (0, s.drop 3)
  else takeOffset (fun r => some (r.dropWhile fun c => c = ':' || Text.isWhite c)) s

/-- The relaxed notation, up to white space at the end of the text. -/
def readRelaxedChars (s : List Char) : Option Instant := do
  let (year, s) ← takeYear (Text.trimLeft s)
  let s ← takeMark '-' s
  let (month, s) ← takeLoose s
  let s ← takeMark '-' s
  let (day, s) ← takeLoose s
  let s ← takeTimeMark s
  let (hour, s) ← takeLoose s
  let s ← takeMark ':' s
  let (minute, s) ← takeLoose s
  let s ← takeMark ':' s
  let (second, s) ← takeLoose s
  let (nanos, s) ← takeFraction s
  let (offset, s) ← takeZone (Text.trimLeft s)
  if s.all Text.isWhite then
    ofStamp? ⟨⟨year, month, day⟩, hour, minute, second, nanos, offset⟩
  else none

def readRelaxed (s : String) : Option Instant := readRelaxedChars s.toList

/-! ## Writing -/

/-- A number in at least `width` digits. -/
def padded (width n : Nat) : List Char :=
  let ds := Nat.toDigits 10 n
  List.replicate (width - ds.length) '0' ++ ds

/-- Four digits for the years 0 to 9999; a sign and at least four digits for the others. -/
def writeYear (year : Int) : List Char :=
  if 0 ≤ year ∧ year ≤ 9999 then padded 4 year.toNat
  else (if year < 0 then '-' else '+') :: padded 4 year.natAbs

/-- A fraction in three, six or nine digits, whichever are enough; none for zero. -/
def writeFraction (nanos : Nat) : List Char :=
  if nanos = 0 then []
  else if nanos % 1000000 = 0 then '.' :: padded 3 (nanos / 1000000)
  else if nanos % 1000 = 0 then '.' :: padded 6 (nanos / 1000)
  else '.' :: padded 9 nanos

/-- The instant in universal time, `fraction` writing what is left of the second. -/
def writeWith (fraction : Nat → List Char) (i : Instant) : List Char :=
  let date := Date.ofDays (i.seconds / 86400)
  let clock := (i.seconds % 86400).toNat
  let leap := 1000000000 ≤ i.nanos
  let second := clock % 60 + if leap then 1 else 0
  let nanos := if leap then i.nanos - 1000000000 else i.nanos
  writeYear date.year ++ ['-'] ++ padded 2 date.month ++ ['-'] ++ padded 2 date.day ++ ['T'] ++
    padded 2 (clock / 3600) ++ [':'] ++ padded 2 (clock / 60 % 60) ++ [':'] ++ padded 2 second ++
    fraction nanos ++ ['Z']

/-- The form with as many digits of the second as it takes. -/
def write (i : Instant) : String := String.ofList (writeWith writeFraction i)

/-- The form in whole seconds. -/
def writeSeconds (i : Instant) : String := String.ofList (writeWith (fun _ => []) i)

end Instant
end SignatureDesk
