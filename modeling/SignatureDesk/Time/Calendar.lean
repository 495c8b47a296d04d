/-
The proleptic Gregorian calendar: dates as day numbers and back. Years start in
March while counting, so that the leap day is the last of its year; a day number
then splits into eras of 400 years, centuries, groups of four and single years,
each split a quotient that the last part of its group may not exceed.
-/
namespace SignatureDesk

structure Date where
  year : Int
  month : Nat
  day : Nat
deriving Repr, DecidableEq

namespace Date

def isLeap (year : Int) : Bool := year % 4 == 0 && (year % 100 != 0 || year % 400 == 0)

def daysInMonth (year : Int) (month : Nat) : Nat :=
  match month with
  | 2 => if isLeap year then 29 else 28
  | 4 | 6 | 9 | 11 => 30
  | _ => 31

/-- A day that the calendar has. -/
def valid (d : Date) : Bool :=
  1 ≤ d.month && d.month ≤ 12 && 1 ≤ d.day && d.day ≤ daysInMonth d.year d.month

/-- Days from the first of March of year 0 to the first of January 1970. -/
def epoch : Int := 719468

/-- Days before the first of March of a year counted from March. -/
def daysBeforeYear (y : Int) : Int :=
  146097 * (y / 400) + 36524 * (y % 400 / 100) + 1461 * (y % 100 / 4) + 365 * (y % 4)

/-- Days before the first of the `m`-th month after March. -/
def daysBeforeMonth (m : Nat) : Nat := (153 * m + 2) / 5

/-- Days since the first of January 1970. -/
def toDays (d : Date) : Int :=
  let y := if d.month ≤ 2 then d.year - 1 else d.year
  let m := if d.month ≤ 2 then d.month + 9 else d.month - 3
  daysBeforeYear y + daysBeforeMonth m + (d.day - 1 : Nat) - epoch

/-- The date of a day number. -/
def ofDays (n : Int) : Date :=
  let z := n + epoch
  let inEra := (z % 146097).toNat
  let century := min 3 (inEra / 36524)
  let inCentury := inEra - 36524 * century
  let four := inCentury / 1461
  let inFour := inCentury - 1461 * four
  let single := min 3 (inFour / 365)
  let inYear := inFour - 365 * single
  let m := (5 * inYear + 2) / 153
  let y := 400 * (z / 146097) + (100 * century + 4 * four + single : Nat)
  ⟨if m < 10 then y else y + 1, if m < 10 then m + 3 else m - 9, inYear - daysBeforeMonth m + 1⟩

end Date
end SignatureDesk
