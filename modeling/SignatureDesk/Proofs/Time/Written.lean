/-
Written instants are read back. Day numbers and dates of the calendar stand for
each other (`Date.toDays_ofDays`, `Date.valid_ofDays`); the parts that an instant is
written in are taken apart by the reader one after the other, and denote what is
left of the instant when a fraction of a second is dropped (`readRelaxed_writeSeconds`).
-/
import Mathlib.Data.List.TakeWhile
import Mathlib.Tactic.IntervalCases
import SignatureDesk.Proofs.Outcome
import SignatureDesk.Time.Instant

namespace SignatureDesk

namespace Date

/-! ## Days and dates -/

/-- The day that is a number of days into a year counted from March. -/
def ofMarch (y : Int) (inYear : Nat) : Date :=
  let m := (5 * inYear + 2) / 153
  ⟨if m < 10 then y else y + 1, if m < 10 then m + 3 else m - 9, inYear - daysBeforeMonth m + 1⟩

theorem ofDays_eq (n : Int) : ∃ (era : Int) (century four single inYear : Nat),
    ofDays n = ofMarch (400 * era + (100 * century + 4 * four + single : Nat)) inYear ∧
    n + epoch = 146097 * era + (36524 * century + 1461 * four + 365 * single + inYear : Nat) ∧
    century ≤ 3 ∧ four ≤ 24 ∧ single ≤ 3 ∧ inYear ≤ 365 ∧
    (inYear = 365 → single = 3 ∧ (four = 24 → century = 3)) := by
  refine ⟨(n + epoch) / 146097, min 3 (((n + epoch) % 146097).toNat / 36524), _, _, _, rfl, ?_⟩
  have hlow : 0 ≤ (n + epoch) % 146097 := by omega
  have hhigh : (n + epoch) % 146097 < 146097 := by omega
  have hsplit : n + epoch = 146097 * ((n + epoch) / 146097) + (n + epoch) % 146097 := by omega
  revert hlow hhigh hsplit
  generalize (n + epoch) % 146097 = z
  generalize (n + epoch) / 146097 = era
  intro hlow hhigh hsplit
  omega

theorem toDays_ofMarch (y : Int) {inYear : Nat} (h : inYear ≤ 365) :
    (ofMarch y inYear).toDays = daysBeforeYear y + inYear - epoch := by
  have hm : (5 * inYear + 2) / 153 ≤ 11 := by omega
  have hday : daysBeforeMonth ((5 * inYear + 2) / 153) ≤ inYear := by
    rw [daysBeforeMonth]
    omega
  rw [toDays, ofMarch]
  revert hm hday
  generalize (5 * inYear + 2) / 153 = m
  intro hm hday
  by_cases hlate : m < 10
  · have hmonth : ¬ m + 3 ≤ 2 := by omega
    simp only [hlate, if_true, hmonth, if_false, Nat.add_sub_cancel]
    omega
  · have hmonth : m - 9 ≤ 2 := by omega
    have hback : m - 9 + 9 = m := by omega
    simp only [hlate, if_false, hmonth, if_true, hback, Nat.add_sub_cancel, Int.add_sub_cancel]
    omega

theorem daysBeforeYear_parts (era : Int) {century four single : Nat} (hc : century ≤ 3) (hf : four ≤ 24)
    (hs : single ≤ 3) : daysBeforeYear (400 * era + (100 * century + 4 * four + single : Nat)) =
      146097 * era + (36524 * century + 1461 * four + 365 * single : Nat) := by
  rw [daysBeforeYear]
  omega

/-- The number of the date of a day number is that number. -/
theorem toDays_ofDays (n : Int) : (ofDays n).toDays = n := by
  obtain ⟨era, century, four, single, inYear, hdate, hn, hc, hf, hs, hy, -⟩ := ofDays_eq n
  rw [hdate, toDays_ofMarch _ hy, daysBeforeYear_parts era hc hf hs]
  omega

theorem isLeap_iff {y : Int} : isLeap y = true ↔ y % 4 = 0 ∧ (y % 100 ≠ 0 ∨ y % 400 = 0) := by
  simp [isLeap]

theorem valid_ofMarch {y : Int} {inYear : Nat} (h : inYear ≤ 365) (hleap : inYear = 365 → isLeap (y + 1) = true) :
    (ofMarch y inYear).valid = true := by
  obtain ⟨m, hm⟩ : ∃ m, (5 * inYear + 2) / 153 = m := ⟨_, rfl⟩
  have hmonth : m ≤ 11 := by omega
  rw [ofMarch, hm, valid]
  simp only [daysBeforeMonth]
  -- The lengths of the months come out of the table of daysInMonth; only that of February is not fixed.
  by_cases hfebruary : m = 11
  · subst hfebruary
    by_cases hlong : isLeap (y + 1) = true
    · simp [daysInMonth, hlong]
      omega
    · have hshort : inYear ≠ 365 := fun h => hlong (hleap h)
      simp [daysInMonth, hlong]
      omega
  · interval_cases m <;> simp [daysInMonth] at hfebruary ⊢ <;> omega

/-- Every day number has a date of the calendar. -/
theorem valid_ofDays (n : Int) : (ofDays n).valid = true := by
  obtain ⟨era, century, four, single, inYear, hdate, -, hc, hf, hs, hy, hlast⟩ := ofDays_eq n
  rw [hdate]
  refine valid_ofMarch hy fun h => isLeap_iff.2 ?_
  obtain ⟨rfl, hcentury⟩ := hlast h
  omega

end Date

namespace Instant

open Text

/-- An instant as clocks keep it: its year is in range, and only the last second of a minute is
prolonged. -/
structure Kept (i : Instant) : Prop where
  year : yearInRange (Date.ofDays (i.seconds / 86400)).year = true
  nanos : i.nanos < 2000000000
  leap : 1000000000 ≤ i.nanos → i.seconds % 60 = 59

/-! ## Numbers -/

theorem ofDigits_padded (width n : Nat) : ofDigits (padded width n) = n := by
  have hzeros : Nat.ofDigitChars 10 (List.replicate (width - (Nat.toDigits 10 n).length) '0') 0 = 0 := by
    rw [Nat.ofDigitChars_replicate_zero, Nat.mul_zero]
  calc ofDigits (padded width n)
      = Nat.ofDigitChars 10 (padded width n) 0 := rfl
    _ = Nat.ofDigitChars 10 (Nat.toDigits 10 n) 0 := by rw [padded, Nat.ofDigitChars_append, hzeros]
    _ = n := Nat.ofDigitChars_toDigits (by decide) (by decide)

theorem isAsciiDigit_of_isDigit {c : Char} (h : c.isDigit = true) : isAsciiDigit c = true := by
  simpa [isAsciiDigit, Char.isDigit, Char.le_def] using h

theorem isAsciiDigit_of_mem_padded {width n : Nat} {c : Char} (h : c ∈ padded width n) :
    isAsciiDigit c = true := by
  rcases List.mem_append.1 h with h | h
  · rw [(List.mem_replicate.1 h).2]
    decide
  · exact isAsciiDigit_of_isDigit (Nat.isDigit_of_mem_toDigits (by decide) (by decide) h)

theorem length_padded {width n : Nat} (hwidth : 0 < width) (hn : n < 10 ^ width) :
    (padded width n).length = width := by
  have hlength := (Nat.length_toDigits_le_iff (by decide) hwidth).2 hn
  rw [padded, List.length_append, List.length_replicate]
  omega

theorem le_length_padded (width n : Nat) : width ≤ (padded width n).length := by
  rw [padded, List.length_append, List.length_replicate]
  omega

/-- The digits at the front of a text, when there are as many as may be, or no more follow. -/
theorem takeWhile_take_append {most : Nat} {ds rest : List Char} (digits : ∀ c ∈ ds, isAsciiDigit c = true)
    (hmost : ds.length = most ∨ (ds.length ≤ most ∧ ∀ c, rest.head? = some c → isAsciiDigit c = false)) :
    ((ds ++ rest).take most).takeWhile isAsciiDigit = ds := by
  rcases hmost with hmost | ⟨hmost, hstop⟩
  · rw [List.take_left' hmost]
    exact List.takeWhile_eq_self_iff.2 digits
  · rw [List.take_append, List.take_of_length_le hmost, List.takeWhile_append_of_pos digits]
    cases rest with
    | nil => simp
    | cons c rest =>
      cases most - ds.length with
      | zero => simp
      | succ k => simp [hstop c rfl]

/-- Digits are taken as a number when there are as many as may be, or no more follow. -/
theorem takeNumber_append {least most : Nat} {ds rest : List Char} (digits : ∀ c ∈ ds, isAsciiDigit c = true)
    (hleast : least ≤ ds.length)
    (hmost : ds.length = most ∨ (ds.length ≤ most ∧ ∀ c, rest.head? = some c → isAsciiDigit c = false)) :
    takeNumber least most (ds ++ rest) = some (ofDigits ds, rest) := by
  rw [takeNumber, takeWhile_take_append digits hmost, if_neg (by omega), List.drop_left' rfl]

theorem takeNumber_padded {least width n : Nat} (hwidth : 0 < width) (hn : n < 10 ^ width)
    (hleast : least ≤ width) (rest : List Char) :
    takeNumber least width (padded width n ++ rest) = some (n, rest) := by
  have hlength := length_padded hwidth hn
  rw [takeNumber_append (fun c => isAsciiDigit_of_mem_padded) (by omega) (.inl hlength), ofDigits_padded]

theorem exists_padded_eq_cons {width : Nat} (hwidth : 0 < width) (n : Nat) :
    ∃ c ds, padded width n = c :: ds ∧ isAsciiDigit c = true := by
  cases h : padded width n with
  | nil =>
    have hlength := le_length_padded width n
    rw [h] at hlength
    simp at hlength
    omega
  | cons c ds =>
    have hc : c ∈ padded width n := by simp [h]
    exact ⟨c, ds, rfl, isAsciiDigit_of_mem_padded hc⟩

theorem isWhite_of_isAsciiDigit {c : Char} (h : isAsciiDigit c = true) : isWhite c = false := by
  simp only [isAsciiDigit, Bool.and_eq_true, decide_eq_true_eq, Char.le_def, UInt32.le_iff_toNat_le] at h
  have hlow : 48 ≤ c.toNat := h.1
  have hhigh : c.toNat ≤ 57 := h.2
  simp only [isWhite, Bool.or_eq_false_iff, Bool.and_eq_false_iff, decide_eq_false_iff_not, beq_eq_false_iff_ne]
  omega

/-- Nothing stands before a number that is written. -/
theorem takeLoose_padded {n : Nat} (hn : n < 100) (rest : List Char) :
    takeLoose (padded 2 n ++ rest) = some (n, rest) := by
  obtain ⟨c, ds, hc, hdigit⟩ := exists_padded_eq_cons (show 0 < 2 by decide) n
  rw [takeLoose, trimLeft, hc, List.cons_append, List.dropWhile_cons_of_neg (by simp [isWhite_of_isAsciiDigit hdigit]),
    ← List.cons_append, ← hc]
  exact takeNumber_padded (by decide) hn (by decide) rest

/-! ## Years -/

theorem takeYear_writeYear (year : Int) (rest : List Char) :
    takeYear (writeYear year ++ '-' :: rest) = some (year, '-' :: rest) := by
  have hstop : ∀ c, ('-' :: rest).head? = some c → isAsciiDigit c = false := by
    rintro _ ⟨⟩
    decide
  have hsigned : ∀ n, takeNumber 1 (padded 4 n ++ '-' :: rest).length (padded 4 n ++ '-' :: rest) =
      some (n, '-' :: rest) := by
    intro n
    have hlength := le_length_padded 4 n
    rw [takeNumber_append (fun c => isAsciiDigit_of_mem_padded) (by omega) (.inr ⟨by simp, hstop⟩), ofDigits_padded]
  rw [writeYear]
  split
  next h =>
    obtain ⟨c, ds, hc, hdigit⟩ := exists_padded_eq_cons (show 0 < 4 by decide) year.toNat
    have hnumber : takeNumber 1 4 (padded 4 year.toNat ++ '-' :: rest) = some (year.toNat, '-' :: rest) :=
      takeNumber_padded (by decide) (by omega) (by decide) _
    rw [hc, List.cons_append] at hnumber ⊢
    rw [takeYear]
    · rw [hnumber]
      simp [h.1]
    · rintro _ ⟨⟩
      cases hdigit
    · rintro _ ⟨⟩
      cases hdigit
  next h =>
    rw [List.cons_append]
    by_cases hneg : year < 0
    · have habs : -(year.natAbs : Int) = year := by omega
      simp only [hneg, if_true, takeYear, hsigned, Option.map_some, habs]
    · have habs : (year.natAbs : Int) = year := by omega
      simp only [hneg, if_false, takeYear, hsigned, Option.map_some, habs]

theorem trimLeft_writeYear (year : Int) (rest : List Char) :
    trimLeft (writeYear year ++ rest) = writeYear year ++ rest := by
  have hhead : ∃ c ds, writeYear year = c :: ds ∧ isWhite c = false := by
    rw [writeYear]
    split
    next =>
      obtain ⟨c, ds, hc, hdigit⟩ := exists_padded_eq_cons (show 0 < 4 by decide) year.toNat
      exact ⟨c, ds, hc, isWhite_of_isAsciiDigit hdigit⟩
    next => exact ⟨_, _, rfl, by split <;> decide⟩
  obtain ⟨c, ds, hc, hwhite⟩ := hhead
  rw [hc, List.cons_append, trimLeft, List.dropWhile_cons_of_neg (by simp [hwhite])]

theorem takeMark_cons {c : Char} (h : isWhite c = false) (rest : List Char) :
    takeMark c (c :: rest) = some rest := by
  rw [takeMark, trimLeft, List.dropWhile_cons_of_neg (by simp [h]), takeChar, if_pos rfl]

/-- The relaxed reader takes a written date and time apart. -/
theorem readRelaxedChars_parts (year : Int) {month day hour minute second nanos : Nat} {fraction : List Char}
    (hmonth : month < 100) (hday : day < 100) (hhour : hour < 100) (hminute : minute < 100) (hsecond : second < 100)
    (hfraction : takeFraction (fraction ++ ['Z']) = some (nanos, ['Z'])) :
    readRelaxedChars (writeYear year ++ '-' :: (padded 2 month ++ '-' :: (padded 2 day ++ 'T' ::
      (padded 2 hour ++ ':' :: (padded 2 minute ++ ':' :: (padded 2 second ++ (fraction ++ ['Z']))))))) =
      ofStamp? ⟨⟨year, month, day⟩, hour, minute, second, nanos, 0⟩ := by
  have hzone : takeZone (trimLeft ['Z']) = some (0, []) := by decide
  rw [readRelaxedChars, trimLeft_writeYear]
  refine option_bind_of_eq_some (takeYear_writeYear year _) (option_bind_of_eq_some (takeMark_cons (by decide) _) ?_)
  refine option_bind_of_eq_some (takeLoose_padded hmonth _) (option_bind_of_eq_some (takeMark_cons (by decide) _) ?_)
  refine option_bind_of_eq_some (takeLoose_padded hday _) (option_bind_of_eq_some rfl ?_)
  refine option_bind_of_eq_some (takeLoose_padded hhour _) (option_bind_of_eq_some (takeMark_cons (by decide) _) ?_)
  refine option_bind_of_eq_some (takeLoose_padded hminute _) (option_bind_of_eq_some (takeMark_cons (by decide) _) ?_)
  exact option_bind_of_eq_some (takeLoose_padded hsecond _)
    (option_bind_of_eq_some hfraction (option_bind_of_eq_some hzone rfl))

/-! ## Instants -/

theorem month_day_of_valid {d : Date} (h : d.valid = true) : d.month < 100 ∧ d.day < 100 := by
  simp only [Date.valid, Bool.and_eq_true, decide_eq_true_eq] at h
  have hdays : Date.daysInMonth d.year d.month ≤ 31 := by
    unfold Date.daysInMonth
    split
    · split <;> decide
    all_goals decide
  omega

/-- The parts of a written instant are those of a calendar and a clock, and denote it. -/
theorem ofStamp?_of_kept {i : Instant} (h : i.Kept) (nanos : Nat) :
    ofStamp? ⟨Date.ofDays (i.seconds / 86400), (i.seconds % 86400).toNat / 3600,
        (i.seconds % 86400).toNat / 60 % 60,
        (i.seconds % 86400).toNat % 60 + (if 1000000000 ≤ i.nanos then 1 else 0), nanos, 0⟩ =
      some ⟨i.seconds, if 1000000000 ≤ i.nanos then nanos + 1000000000 else nanos⟩ := by
  obtain ⟨clock, hclock⟩ : ∃ clock, (i.seconds % 86400).toNat = clock := ⟨_, rfl⟩
  obtain ⟨day, hday⟩ : ∃ day, i.seconds / 86400 = day := ⟨_, rfl⟩
  have hseconds : day * 86400 + (clock : Int) = i.seconds := by omega
  have hfits : yearInRange (Date.ofDays day).year = true := hday ▸ h.year
  have hhour : clock / 3600 ≤ 23 := by omega
  have hminute : clock / 60 % 60 ≤ 59 := by omega
  rw [hclock, hday, ofStamp?]
  by_cases hleap : 1000000000 ≤ i.nanos
  · have hlast : clock % 60 = 59 := by
      have := h.leap hleap
      omega
    have hsum : clock / 3600 * 3600 + clock / 60 % 60 * 60 + 59 = clock := by omega
    simp [Date.valid_ofDays, Date.toDays_ofDays, hfits, hhour, hminute, hleap, hlast, hsum, hseconds, hday]
  · have hsecond : clock % 60 < 60 := by omega
    have hsum : clock / 3600 * 3600 + clock / 60 % 60 * 60 + clock % 60 = clock := by omega
    simp [Date.valid_ofDays, Date.toDays_ofDays, hfits, hhour, hminute, hleap, hsecond.ne, hsecond.le, hsum,
      hseconds, hday]

/-- An instant is read back up to what the writer of its fraction leaves of the nanoseconds. -/
theorem readRelaxed_writeWith {i : Instant} (h : i.Kept) {fraction : Nat → List Char} {nanos : Nat}
    (hfraction : takeFraction (fraction (if 1000000000 ≤ i.nanos then i.nanos - 1000000000 else i.nanos) ++ ['Z']) =
      some (nanos, ['Z'])) :
    readRelaxedChars (writeWith fraction i) =
      some ⟨i.seconds, if 1000000000 ≤ i.nanos then nanos + 1000000000 else nanos⟩ := by
  have hstamp := ofStamp?_of_kept h nanos
  obtain ⟨hmonth, hday⟩ := month_day_of_valid (Date.valid_ofDays (i.seconds / 86400))
  simp only [writeWith, List.append_assoc, List.cons_append, List.nil_append]
  rw [readRelaxedChars_parts _ hmonth hday (by omega) (by omega) (by split <;> omega) hfraction, ← hstamp]

/-- The instant in whole seconds; one in a prolonged second stays in it. -/
def truncate (i : Instant) : Instant := ⟨i.seconds, if 1000000000 ≤ i.nanos then 1000000000 else 0⟩

theorem writeSeconds_truncate (i : Instant) : i.truncate.writeSeconds = i.writeSeconds := by
  have hleap : 1000000000 ≤ i.truncate.nanos ↔ 1000000000 ≤ i.nanos := by
    by_cases h : 1000000000 ≤ i.nanos <;> simp [truncate, h]
  simp only [writeSeconds, writeWith, hleap]
  rfl

/-- An instant in whole seconds is read back from its written form. -/
theorem readRelaxed_writeSeconds {i : Instant} (h : i.Kept) : readRelaxed i.writeSeconds = some i.truncate := by
  have hread : readRelaxedChars (writeWith (fun _ => []) i) = some i.truncate := readRelaxed_writeWith h (by decide)
  rw [readRelaxed, writeSeconds, String.toList_ofList, hread]

end Instant
end SignatureDesk
