/-
Every instant that the relaxed reader gives is read back from its written form
(`Kept.readRelaxed_write`). The reader keeps at most nine digits of a second, and the
offsets it takes are of whole minutes, so what it gives is an instant as clocks
keep it (`kept_of_readRelaxed`), and the writer loses none of its nanoseconds. The
strict reader takes years of four digits alone, and reads back what is written in
those (`Kept.readStrict_write`).
-/
import Mathlib.Data.List.Induction
import SignatureDesk.Proofs.Time.Written

namespace SignatureDesk.Instant

open Text

/-! ## Fractions of a second -/

theorem digitValue_lt {c : Char} (h : isAsciiDigit c = true) : digitValue c < 10 := by
  simp only [isAsciiDigit, Bool.and_eq_true, decide_eq_true_eq, Char.le_def, UInt32.le_iff_toNat_le] at h
  have hhigh : c.toNat ≤ 57 := h.2
  show c.toNat - 48 < 10
  omega

theorem ofDigits_lt {ds : List Char} (digits : ∀ c ∈ ds, isAsciiDigit c = true) : ofDigits ds < 10 ^ ds.length := by
  induction ds using List.reverseRecOn with
  | nil => decide
  | append_singleton ds c ih =>
    have hds := ih fun d hd => digits d (List.mem_append_left _ hd)
    have hc := digitValue_lt (digits c (by simp))
    rw [ofDigits, List.foldl_append, List.foldl_cons, List.foldl_nil, ← ofDigits, List.length_append,
      List.length_singleton, Nat.pow_succ]
    omega

/-- A fraction stays below one second. -/
theorem takeFraction_lt {s rest : List Char} {n : Nat} (h : takeFraction s = some (n, rest)) : n < 1000000000 := by
  unfold takeFraction at h
  split at h
  next rest' =>
    obtain ⟨ds, hds⟩ : ∃ ds, (rest'.take 9).takeWhile isAsciiDigit = ds := ⟨_, rfl⟩
    have digits : ∀ c ∈ ds, isAsciiDigit c = true := by
      intro c hc
      rw [← hds] at hc
      exact List.mem_takeWhile_imp hc
    have hlength : ds.length ≤ 9 := by
      have := (List.takeWhile_sublist isAsciiDigit (l := rest'.take 9)).length_le
      rw [hds, List.length_take] at this
      omega
    rw [hds] at h
    dsimp only at h
    split at h
    · cases h
    · cases h
      calc ofDigits ds * Nat.pow 10 (9 - ds.length)
          < 10 ^ ds.length * 10 ^ (9 - ds.length) :=
            Nat.mul_lt_mul_of_pos_right (ofDigits_lt digits) (Nat.pow_pos (by decide))
        _ = 1000000000 := by rw [← Nat.pow_add, Nat.add_sub_cancel' hlength]
  next => cases h; decide

theorem takeFraction_padded {width n : Nat} (hwidth : 0 < width) (hnine : width ≤ 9) (hn : n < 10 ^ width) :
    takeFraction ('.' :: padded width n ++ ['Z']) = some (n * 10 ^ (9 - width), ['Z']) := by
  have hlength := length_padded hwidth hn
  have hstop : ∀ c, ['Z'].head? = some c → isAsciiDigit c = false := by
    rintro _ ⟨⟩
    decide
  have htaken : ((padded width n ++ ['Z']).take 9).takeWhile isAsciiDigit = padded width n :=
    takeWhile_take_append (fun c => isAsciiDigit_of_mem_padded) (.inr ⟨by omega, hstop⟩)
  have hsome : (padded width n).isEmpty = false := by
    rw [List.isEmpty_eq_false_iff, ← List.length_pos_iff]
    omega
  rw [List.cons_append, takeFraction, htaken, hsome, List.drop_left' rfl, ofDigits_padded, hlength]
  rfl

/-- The writer leaves out only digits that are zero. -/
theorem takeFraction_writeFraction {n : Nat} (hn : n < 1000000000) :
    takeFraction (writeFraction n ++ ['Z']) = some (n, ['Z']) := by
  rw [writeFraction]
  split
  next hzero => rw [hzero]; rfl
  next =>
    split
    next hmilli =>
      rw [takeFraction_padded (by decide) (by decide) (by omega)]
      congr 2
      omega
    next =>
      split
      next hmicro =>
        rw [takeFraction_padded (by decide) (by decide) (by omega)]
        congr 2
        omega
      next =>
        rw [takeFraction_padded (by decide) (by decide) hn]
        congr 2
        omega

/-! ## Offsets -/

/-- An offset is of whole minutes. -/
theorem takeOffset_emod {separator : List Char → Option (List Char)} {s rest : List Char} {offset : Int}
    (h : takeOffset separator s = some (offset, rest)) : offset % 60 = 0 := by
  cases s with
  | nil => cases h
  | cons c s =>
    rw [takeOffset] at h
    split at h
    · cases h
      decide
    · split at h
      · simp only [Option.bind_eq_bind, Option.bind_eq_some_iff] at h
        obtain ⟨⟨hours, s₁⟩, -, s₂, -, ⟨minutes, s₃⟩, -, h⟩ := h
        split at h
        · cases h
        · simp only [Option.some.injEq, Prod.mk.injEq] at h
          rw [← h.1]
          split <;> omega
      · cases h

theorem takeZone_emod {s rest : List Char} {offset : Int} (h : takeZone s = some (offset, rest)) :
    offset % 60 = 0 := by
  rw [takeZone] at h
  split at h
  · cases h
    decide
  · exact takeOffset_emod h

/-! ## Instants that were read -/

/-- A stamp of a fraction and an offset as the reader takes them denotes an instant as clocks keep it. -/
theorem kept_of_ofStamp? {s : Stamp} {i : Instant} (h : ofStamp? s = some i) (hnanos : s.nanos < 1000000000)
    (hoffset : s.offset % 60 = 0) : i.Kept := by
  simp only [ofStamp?, Option.ite_none_right_eq_some, Option.some.injEq] at h
  obtain ⟨-, hyear, rfl⟩ := h
  by_cases hleap : (s.second == 60) = true
  · simp only [hleap, if_true] at hyear ⊢
    refine ⟨hyear, ?_, ?_⟩ <;> dsimp only <;> omega
  · simp only [hleap, Bool.false_eq_true, if_false] at hyear ⊢
    refine ⟨hyear, ?_, ?_⟩ <;> dsimp only <;> omega

/-- What the relaxed reader gives is an instant as clocks keep it. -/
theorem kept_of_readRelaxed {s : String} {i : Instant} (h : readRelaxed s = some i) : i.Kept := by
  rw [readRelaxed, readRelaxedChars] at h
  obtain ⟨⟨year, _⟩, -, h⟩ := Option.bind_eq_some_iff.1 h
  obtain ⟨_, -, h⟩ := Option.bind_eq_some_iff.1 h
  obtain ⟨⟨month, _⟩, -, h⟩ := Option.bind_eq_some_iff.1 h
  obtain ⟨_, -, h⟩ := Option.bind_eq_some_iff.1 h
  obtain ⟨⟨day, _⟩, -, h⟩ := Option.bind_eq_some_iff.1 h
  obtain ⟨_, -, h⟩ := Option.bind_eq_some_iff.1 h
  obtain ⟨⟨hour, _⟩, -, h⟩ := Option.bind_eq_some_iff.1 h
  obtain ⟨_, -, h⟩ := Option.bind_eq_some_iff.1 h
  obtain ⟨⟨minute, _⟩, -, h⟩ := Option.bind_eq_some_iff.1 h
  obtain ⟨_, -, h⟩ := Option.bind_eq_some_iff.1 h
  obtain ⟨⟨second, _⟩, -, h⟩ := Option.bind_eq_some_iff.1 h
  obtain ⟨⟨nanos, _⟩, hnanos, h⟩ := Option.bind_eq_some_iff.1 h
  obtain ⟨⟨offset, _⟩, hoffset, h⟩ := Option.bind_eq_some_iff.1 h
  dsimp only at h
  split at h
  · exact kept_of_ofStamp? h (takeFraction_lt hnanos) (takeZone_emod hoffset)
  · cases h

/-- The parts that an instant is written in denote it, when all of its fraction is written. -/
theorem Kept.ofStamp?_eq {i : Instant} (h : i.Kept) :
    ofStamp? ⟨Date.ofDays (i.seconds / 86400), (i.seconds % 86400).toNat / 3600,
        (i.seconds % 86400).toNat / 60 % 60,
        (i.seconds % 86400).toNat % 60 + (if 1000000000 ≤ i.nanos then 1 else 0),
        if 1000000000 ≤ i.nanos then i.nanos - 1000000000 else i.nanos, 0⟩ = some i := by
  rw [ofStamp?_of_kept h]
  by_cases hleap : 1000000000 ≤ i.nanos
  · simp only [hleap, if_true, Nat.sub_add_cancel hleap]
  · simp only [hleap, if_false]

/-- An instant as clocks keep it is read back from its written form. -/
theorem Kept.readRelaxed_write {i : Instant} (h : i.Kept) : readRelaxed i.write = some i := by
  have hnanos := h.nanos
  rw [readRelaxed, write, String.toList_ofList,
    readRelaxed_writeWith h (takeFraction_writeFraction (by split <;> omega)), ← ofStamp?_of_kept h, h.ofStamp?_eq]

/-! ## The strict reader -/

/-- The year of an instant in universal time. -/
def year (i : Instant) : Int := (Date.ofDays (i.seconds / 86400)).year

/-- The strict reader takes a written date and time apart, when the year has four digits. -/
theorem readStrictChars_parts {year month day hour minute second nanos : Nat} {fraction : List Char}
    (hyear : year < 10000) (hmonth : month < 100) (hday : day < 100) (hhour : hour < 100) (hminute : minute < 100)
    (hsecond : second < 100) (hfraction : takeFraction (fraction ++ ['Z']) = some (nanos, ['Z'])) :
    readStrictChars (padded 4 year ++ '-' :: (padded 2 month ++ '-' :: (padded 2 day ++ 'T' ::
      (padded 2 hour ++ ':' :: (padded 2 minute ++ ':' :: (padded 2 second ++ (fraction ++ ['Z']))))))) =
      ofStamp? ⟨⟨year, month, day⟩, hour, minute, second, nanos, 0⟩ := by
  have two {n : Nat} (hn : n < 100) (rest : List Char) : takeNumber 2 2 (padded 2 n ++ rest) = some (n, rest) :=
    takeNumber_padded (by decide) hn (by decide) rest
  have hzone : takeOffset (takeChar ':') ['Z'] = some (0, []) := by decide
  rw [readStrictChars]
  refine option_bind_of_eq_some (takeNumber_padded (by decide) hyear (by decide) _) (option_bind_of_eq_some rfl ?_)
  refine option_bind_of_eq_some (two hmonth _) (option_bind_of_eq_some rfl ?_)
  refine option_bind_of_eq_some (two hday _) (option_bind_of_eq_some rfl ?_)
  refine option_bind_of_eq_some (two hhour _) (option_bind_of_eq_some rfl ?_)
  refine option_bind_of_eq_some (two hminute _) (option_bind_of_eq_some rfl ?_)
  exact option_bind_of_eq_some (two hsecond _)
    (option_bind_of_eq_some hfraction (option_bind_of_eq_some hzone rfl))

/-- An instant as clocks keep it is read back by the strict reader as well, in the years of four digits. -/
theorem Kept.readStrict_write {i : Instant} (h : i.Kept) (hyear : 0 ≤ i.year ∧ i.year ≤ 9999) :
    readStrict i.write = some i := by
  obtain ⟨y, hy⟩ := Int.eq_ofNat_of_zero_le hyear.1
  have hdigits : y < 10000 := by omega
  obtain ⟨hmonth, hday⟩ := month_day_of_valid (Date.valid_ofDays (i.seconds / 86400))
  have hdate : Date.ofDays (i.seconds / 86400) =
      ⟨y, (Date.ofDays (i.seconds / 86400)).month, (Date.ofDays (i.seconds / 86400)).day⟩ := by
    rw [← hy]
    rfl
  have hwritten : writeYear (Date.ofDays (i.seconds / 86400)).year = padded 4 y := by
    show writeYear i.year = padded 4 y
    rw [writeYear, if_pos hyear, hy]
    rfl
  have hnanos := h.nanos
  have hfraction := takeFraction_writeFraction
    (n := if 1000000000 ≤ i.nanos then i.nanos - 1000000000 else i.nanos) (by split <;> omega)
  have hstamp := h.ofStamp?_eq
  rw [hdate] at hstamp
  rw [readStrict, write, String.toList_ofList, ← hstamp]
  simp only [writeWith, hwritten, List.append_assoc, List.cons_append, List.nil_append]
  exact readStrictChars_parts hdigits hmonth hday (by omega) (by omega) (by split <;> omega) hfraction

end SignatureDesk.Instant
