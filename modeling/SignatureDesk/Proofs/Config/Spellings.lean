/-
How a text comes through the environment. What reads as a truth value or as a number
is kept as one, and a field for text gets that value written out (`respelled`). The
text is then as it was exactly when it was written the way such values are written
out (`respelled_eq_iff`): a password of digits, for one, loses the zeros in front.
-/
import SignatureDesk.Config.Load
import SignatureDesk.Proofs.Text.Ascii
import SignatureDesk.Proofs.Time.ReadBack

namespace SignatureDesk.Config

open Text
open Instant (digitValue digitValue_lt ofDigits ofDigits_lt)

/-! ## Numerals -/

theorem toDigits_digitValue {c : Char} (h : isAsciiDigit c = true) : Nat.toDigits 10 (digitValue c) = [c] := by
  have hascii : isAscii c = true := by
    have hlt : c.toNat - 48 < 10 := digitValue_lt h
    exact decide_eq_true (by omega)
  rw [Nat.toDigits_of_lt_base (digitValue_lt h)]
  exact forall_ascii (p := fun c => isAsciiDigit c = true → [Nat.digitChar (digitValue c)] = [c]) (by decide) hascii h

/-- A number is written with the digits it was read from, unless there are zeros in front. -/
theorem toDigits_ofDigits_iff {ds : List Char} (hne : ds ≠ []) (digits : ∀ c ∈ ds, isAsciiDigit c = true) :
    Nat.toDigits 10 (ofDigits ds) = ds ↔ ds = ['0'] ∨ ds.head? ≠ some '0' := by
  constructor
  · intro h
    by_contra hzero
    obtain ⟨hlong, hhead⟩ := not_or.1 hzero
    obtain ⟨rest, rfl⟩ := List.head?_eq_some_iff.1 (not_not.1 hhead)
    have hrest : 0 < rest.length := List.length_pos_iff.2 fun hnil => hlong (by rw [hnil])
    have hlt : ofDigits rest < 10 ^ rest.length := ofDigits_lt fun c hc => digits c (List.mem_cons_of_mem _ hc)
    have hfew : (Nat.toDigits 10 (ofDigits rest)).length ≤ rest.length :=
      (Nat.length_toDigits_le_iff (by decide) hrest).2 hlt
    have hsame : ofDigits ('0' :: rest) = ofDigits rest := rfl
    rw [← hsame, h, List.length_cons] at hfew
    omega
  · intro h
    induction ds using List.reverseRecOn with
    | nil => exact absurd rfl hne
    | append_singleton ds c ih =>
      have hc := digits c (by simp)
      have hvalue : ofDigits (ds ++ [c]) = 10 * ofDigits ds + digitValue c := by
        rw [ofDigits, List.foldl_append]
        rfl
      by_cases hds : ds = []
      · rw [hvalue, hds]
        show Nat.toDigits 10 (10 * 0 + digitValue c) = [] ++ [c]
        rw [Nat.mul_zero, Nat.zero_add, toDigits_digitValue hc, List.nil_append]
      · have hhead : ds.head? ≠ some '0' := by
          rcases h with h | h
          · exact absurd (List.append_eq_singleton_iff.1 h) (by simp [hds])
          · rw [List.head?_append] at h
            exact fun hzero => h (by rw [hzero, Option.some_or])
        have hfront := ih hds (fun d hd => digits d (List.mem_append_left _ hd)) (.inr hhead)
        have hpos : 0 < ofDigits ds := by
          rw [Nat.pos_iff_ne_zero]
          intro hz
          rw [hz, Nat.toDigits_zero] at hfront
          rw [← hfront] at hhead
          exact hhead rfl
        rw [hvalue, ← Nat.toDigits_append_toDigits (by decide) hpos (digitValue_lt hc), hfront, toDigits_digitValue hc]

/-- No sign but a minus before a number other than zero, and no zeros in front. -/
def IsPlainNumeral : List Char → Prop
  | '-' :: ds => ds.head? ≠ some '0'
  | '+' :: _ => False
  | ds => ds = ['0'] ∨ ds.head? ≠ some '0'

theorem toList_toString_natCast (n : Nat) : (toString (n : Int)).toList = Nat.toDigits 10 n :=
  Nat.toList_repr

theorem toList_toString_neg {n : Nat} (h : 0 < n) : (toString (-(n : Int))).toList = '-' :: Nat.toDigits 10 n := by
  have hneg : ¬(0 : Int) ≤ -(n : Int) := by omega
  have hback : (-(-(n : Int))).toNat = n := by omega
  show (Int.repr (-(n : Int))).toList = _
  rw [Int.repr_eq_if, if_neg hneg, hback, String.toList_append, Nat.toList_repr]
  rfl

theorem integer?_eq_some {s : List Char} {z : Int} (h : integer? s = some z) :
    ∃ negative ds, Float64.takeSign s = (negative, ds) ∧ ds ≠ [] ∧ (∀ c ∈ ds, isAsciiDigit c = true) ∧
      z = if negative then -(ofDigits ds : Int) else ofDigits ds := by
  obtain ⟨⟨negative, ds⟩, hsign⟩ : ∃ p, Float64.takeSign s = p := ⟨_, rfl⟩
  rw [integer?, hsign] at h
  dsimp only at h
  split at h
  · cases h
  next hdigits =>
    simp only [Bool.or_eq_true, Bool.not_eq_true', not_or, Bool.not_eq_false, List.all_eq_true,
      List.isEmpty_iff] at hdigits
    refine ⟨negative, ds, hsign, hdigits.1, hdigits.2, ?_⟩
    cases negative with
    | true =>
      simp only [if_true, Option.ite_none_right_eq_some, Option.some.injEq] at h
      exact h.2.symm
    | false =>
      simp only [Bool.false_eq_true, if_false, Option.ite_none_right_eq_some, Option.some.injEq] at h
      exact h.2.symm

/-- An integer is written as it was read when it was a plain numeral, and only then. -/
theorem toString_eq_iff_of_integer? {s : List Char} {z : Int} (h : integer? s = some z) :
    (toString z).toList = s ↔ IsPlainNumeral s := by
  obtain ⟨negative, ds, hsign, hne, digits, rfl⟩ := integer?_eq_some h
  have hds := toDigits_ofDigits_iff hne digits
  unfold Float64.takeSign at hsign
  split at hsign
  next rest =>
    cases hsign
    show _ ↔ ds.head? ≠ some '0'
    rw [if_pos rfl]
    by_cases hzero : ofDigits ds = 0
    · -- Zero has no sign, and any digits of it start with a zero.
      rw [hzero, Nat.toDigits_zero] at hds
      have hhead : ds.head? = some '0' := by
        by_contra hhead
        exact hhead (by rw [← hds.2 (.inr hhead)]; rfl)
      refine iff_of_false (fun hsame => ?_) (not_not_intro hhead)
      rw [hzero] at hsame
      have hsign : '0' = '-' := (List.cons.inj hsame).1
      exact absurd hsign (by decide)
    · rw [toList_toString_neg (Nat.pos_of_ne_zero hzero), List.cons.injEq, hds]
      have hsome : ds ≠ ['0'] := by
        intro hds'
        exact hzero (by rw [hds']; rfl)
      simp [hsome]
  next rest =>
    cases hsign
    show _ ↔ False
    rw [if_neg Bool.false_ne_true, toList_toString_natCast, iff_false]
    intro hplus
    have hdigit := Nat.isDigit_of_mem_toDigits (b := 10) (n := ofDigits ds) (c := '+') (by decide) (by decide)
      (by rw [hplus]; exact List.mem_cons_self)
    exact absurd hdigit (by decide)
  next s hminus hplus =>
    cases hsign
    rw [IsPlainNumeral.eq_3 _ hminus hplus, if_neg Bool.false_ne_true, toList_toString_natCast, hds]

/-! ## Other texts -/

/-- What a text of the environment is in a field for text. -/
def respelled (v : String) : String := (variableValue v).text?.getD v

/-- A text that is no truth value and no number, or one that is written the way such a
value is written out. -/
structure Settled (v : String) : Prop where
  /-- A word for a truth value is in small letters. -/
  flag : lower v = "true" ∨ lower v = "false" → v = lower v
  /-- An integer is a plain numeral. -/
  integer : ∀ z, integer? v.toList = some z → IsPlainNumeral v.toList
  /-- Any other number has the spelling that the nearest binary one is written in. -/
  decimal : integer? v.toList = none → ∀ x, Float64.read? v = some x → x.write = v

theorem text?_variableValue (v : String) : (variableValue v).text? = some (respelled v) := by
  have hsome : ∃ s, (variableValue v).text? = some s := by
    unfold variableValue
    split
    · exact ⟨_, rfl⟩
    · exact ⟨_, rfl⟩
    · split
      · exact ⟨_, rfl⟩
      · split <;> exact ⟨_, rfl⟩
  obtain ⟨s, hs⟩ := hsome
  rw [respelled, hs, Option.getD_some]

/-- The words for truth values in small letters are no numbers. -/
theorem settled_of_flag {v : String} (h : v = "true" ∨ v = "false") : Settled v := by
  have hlower : v = lower v := by
    rcases h with rfl | rfl <;> decide +kernel
  have hinteger : integer? v.toList = none := by
    rcases h with rfl | rfl <;> decide +kernel
  have hdecimal : Float64.read? v = none := by
    rcases h with rfl | rfl <;> decide +kernel
  constructor
  case flag => exact fun _ => hlower
  case integer =>
    intro z hz
    rw [hinteger] at hz
    cases hz
  case decimal =>
    intro _ x hx
    rw [hdecimal] at hx
    cases hx

/-- A text comes through as it is exactly when it is settled. -/
theorem respelled_eq_iff (v : String) : respelled v = v ↔ Settled v := by
  unfold respelled variableValue
  split
  next hflag =>
    constructor
    · intro h
      exact settled_of_flag (.inl h.symm)
    · intro h
      exact ((h.flag (.inl hflag)).trans hflag).symm
  next hflag =>
    constructor
    · intro h
      exact settled_of_flag (.inr h.symm)
    · intro h
      exact ((h.flag (.inr hflag)).trans hflag).symm
  next htrue hfalse =>
    have hflag : lower v = "true" ∨ lower v = "false" → v = lower v :=
      fun h => absurd h (not_or.2 ⟨htrue, hfalse⟩)
    split
    next z hz =>
      show toString z = v ↔ _
      rw [← String.toList_inj, toString_eq_iff_of_integer? hz]
      constructor
      · intro h
        refine ⟨hflag, fun _ _ => h, fun hnone => ?_⟩
        rw [hz] at hnone
        cases hnone
      · intro h
        exact h.integer z hz
    next hnone =>
      have hinteger : ∀ z, integer? v.toList = some z → IsPlainNumeral v.toList := by
        intro z hz
        rw [hnone] at hz
        cases hz
      split
      next x hx =>
        show x.write = v ↔ _
        constructor
        · intro h
          refine ⟨hflag, hinteger, fun _ y hy => ?_⟩
          cases hx.symm.trans hy
          exact h
        · intro h
          exact h.decimal hnone x hx
      next hx =>
        refine iff_of_true rfl ⟨hflag, hinteger, fun _ y hy => ?_⟩
        rw [hx] at hy
        cases hy

example : ["007", "TRUE", "+1.50", "1e3", "-0", "v1.50"].map respelled = ["7", "true", "1.5", "1000", "0", "v1.50"] := by
  decide +kernel

end SignatureDesk.Config
