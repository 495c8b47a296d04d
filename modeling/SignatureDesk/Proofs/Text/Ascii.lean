/-
Characters of ASCII, and lower case where a text has no others. A property of them
can be checked one by one (`forall_ascii`); and lowering such a text goes letter by
letter, for nothing in it looks at what stands around it (`lowerChars_eq`).
-/
import SignatureDesk.Text.Case

namespace SignatureDesk.Text

/-- A property of characters is checked one by one for all of ASCII. -/
theorem forall_ascii {p : Char → Prop} (h : ∀ n, n < 128 → p (Char.ofNat n)) {c : Char}
    (hc : isAscii c = true) : p c := by
  have := h c.toNat (by simpa [isAscii] using hc)
  rwa [Char.ofNat_toNat] at this

theorem isAscii_of_isAsciiUpper {c : Char} (h : isAsciiUpper c = true) : isAscii c = true := by
  simp only [isAsciiUpper, Bool.and_eq_true, decide_eq_true_eq] at h
  exact decide_eq_true (Nat.lt_of_le_of_lt h.2 (by decide))

theorem asciiLowerChar_of_not_upper {c : Char} (h : ¬isAsciiUpper c = true) : asciiLowerChar c = c := by
  rw [asciiLowerChar, if_neg h]

theorem eq_or_of_asciiLowerChar {c d : Char} (h : asciiLowerChar c = d) : c = d ∨ c = asciiUpperChar d := by
  by_cases hc : isAsciiUpper c = true
  · have back := forall_ascii (p := fun c => isAsciiUpper c = true → c = asciiUpperChar (asciiLowerChar c))
      (by decide) (isAscii_of_isAsciiUpper hc) hc
    rw [h] at back
    exact .inr back
  · rw [asciiLowerChar_of_not_upper hc] at h
    exact .inl h

theorem isAscii_of_asciiLowerChar {c : Char} (h : isAscii (asciiLowerChar c) = true) : isAscii c = true := by
  by_cases hc : isAsciiUpper c = true
  · exact isAscii_of_isAsciiUpper hc
  · rwa [asciiLowerChar_of_not_upper hc] at h

/-- A text without characters past ASCII is lowered letter by letter. -/
theorem lowerChars_of_ascii {s : List Char} (h : ∀ c ∈ s, isAscii c = true) : lowerChars s = s.map asciiLowerChar := by
  have step : ∀ before, lowerFrom before s = s.map asciiLowerChar := by
    induction s with
    | nil => exact fun _ => rfl
    | cons c s ih =>
      intro before
      have hc : isAscii c = true := h c List.mem_cons_self
      have hsigma : c ≠ 'Σ' := by
        intro heq
        rw [heq] at hc
        exact absurd hc (by decide)
      have hrest := ih (fun d hd => h d (List.mem_cons_of_mem c hd)) (c :: before)
      rw [lowerFrom, if_neg hsigma, lowerChar, if_pos hc, hrest]
      rfl
  exact step []

/-- It is, too, when only letters of ASCII come of that. -/
theorem lowerChars_eq {s t : List Char} (h : s.map asciiLowerChar = t) (ht : ∀ c ∈ t, isAscii c = true) :
    lowerChars s = t := by
  rw [← h]
  refine lowerChars_of_ascii fun c hc => isAscii_of_asciiLowerChar (ht _ ?_)
  rw [← h]
  exact List.mem_map_of_mem hc

end SignatureDesk.Text
