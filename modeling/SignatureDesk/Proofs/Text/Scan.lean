/-
Texts read up to what stops a reader. A reader of one class of characters stops at
the first that is not of it, whatever stands behind that, and takes a run of the
class that is followed by another character, or by nothing, as a whole. A text made
of parts between separators holds what they hold.
-/
import Mathlib.Data.List.TakeWhile
import SignatureDesk.Text.White

namespace SignatureDesk.Text

variable {q : Char → Bool} {c : Char}

theorem takeWhile_append_stop (h : q c = false) (x y : List Char) : (x ++ c :: y).takeWhile q = x.takeWhile q := by
  induction x with
  | nil => simp [h]
  | cons d x ih =>
    rw [List.cons_append, List.takeWhile_cons, List.takeWhile_cons, ih]

theorem dropWhile_append_stop (h : q c = false) (x y : List Char) :
    (x ++ c :: y).dropWhile q = x.dropWhile q ++ c :: y := by
  induction x with
  | nil => simp [h]
  | cons d x ih =>
    rw [List.cons_append, List.dropWhile_cons, List.dropWhile_cons, ih]
    split <;> rfl

theorem of_dropWhile_eq_cons {x rest : List Char} (h : x.dropWhile q = c :: rest) : q c = false := by
  simpa [h] using List.head?_dropWhile_not q x

section Run

variable {s rest : List Char} (hs : ∀ c ∈ s, q c = true) (hrest : ∀ c ∈ rest.head?, q c = false)

include hs hrest

theorem takeWhile_run : (s ++ rest).takeWhile q = s := by
  rw [List.takeWhile_append_of_pos hs]
  cases rest with
  | nil => simp
  | cons c rest => rw [List.takeWhile_cons_of_neg (by simp [hrest c rfl]), List.append_nil]

theorem dropWhile_run : (s ++ rest).dropWhile q = rest := by
  rw [List.dropWhile_append_of_pos hs]
  cases rest with
  | nil => rfl
  | cons c rest => rw [List.dropWhile_cons_of_neg (by simp [hrest c rfl])]

end Run

theorem dropRightWhile_eq_self {x : List Char} (h : ∀ c, x.getLast? = some c → q c = false) :
    dropRightWhile q x = x := by
  rw [dropRightWhile, ← List.head?_reverse] at *
  cases hx : x.reverse with
  | nil => simpa using hx
  | cons d y =>
    rw [List.dropWhile_cons_of_neg (by simp [h d (by simp [hx])]), ← hx, List.reverse_reverse]

theorem dropRightWhile_append_stop (h : q c = false) (x y : List Char) :
    dropRightWhile q (x ++ c :: y) = x ++ c :: dropRightWhile q y := by
  simp only [dropRightWhile, List.reverse_append, List.reverse_cons, List.append_assoc, List.singleton_append,
    dropWhile_append_stop h, List.reverse_reverse]

/-! ## Parts between separators -/

/-- A text is cut at its first separator in one way. -/
theorem append_first_inj {sep : Char} {a a' b b' : List Char} (ha : sep ∉ a) (ha' : sep ∉ a') :
    a ++ sep :: b = a' ++ sep :: b' ↔ a = a' ∧ b = b' := by
  have front : ∀ {a}, sep ∉ a → ∀ b, (a ++ sep :: b).takeWhile (· ≠ sep) = a := fun h b =>
    takeWhile_run (fun c hc => decide_eq_true (ne_of_mem_of_not_mem hc h)) (by simp)
  constructor
  · intro h
    obtain rfl : a = a' := by rw [← front ha b, h, front ha']
    exact ⟨rfl, by simpa using h⟩
  · rintro ⟨rfl, rfl⟩
    rfl

/-- And at its last one. -/
theorem append_last_inj {sep : Char} {a a' b b' : List Char} (hb : sep ∉ b) (hb' : sep ∉ b') :
    a ++ sep :: b = a' ++ sep :: b' ↔ a = a' ∧ b = b' := by
  rw [← List.reverse_inj]
  simp only [List.reverse_append, List.reverse_cons, List.append_assoc, List.singleton_append]
  rw [append_first_inj (by simpa using hb) (by simpa using hb'), List.reverse_inj, List.reverse_inj, and_comm]

theorem mem_intercalate {sep : Char} {parts : List (List Char)} (h : c ∈ [sep].intercalate parts) :
    c = sep ∨ ∃ part ∈ parts, c ∈ part := by
  induction parts with
  | nil => cases h
  | cons part parts ih =>
    cases parts with
    | nil => exact .inr ⟨part, by simp, by simpa using h⟩
    | cons next parts =>
      rw [List.intercalate_cons_cons, List.mem_append, List.mem_append] at h
      rcases h with (h | h) | h
      · exact .inr ⟨part, by simp, h⟩
      · exact .inl (List.mem_singleton.1 h)
      · rcases ih h with h | ⟨p, hp, h⟩
        · exact .inl h
        · exact .inr ⟨p, by simp [hp], h⟩

/-- A part holds what the text holds, but no separator. -/
theorem of_mem_splitOn {sep : Char} {s part : List Char} (h : part ∈ s.splitOn sep) (hc : c ∈ part) :
    c ∈ s ∧ c ≠ sep := by
  by_cases hsep : sep ∈ s
  · obtain ⟨a, b, rfl, ha⟩ := List.eq_append_cons_of_mem hsep
    rw [List.splitOn_append_cons_self, List.splitOn_eq_singleton ha, List.singleton_append, List.mem_cons] at h
    rcases h with rfl | h
    · exact ⟨by simp [hc], fun heq => ha (heq ▸ hc)⟩
    · obtain ⟨hb, hne⟩ := of_mem_splitOn h hc
      exact ⟨by simp [hb], hne⟩
  · rw [List.splitOn_eq_singleton hsep, List.mem_singleton] at h
    subst h
    exact ⟨hc, fun heq => hsep (heq ▸ hc)⟩
termination_by s.length

end SignatureDesk.Text
