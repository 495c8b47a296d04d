/-
The names of the variables that are for settings. Such a name, in whatever case, is the
start that all of them have, a section and a field, with a pair of underscores
between those two; and it writes the path of the field (`read?_settingOf`).
-/
import Mathlib.Data.List.Chain
import SignatureDesk.Config.Load
import SignatureDesk.Proofs.Text.Ascii
import SignatureDesk.Proofs.Text.Scan

namespace SignatureDesk.Config

open Text

/-- A word of a setting's name: no capitals, and no two underscores together. -/
structure IsWord (s : List Char) : Prop where
  nonempty : s ≠ []
  small : ∀ c ∈ s, (isAsciiLower c || c = '_') = true
  single : s.IsChain fun c d => ¬(c = '_' ∧ d = '_')

theorem asciiLowerChar_eq_underscore {c : Char} : asciiLowerChar c = '_' ↔ c = '_' := by
  constructor
  · intro h
    rcases eq_or_of_asciiLowerChar h with hc | hc
    · exact hc
    · exact hc.trans (by decide)
  · intro h
    rw [h]
    decide

theorem isAscii_of_small {c : Char} (h : (isAsciiLower c || c = '_') = true) : isAscii c = true := by
  simp only [isAsciiLower, Bool.or_eq_true, Bool.and_eq_true, decide_eq_true_eq] at h
  rcases h with h | h
  · exact decide_eq_true (Nat.lt_of_le_of_lt h.2 (by decide))
  · rw [h]
    decide

/-- Letters of words may stand in the names of paths, in either case. -/
theorem isNameChar_of_small {c : Char} (h : (isAsciiLower (asciiLowerChar c) || asciiLowerChar c = '_') = true) :
    Path.isNameChar c = true :=
  forall_ascii
    (p := fun c => (isAsciiLower (asciiLowerChar c) || asciiLowerChar c = '_') = true → Path.isNameChar c = true)
    (by decide) (isAscii_of_asciiLowerChar (isAscii_of_small h)) h

/-! ## Points for pairs of underscores -/

theorem pointed_cons {c : Char} {rest : List Char} (h : ¬(c = '_' ∧ rest.head? = some '_')) :
    pointed (c :: rest) = c :: pointed rest := by
  rw [pointed]
  intro more hc hmore
  exact h ⟨hc, by rw [hmore, List.head?_cons]⟩

theorem pointed_eq_self {s : List Char} (h : s.IsChain fun c d => ¬(c = '_' ∧ d = '_')) : pointed s = s := by
  induction s with
  | nil => rfl
  | cons c rest ih =>
    have hfirst : ¬(c = '_' ∧ rest.head? = some '_') := by
      cases rest with
      | nil => simp
      | cons d rest => simpa using (List.isChain_cons_cons.1 h).1
    rw [pointed_cons hfirst, ih h.tail]

theorem pointed_pair (s rest : List Char) (h : '_' ∉ s) : pointed (s ++ '_' :: '_' :: rest) = s ++ '.' :: pointed rest := by
  induction s with
  | nil => rw [List.nil_append, pointed, List.nil_append]
  | cons c s ih =>
    have hne : c ≠ '_' := fun hc => h (hc ▸ List.mem_cons_self)
    rw [List.cons_append, pointed_cons fun hc => hne hc.1, ih fun hs => h (List.mem_cons_of_mem c hs), List.cons_append]

/-! ## Words in any case -/

section Word

variable {word s : List Char} (h : IsWord word) (hs : s.map asciiLowerChar = word)
include h hs

theorem IsWord.ne_nil : s ≠ [] := by
  intro hnil
  rw [hnil, List.map_nil] at hs
  exact h.nonempty hs.symm

theorem IsWord.names : ∀ c ∈ s, Path.isNameChar c = true := by
  intro c hc
  refine isNameChar_of_small (h.small _ ?_)
  rw [← hs]
  exact List.mem_map_of_mem hc

theorem IsWord.pointed_eq : pointed s = s := by
  refine pointed_eq_self ?_
  have single := h.single
  rw [← hs, List.isChain_map] at single
  simpa only [asciiLowerChar_eq_underscore] using single

theorem IsWord.lower_eq : lower (String.ofList s) = String.ofList word := by
  rw [lower, String.toList_ofList, lowerChars_eq hs fun c hc => isAscii_of_small (h.small c hc)]

end Word

/-! ## The path of a variable -/

theorem read?_section_field {sect field : List Char} (hsect : sect ≠ []) (hfield : field ≠ [])
    (hs : ∀ c ∈ sect, Path.isNameChar c = true) (hf : ∀ c ∈ field, Path.isNameChar c = true) :
    Path.read? (String.ofList (sect ++ '.' :: field)) =
      some (.child (.name (String.ofList sect)) (String.ofList field)) := by
  have hpoint : ∀ c ∈ ('.' :: field).head?, Path.isNameChar c = false := by
    rintro c ⟨⟩
    decide
  have hnothing : ∀ c ∈ ([] : List Char).head?, Path.isNameChar c = false := by simp
  have hname := takeWhile_run hs hpoint
  have hbehind := dropWhile_run hs hpoint
  have hchild := takeWhile_run hf hnothing
  have hend := dropWhile_run hf hnothing
  rw [List.append_nil] at hchild hend
  have hlength : (String.ofList (sect ++ '.' :: field)).length = (sect.length + field.length) + 1 := by
    rw [String.length_ofList, List.length_append, List.length_cons, Nat.add_assoc]
  rw [Path.read?, String.toList_ofList, hname, hbehind, hlength, if_neg (by simpa using hsect)]
  rw [Path.readMore, hchild, hend, if_neg (by simpa using hfield)]
  cases sect.length + field.length <;> rfl

theorem isAscii_of_mem_variable {sect field : List Char} (hsect : IsWord sect) (hfield : IsWord field) :
    ∀ c ∈ variableStart ++ (sect ++ '_' :: '_' :: field), isAscii c = true := by
  intro c hc
  have hstart : variableStart.all isAscii = true := by decide
  have hunderscore : isAscii '_' = true := by decide
  simp only [List.mem_append, List.mem_cons] at hc
  rcases hc with hc | hc | hc | hc | hc
  · exact List.all_eq_true.1 hstart c hc
  · exact isAscii_of_small (hsect.small c hc)
  · rw [hc]
    exact hunderscore
  · rw [hc]
    exact hunderscore
  · exact isAscii_of_small (hfield.small c hc)

/-- A variable that is named for a field of a section, in whatever case, has the path of the field. -/
theorem read?_settingOf {sect field name : List Char} (hsect : IsWord sect) (hone : '_' ∉ sect) (hfield : IsWord field)
    (h : name.map asciiLowerChar = variableStart ++ (sect ++ '_' :: '_' :: field)) :
    ∃ key s f, settingOf? (String.ofList name) = some key ∧ Path.read? key = some (.child (.name s) f) ∧
      lower s = String.ofList sect ∧ lower f = String.ofList field := by
  have hprefix : variableStart.isPrefixOf (lowerChars name) = true := by
    rw [lowerChars_eq h (isAscii_of_mem_variable hsect hfield)]
    exact List.isPrefixOf_iff_prefix.2 (List.prefix_append _ _)
  -- The name falls into parts as its lower case does.
  obtain ⟨start, behind, rfl, hstart, hbehind⟩ := List.map_eq_append_iff.1 h
  obtain ⟨s, behind, rfl, hs, hbehind⟩ := List.map_eq_append_iff.1 hbehind
  obtain ⟨c, behind, rfl, hc, hbehind⟩ := List.map_eq_cons_iff.1 hbehind
  obtain ⟨d, f, rfl, hd, hf⟩ := List.map_eq_cons_iff.1 hbehind
  rw [asciiLowerChar_eq_underscore.1 hc, asciiLowerChar_eq_underscore.1 hd] at hprefix ⊢
  have hone' : '_' ∉ s := by
    intro hmem
    refine hone ?_
    rw [← hs]
    exact List.mem_map.2 ⟨'_', hmem, by decide⟩
  have hlength : variableStart.length = start.length := by rw [← hstart, List.length_map]
  refine ⟨String.ofList (s ++ '.' :: f), String.ofList s, String.ofList f, ?_, ?_, hsect.lower_eq hs, hfield.lower_eq hf⟩
  · rw [settingOf?, String.toList_ofList, if_pos hprefix, hlength, List.drop_left, pointed_pair s f hone',
      hfield.pointed_eq hf]
  · exact read?_section_field (hsect.ne_nil hs) (hfield.ne_nil hf) (hsect.names hs) (hfield.names hf)

end SignatureDesk.Config
