/-
The order of entries and the normal form of a list of them. The order is total and
tells any two texts apart, so entries, and records by a name, are arranged by it
(`arranged_sortByName`), and entries in order have equal ones next to each other.
Dropping each that equals the one before it leaves the trimmed entries of the list,
each once and ascending. There is one such list (`Ascending.unique`), from which
follows all that is said of the normal form (`normalize_is_canonical`).
-/
import Mathlib.Data.List.DropRight
import Mathlib.Data.String.Basic
import SignatureDesk.Proofs.Order.Arranged

namespace SignatureDesk

open Std

namespace Text

theorem trimChars_eq (s : List Char) : trimChars s = (s.dropWhile isWhite).rdropWhile isWhite := rfl

theorem trimChars_trimChars (s : List Char) : trimChars (trimChars s) = trimChars s := by
  have start : (trimChars s).dropWhile isWhite = trimChars s := by
    refine List.dropWhile_eq_self_iff.2 fun h => ?_
    -- What is left after trimming at the end begins as it did before that.
    obtain ⟨after, happend⟩ := List.rdropWhile_prefix isWhite (l := s.dropWhile isWhite)
    have hfirst := List.head?_dropWhile_not isWhite s
    rw [← happend, ← trimChars_eq, List.head?_append, List.head?_eq_getElem?, List.getElem?_eq_getElem h] at hfirst
    simpa using hfirst
  calc trimChars (trimChars s)
      = ((trimChars s).dropWhile isWhite).rdropWhile isWhite := rfl
    _ = (trimChars s).rdropWhile isWhite := by rw [start]
    _ = trimChars s := List.rdropWhile_idempotent isWhite _

theorem trim_trim (s : String) : trim (trim s) = trim s := by
  simp [trim, trimChars_trimChars]

end Text

namespace Entries

instance : TransCmp compare := by
  have heq : compare = fun a b => (Ord.compare (Text.lower a) (Text.lower b)).then (Ord.compare a b) := by
    funext a b
    rw [compare]
  have := TransCmp.on (Ord.compare : String → String → Ordering) Text.lower
  rw [heq]
  exact TransCmp.thenBy

theorem compareNames_eq (a b : Option String) :
    compareNames a b = missingLast (fun a b => compare (Text.trim a) (Text.trim b)) a b := by
  cases a <;> cases b <;> simp only [compareNames, missingLast]

instance : TransCmp compareNames := by
  have := TransCmp.on compare Text.trim
  have heq : compareNames = missingLast fun a b => compare (Text.trim a) (Text.trim b) := by
    funext a b
    exact compareNames_eq a b
  rw [heq]
  infer_instance

/-- Sorting by a name arranges the records. -/
theorem arranged_sortByName {α : Type} (field : α → Option String) (records : List α) :
    Arranged (fun a b => compareNames (field a) (field b)) records (sortByName field records) :=
  have := TransCmp.on compareNames field
  arranged_mergeSort records

/-! ## Ascending lists -/

instance : LawfulEqCmp compare where
  compare_self := by
    intro a
    exact ReflCmp.compare_self
  eq_of_compare := by
    intro a b h
    rw [compare, Ordering.then_eq_eq] at h
    exact LawfulEqCmp.eq_of_compare h.2

/-- By the text in lower case first and, where that is the same, by the text itself. -/
theorem compare_eq_lt_iff {a b : String} :
    compare a b = .lt ↔ Text.lower a < Text.lower b ∨ Text.lower a = Text.lower b ∧ a < b := by
  rw [compare, Ordering.then_eq_lt, compare_lt_iff_lt, compare_lt_iff_lt, Std.compare_eq_iff_eq]

/-- In order, and no two entries the same. -/
def Ascending (s : List String) : Prop := s.Pairwise fun a b => compare a b = .lt

theorem Ascending.nodup {s : List String} (h : Ascending s) : s.Nodup := by
  refine List.Pairwise.imp (fun {a b} hlt heq => ?_) h
  have hself : compare a a = .eq := ReflCmp.compare_self
  rw [← heq, hself] at hlt
  cases hlt

/-- What stands in a list decides how it ascends. -/
theorem Ascending.unique {s t : List String} (hs : Ascending s) (ht : Ascending t)
    (h : ∀ entry, entry ∈ s ↔ entry ∈ t) : s = t := by
  have perm : s.Perm t := (List.perm_ext_iff_of_nodup hs.nodup ht.nodup).2 h
  refine List.Perm.eq_of_pairwise (fun a b _ _ hab hba => ?_) hs ht perm
  rw [OrientedCmp.gt_of_lt hab] at hba
  cases hba

/-! ## Normal form -/

theorem mem_dropRepeats {s : List String} {entry : String} : entry ∈ dropRepeats s ↔ entry ∈ s := by
  induction s using dropRepeats.induct with
  | case1 a b rest h ih =>
    have heq : a = b := beq_iff_eq.1 h
    rw [dropRepeats, if_pos h, ih]
    simp [heq]
  | case2 a b rest h ih =>
    rw [dropRepeats, if_neg h]
    simp [ih]
  | case3 s h =>
    match s, h with
    | [], _ => rfl
    | [a], _ => rfl
    | a :: b :: rest, h => exact absurd rfl (h a b rest)

/-- Entries in order ascend once the repeated ones are dropped. -/
theorem ascending_dropRepeats {s : List String} (h : s.Pairwise fun a b => le a b = true) :
    Ascending (dropRepeats s) := by
  induction s using dropRepeats.induct with
  | case1 a b rest heq ih =>
    rw [dropRepeats, if_pos heq]
    exact ih h.of_cons
  | case2 a b rest hne ih =>
    rw [dropRepeats, if_neg hne]
    have hab : le a b = true := List.rel_of_pairwise_cons h List.mem_cons_self
    -- What follows is at least `b`, and `b` is more than `a`, being another text.
    have hlt : compare a b = .lt := by
      rcases Ordering.isLE_iff_eq_lt_or_eq_eq.1 hab with hlt | heq
      · exact hlt
      · exact absurd (beq_iff_eq.2 (LawfulEqCmp.eq_of_compare heq)) hne
    refine List.pairwise_cons.2 ⟨fun c hc => ?_, ih h.of_cons⟩
    rcases List.mem_cons.1 (mem_dropRepeats.1 hc) with heq | hrest
    · rw [heq]
      exact hlt
    · exact TransCmp.lt_of_lt_of_isLE hlt (List.rel_of_pairwise_cons h.of_cons hrest)
  | case3 s h' =>
    match s, h' with
    | [], _ => exact List.Pairwise.nil
    | [a], _ => exact List.pairwise_singleton _ _
    | a :: b :: rest, h' => exact absurd rfl (h' a b rest)

theorem mem_normalize {entries : List String} {entry : String} :
    entry ∈ normalize entries ↔ ∃ raw ∈ entries, Text.trim raw = entry := by
  rw [normalize, mem_dropRepeats, List.mem_mergeSort, List.mem_map]

theorem ascending_normalize (entries : List String) : Ascending (normalize entries) :=
  ascending_dropRepeats (arranged_mergeSort (entries.map Text.trim)).pairwise

/-- Lists have the same normal form when they have the same entries, white space around them aside. -/
theorem normalize_eq_iff {entries others : List String} :
    normalize entries = normalize others ↔
      ∀ entry, (∃ raw ∈ entries, Text.trim raw = entry) ↔ ∃ raw ∈ others, Text.trim raw = entry := by
  constructor
  · intro h entry
    rw [← mem_normalize, ← mem_normalize, h]
  · intro h
    refine (ascending_normalize entries).unique (ascending_normalize others) fun entry => ?_
    rw [mem_normalize, mem_normalize, h]

/-- Trimming finds nothing more to do in a normal form. -/
theorem trim_mem_normalize_iff {entries : List String} {entry : String} :
    (∃ raw ∈ normalize entries, Text.trim raw = entry) ↔ ∃ raw ∈ entries, Text.trim raw = entry := by
  simp only [mem_normalize]
  constructor
  · intro h
    obtain ⟨_, ⟨raw, hraw, rfl⟩, rfl⟩ := h
    exact ⟨raw, hraw, (Text.trim_trim raw).symm⟩
  · intro h
    obtain ⟨raw, hraw, rfl⟩ := h
    exact ⟨Text.trim raw, ⟨raw, hraw, rfl⟩, Text.trim_trim raw⟩

/-- A list in normal form is its own. -/
theorem normalize_normalize (entries : List String) : normalize (normalize entries) = normalize entries :=
  normalize_eq_iff.2 fun _ => trim_mem_normalize_iff

/-- Entries may be added before or after a list is brought into its normal form. -/
theorem normalize_append (entries others : List String) :
    normalize (entries ++ others) = normalize (normalize entries ++ others) := by
  have split : ∀ (s : List String) entry, (∃ raw ∈ s ++ others, Text.trim raw = entry) ↔
      (∃ raw ∈ s, Text.trim raw = entry) ∨ ∃ raw ∈ others, Text.trim raw = entry := by
    intro s entry
    simp only [List.mem_append, or_and_right, exists_or]
  refine normalize_eq_iff.2 fun entry => ?_
  rw [split entries, split (normalize entries), trim_mem_normalize_iff]

/-- **The normal form of a list of entries.** It ascends strictly, by the text in lower case and then by the
text itself, so nothing stands in it twice; and in it stand the trimmed entries of the list and no others. It is the
only list of which both are true. So two lists have one normal form exactly when they have the same trimmed
entries, in whatever order and however often; a normal form is its own; and it makes no
difference to add entries to the list or to its normal form. -/
theorem normalize_is_canonical (entries : List String) :
    Ascending (normalize entries) ∧
    (∀ a b, compare a b = .lt ↔ Text.lower a < Text.lower b ∨ Text.lower a = Text.lower b ∧ a < b) ∧
    (normalize entries).Nodup ∧
    (∀ entry, entry ∈ normalize entries ↔ ∃ raw ∈ entries, Text.trim raw = entry) ∧
    (∀ s, Ascending s → (∀ entry, entry ∈ s ↔ ∃ raw ∈ entries, Text.trim raw = entry) →
      s = normalize entries) ∧
    (∀ others, normalize entries = normalize others ↔
      ∀ entry, (∃ raw ∈ entries, Text.trim raw = entry) ↔ ∃ raw ∈ others, Text.trim raw = entry) ∧
    normalize (normalize entries) = normalize entries ∧
    ∀ others, normalize (entries ++ others) = normalize (normalize entries ++ others) := by
  have ascending := ascending_normalize entries
  refine ⟨ascending, fun _ _ => compare_eq_lt_iff, ascending.nodup, fun _ => mem_normalize, ?_,
    fun _ => normalize_eq_iff, normalize_normalize entries, normalize_append entries⟩
  intro s hs hmem
  refine hs.unique ascending fun entry => ?_
  rw [hmem, mem_normalize]

end Entries
end SignatureDesk
