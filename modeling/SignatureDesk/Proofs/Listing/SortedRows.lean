/-
What sorting by one field makes of the rows of a listing. The rows that have the field
come first, in the order of its values, and the rows without it follow as they
stood (`apply_eq_found_append`). Which rows tie does not depend on the direction
(`tiedWith_order`), so the rows with the field fall into the same groups either way:
descending has them from the last to the first, and each of them as it stood
(`found_desc`).
-/
import SignatureDesk.Proofs.Listing.Presses
import SignatureDesk.Proofs.Order.Groups

namespace SignatureDesk

open Std

/-- Both directions tell the same things apart. -/
theorem Direction.orient_beq_eq (d : Direction) (o : Ordering) : (d.orient o == .eq) = (o == .eq) := by
  cases d <;> cases o <;> rfl

namespace SortSpec

/-- The path of the field leads to a value in the row, and not to null. -/
def has (field : String) (row : Json) : Bool := (lookup field row).isSome

/-- Both rows have the field, and its values compare so. -/
def Compares (field : String) (kind : SortKind) (o : Ordering) (a b : Json) : Prop :=
  ∃ x y, lookup field a = some x ∧ lookup field b = some y ∧ kind.compare x y = o

/-- The rows with a value of the field that compares equal to the one of a row. -/
def tiedRows (field : String) (kind : SortKind) (a : Json) (rows : List Json) : List Json :=
  rows.filter fun b =>
    match lookup field a, lookup field b with
    | some x, some y => kind.compare x y == .eq
    | _, _ => false

variable {field : String} {kind : SortKind} {d : Direction} {a b : Json} {rows : List Json}

/-! ## The order of rows -/

theorem has_iff : has field a = true ↔ ∃ x, lookup field a = some x := Option.isSome_iff_exists

theorem exists_order (kind : SortKind) (ha : has field a = true) (hb : has field b = true) :
    ∃ x y, lookup field a = some x ∧ lookup field b = some y ∧
      ∀ d, (SortSpec.mk field kind d).order a b = d.orient (kind.compare x y) := by
  obtain ⟨x, hx⟩ := has_iff.1 ha
  obtain ⟨y, hy⟩ := has_iff.1 hb
  refine ⟨x, y, hx, hy, fun d => ?_⟩
  simp only [order, hx, hy, missingLast]

/-- Which rows tie is the same in either direction. -/
theorem tiedWith_order (d d' : Direction) :
    tiedWith (SortSpec.mk field kind d).order a rows = tiedWith (SortSpec.mk field kind d').order a rows := by
  refine List.filter_congr fun b _ => ?_
  simp only [order]
  cases lookup field a <;> cases lookup field b <;> simp only [missingLast, Direction.orient_beq_eq]

theorem tiedRows_eq (ha : has field a = true) (d : Direction) :
    tiedRows field kind a rows = tiedWith (SortSpec.mk field kind d).order a rows := by
  obtain ⟨x, hx⟩ := has_iff.1 ha
  refine List.filter_congr fun b _ => ?_
  simp only [order, hx]
  cases lookup field b with
  | none => rfl
  | some y => simp only [missingLast, Direction.orient_beq_eq]

/-! ## The rows that have the field -/

/-- The rows that have the field, as sorting leaves them. -/
def found (spec : SortSpec) (rows : List Json) : List Json := (spec.apply rows).filter (has spec.field)

theorem arranged_apply (spec : SortSpec) (rows : List Json) : Arranged spec.order rows (spec.apply rows) := by
  simp only [apply, compareRows_eq]
  exact arranged_mergeSort rows

/-- The rows without the field stand behind the others, in the order they had. -/
theorem apply_eq_found_append (field : String) (kind : SortKind) (d : Direction) (rows : List Json) :
    (SortSpec.mk field kind d).apply rows =
      (SortSpec.mk field kind d).found rows ++ rows.filter fun row => !has field row :=
  Arranged.eq_keyed_append (lookup field) (arranged_apply (SortSpec.mk field kind d) rows)

theorem pairwise_found (spec : SortSpec) (rows : List Json) :
    (spec.found rows).Pairwise fun a b => (spec.order a b).isLE :=
  (arranged_apply spec rows).pairwise.sublist List.filter_sublist

theorem has_of_mem_found (h : a ∈ (SortSpec.mk field kind d).found rows) : has field a = true :=
  (List.mem_filter.1 h).2

theorem tiedWith_found (spec : SortSpec) (rows : List Json) (a : Json) :
    tiedWith spec.order a (spec.found rows) = tiedWith spec.order a (rows.filter (has spec.field)) := by
  have comm : ∀ rows, tiedWith spec.order a (rows.filter (has spec.field)) =
      (tiedWith spec.order a rows).filter (has spec.field) := by
    intro rows
    rw [tiedWith, tiedWith, List.filter_comm]
  rw [found, comm, (arranged_apply spec rows).tiedWith_eq, ← comm]

/-- Descending has the groups of ascending from the last to the first, each as it stood. -/
theorem found_desc {groups : List (List Json)}
    (h : Grouped (SortSpec.mk field kind .asc).order ((SortSpec.mk field kind .asc).found rows) groups) :
    (SortSpec.mk field kind .desc).found rows = groups.reverse.flatten := by
  have hhas : ∀ a ∈ groups.reverse.flatten, has field a = true := by
    intro a ha
    have hmem : a ∈ (SortSpec.mk field kind .asc).found rows := by
      rw [← h.flatten]
      simpa using ha
    exact has_of_mem_found hmem
  refine eq_of_tiedWith (pairwise_found (SortSpec.mk field kind .desc) rows) ?_ fun a => ?_
  · refine h.pairwise_reverse.imp_of_mem fun {a b} ha hb hle => ?_
    obtain ⟨y, x, hy, hx, horder⟩ := exists_order kind (hhas b hb) (hhas a ha)
    rw [horder .asc] at hle
    have hswap : kind.compare y x = (kind.compare x y).swap := OrientedCmp.eq_swap
    simp only [order, hx, hy, missingLast]
    rwa [Direction.orient, ← hswap]
  · calc tiedWith (SortSpec.mk field kind .desc).order a ((SortSpec.mk field kind .desc).found rows)
        = tiedWith (SortSpec.mk field kind .desc).order a (rows.filter (has field)) := tiedWith_found _ rows a
      _ = tiedWith (SortSpec.mk field kind .asc).order a (rows.filter (has field)) := tiedWith_order ..
      _ = tiedWith (SortSpec.mk field kind .asc).order a ((SortSpec.mk field kind .asc).found rows) :=
        (tiedWith_found _ rows a).symm
      _ = tiedWith (SortSpec.mk field kind .asc).order a groups.reverse.flatten := (h.tiedWith_reverse a).symm
      _ = tiedWith (SortSpec.mk field kind .desc).order a groups.reverse.flatten := tiedWith_order ..

/-! ## The sorted listing -/

theorem tiedRows_found (ha : has field a = true) (d : Direction) (rows : List Json) :
    tiedRows field kind a ((SortSpec.mk field kind d).found rows) = tiedRows field kind a rows := by
  have hpresent : tiedRows field kind a (rows.filter (has field)) = tiedRows field kind a rows := by
    rw [tiedRows, List.filter_filter]
    refine List.filter_congr fun b _ => ?_
    rw [has]
    cases lookup field a <;> cases lookup field b <;> simp
  rw [← hpresent, tiedRows_eq ha d, tiedRows_eq ha d]
  exact tiedWith_found _ rows a

theorem found_perm (spec : SortSpec) (rows : List Json) : (spec.found rows).Perm (rows.filter (has spec.field)) :=
  (arranged_apply spec rows).perm.filter _

/-- What is sorted already is not sorted any further. -/
theorem apply_apply (spec : SortSpec) (rows : List Json) : spec.apply (spec.apply rows) = spec.apply rows := by
  have sorted := (arranged_apply spec rows).pairwise
  rw [apply]
  simp only [compareRows_eq]
  exact List.mergeSort_of_pairwise sorted

/-- Empty segments of a path make no difference. -/
theorem apply_congr_path {field' : String} (h : pathKeys field'.toList = pathKeys field.toList) :
    (SortSpec.mk field' kind d).apply rows = (SortSpec.mk field kind d).apply rows := by
  have hlookup : ∀ row, lookup field' row = lookup field row := fun row => by rw [lookup, lookup, h]
  simp only [apply, compareRows, compare, hlookup]

/-- **Sorting a listing by a field.** Sorting in either direction rearranges the rows: first those that have the
field, each in order with every one behind it, and rows with equal values as they stood; then the others,
as they stood. The rows with the field fall into groups of equal values, which ascending has from the first to
the last and descending from the last to the first, each as it stood before. What is sorted stays
so when sorted again, and of the path only the segments that are not empty count. -/
theorem apply_stable_missing_last (field : String) (kind : SortKind) (rows : List Json) :
    let sorted := fun d => (SortSpec.mk field kind d).apply rows
    let missing := rows.filter fun row => !has field row
    (∀ d, (sorted d).Perm rows ∧ ∃ present, sorted d = present ++ missing ∧
      present.Perm (rows.filter (has field)) ∧
      present.Pairwise (fun a b => ∃ x y, lookup field a = some x ∧ lookup field b = some y ∧
        (d.orient (kind.compare x y)).isLE) ∧
      ∀ a, has field a = true → tiedRows field kind a present = tiedRows field kind a rows) ∧
    (∃ groups : List (List Json),
      sorted .asc = groups.flatten ++ missing ∧ sorted .desc = groups.reverse.flatten ++ missing ∧
      (∀ g ∈ groups, g ≠ [] ∧ ∀ a ∈ g, tiedRows field kind a rows = g) ∧
      groups.Pairwise fun g h => ∀ a ∈ g, ∀ b ∈ h, Compares field kind .lt a b) ∧
    (∀ d, (SortSpec.mk field kind d).apply (sorted d) = sorted d) ∧
    ∀ field', pathKeys field'.toList = pathKeys field.toList →
      ∀ d, (SortSpec.mk field' kind d).apply rows = sorted d := by
  intro sorted missing
  refine ⟨fun d => ⟨(arranged_apply _ rows).perm, (SortSpec.mk field kind d).found rows,
    apply_eq_found_append .., found_perm _ rows, ?_, fun a ha => tiedRows_found ha d rows⟩, ?_,
    fun d => apply_apply _ rows, fun field' h d => apply_congr_path h⟩
  · refine (pairwise_found _ rows).imp_of_mem fun {a b} ha hb hle => ?_
    obtain ⟨x, y, hx, hy, horder⟩ := exists_order kind (has_of_mem_found ha) (has_of_mem_found hb)
    exact ⟨x, y, hx, hy, by rwa [← horder]⟩
  · obtain ⟨groups, hgroups⟩ := exists_grouped _ (pairwise_found (SortSpec.mk field kind .asc) rows)
    have hhas : ∀ g ∈ groups, ∀ a ∈ g, has field a = true := by
      intro g hg a ha
      have hmem : a ∈ (SortSpec.mk field kind .asc).found rows := by
        rw [← hgroups.flatten]
        exact List.mem_flatten_of_mem hg ha
      exact has_of_mem_found hmem
    refine ⟨groups, ?_, ?_, fun g hg => ⟨hgroups.nonempty g hg, fun a ha => ?_⟩, ?_⟩
    · rw [hgroups.flatten]
      exact apply_eq_found_append ..
    · rw [← found_desc hgroups]
      exact apply_eq_found_append ..
    · rw [← tiedRows_found (hhas g hg a ha) .asc rows, tiedRows_eq (hhas g hg a ha) .asc]
      exact hgroups.tiedWith_eq hg ha
    · refine hgroups.ordered.imp_of_mem fun {g h} hg hh hlt a ha b hb => ?_
      obtain ⟨x, y, hx, hy, horder⟩ := exists_order kind (hhas g hg a ha) (hhas h hh b hb)
      exact ⟨x, y, hx, hy, by rw [← hlt a ha b hb, horder, Direction.orient]⟩

end SortSpec
end SignatureDesk
