/-
The comparisons that lists are sorted by, and that a sort may rely on each of them. A row
is compared by a value that may be missing, of any type, and in either direction; all
of this is put together from parts that each give a total preorder again. So every sort
that keeps the order of equal items comes to the same list (`comparisons_preorder`).
-/
import SignatureDesk.Proofs.Listing.Presses

namespace SignatureDesk

open Std

variable {α : Type}

/-- What a sort relies on: items turned round compare the other way round, an item equals itself, being at most
another is transitive, and equal items compare alike with any other one. -/
structure TotalPreorder (cmp : α → α → Ordering) : Prop where
  swap : ∀ a b, cmp b a = (cmp a b).swap
  self : ∀ a, cmp a a = .eq
  trans : ∀ a b c, cmp a b ≠ .gt → cmp b c ≠ .gt → cmp a c ≠ .gt
  tied : ∀ a b c, cmp a b = .eq → cmp a c = cmp b c ∧ cmp c a = cmp c b

theorem totalPreorder_of_transCmp (cmp : α → α → Ordering) [TransCmp cmp] : TotalPreorder cmp where
  swap _ _ := OrientedCmp.eq_swap
  self _ := ReflCmp.compare_self
  trans _ _ _ hab hbc :=
    Ordering.isLE_iff_ne_gt.1 (TransCmp.isLE_trans (Ordering.isLE_iff_ne_gt.2 hab) (Ordering.isLE_iff_ne_gt.2 hbc))
  tied _ _ _ h := ⟨TransCmp.congr_left h, TransCmp.congr_right h⟩

/-- Sorting gives the one arrangement that there is. -/
theorem arranged_iff_eq_mergeSort {cmp : α → α → Ordering} [TransCmp cmp] {l s : List α} :
    Arranged cmp l s ↔ s = l.mergeSort fun a b => (cmp a b).isLE := by
  constructor
  · exact fun h => h.unique (arranged_mergeSort l)
  · rintro rfl
    exact arranged_mergeSort l

namespace SortSpec

/-- The direction is applied to all of the order, so descending has the rows without the field in front. -/
theorem compare_eq (spec : SortSpec) (a b : Json) : spec.compare a b =
    spec.direction.orient (missingLast spec.kind.compare (lookup spec.field a) (lookup spec.field b)) := by
  rw [compare]
  cases lookup spec.field a <;> cases lookup spec.field b <;> rfl

instance (spec : SortSpec) : TransCmp spec.compare := by
  have hcompare : spec.compare = fun a b =>
      spec.direction.orient (missingLast spec.kind.compare (lookup spec.field a) (lookup spec.field b)) := by
    funext a b
    exact spec.compare_eq a b
  have := TransCmp.on (missingLast spec.kind.compare) (lookup spec.field)
  rw [hcompare]
  infer_instance

instance (spec : SortSpec) : TransCmp spec.compareRows := by
  have hcompare : spec.compareRows = spec.order := by
    funext a b
    exact spec.compareRows_eq a b
  rw [hcompare]
  infer_instance

end SortSpec

/-- **Comparisons that sorting relies on.** The order of rows in a sorted listing, the order of rows that a
specification gives as it stands, the order of records by a name, whatever field it is in, and the order of entries
are total preorders, and the last one takes no two entries for equal. So there is one list with the items in
order and the equal ones as they stood, however it is come by: the rows as they are sorted, the records
as they are sorted by name, and the trimmed entries from which the normal form drops the repeated ones. -/
theorem comparisons_preorder :
    (∀ spec : SortSpec, TotalPreorder spec.compareRows ∧ TotalPreorder spec.compare) ∧
    (∀ {α : Type} (field : α → Option String), TotalPreorder fun a b => Entries.compareNames (field a) (field b)) ∧
    TotalPreorder Entries.compare ∧
    (∀ a b, Entries.compare a b = .eq → a = b) ∧
    (∀ (spec : SortSpec) (rows sorted : List Json),
      Arranged spec.compareRows rows sorted ↔ sorted = spec.apply rows) ∧
    (∀ {α : Type} (field : α → Option String) (records sorted : List α),
      Arranged (fun a b => Entries.compareNames (field a) (field b)) records sorted ↔
        sorted = Entries.sortByName field records) ∧
    ∀ entries sorted : List String, Arranged Entries.compare (entries.map Text.trim) sorted →
      Entries.normalize entries = Entries.dropRepeats sorted := by
  refine ⟨fun spec => ⟨totalPreorder_of_transCmp _, totalPreorder_of_transCmp _⟩, fun field => ?_,
    totalPreorder_of_transCmp _, fun a b => LawfulEqCmp.eq_of_compare, fun spec rows sorted => ?_,
    fun field records sorted => ?_, fun entries sorted h => ?_⟩
  · have := TransCmp.on Entries.compareNames field
    exact totalPreorder_of_transCmp _
  · exact arranged_iff_eq_mergeSort
  · have := TransCmp.on Entries.compareNames field
    exact arranged_iff_eq_mergeSort
  · rw [arranged_iff_eq_mergeSort.1 h]
    rfl

end SignatureDesk
