/-
The order of rows after any number of presses of columns. One press sorts the rows as
the presses before it have left them, and sorting is stable: so the rows are in
the order of the last press, where that leaves two rows equal in the order of the
one before it, and so on down to their places before the first (`rows_ordered_by_presses`).
-/
import SignatureDesk.Listing.Columns
import SignatureDesk.Proofs.AllowList.NormalForm

namespace SignatureDesk

open Std

/-! ## What rows are compared by -/

instance : TransCmp Instant.compare := by
  have heq : Instant.compare = fun a b =>
      (Ord.compare a.seconds b.seconds).then (Ord.compare a.nanos b.nanos) := by
    funext a b
    rw [Instant.compare]
  have := TransCmp.on (Ord.compare : Int → Int → Ordering) Instant.seconds
  have := TransCmp.on (Ord.compare : Nat → Nat → Ordering) Instant.nanos
  rw [heq]
  exact TransCmp.thenBy

instance : TransCmp Binary64.compare :=
  TransCmp.on (Ord.compare : Int → Int → Ordering) Binary64.scaled

namespace SortKind

instance : TransCmp compareDates := by
  let : Ord Instant := ⟨Instant.compare⟩
  have : TransOrd Instant := inferInstanceAs (TransCmp Instant.compare)
  have heq : compareDates = (Ord.compare : Option Instant → Option Instant → Ordering) := by
    funext a b
    cases a <;> cases b <;> rfl
  rw [heq]
  infer_instance

instance (kind : SortKind) : TransCmp kind.compare := by
  cases kind with
  | text => exact TransCmp.on Entries.compare textOf
  | number => exact TransCmp.on Binary64.compare numberOf
  | date => exact TransCmp.on compareDates dateOf

end SortKind

instance {α : Type} {cmp : α → α → Ordering} [TransCmp cmp] (d : Direction) :
    TransCmp fun a b => d.orient (cmp a b) := by
  cases d with
  | asc => exact inferInstanceAs (TransCmp cmp)
  | desc =>
    have heq : (fun a b => (cmp a b).swap) = fun a b => cmp b a := by
      funext a b
      exact OrientedCmp.eq_swap.symm
    simp only [Direction.orient, heq]
    infer_instance

namespace SortSpec

/-- Order of two rows: one without the field comes after one with it, and two with it are compared
by it, in the direction. -/
def order (spec : SortSpec) (a b : Json) : Ordering :=
  missingLast (fun x y => spec.direction.orient (spec.kind.compare x y))
    (lookup spec.field a) (lookup spec.field b)

instance (spec : SortSpec) : TransCmp spec.order := TransCmp.on _ (lookup spec.field)

theorem compareRows_eq (spec : SortSpec) (a b : Json) : spec.compareRows a b = spec.order a b := by
  unfold compareRows compare order
  cases lookup spec.field a <;> cases lookup spec.field b <;> simp only [missingLast, Option.isSome]
  cases spec.direction <;> rfl

/-- The column that is sorted by, whatever the direction. -/
def column (spec : SortSpec) : Column := ⟨spec.field, spec.kind⟩

/-- Order of two rows by several, each deciding what those behind it in the list leave open. -/
def orderByLast : List SortSpec → Json → Json → Ordering
  | [], _, _ => .eq
  | spec :: later, a, b => (orderByLast later a b).then (spec.order a b)

instance (specs : List SortSpec) : TransCmp (orderByLast specs) := by
  induction specs with
  | nil => exact { eq_swap := rfl, isLE_trans := fun _ _ => rfl }
  | cons spec later ih => exact TransCmp.thenBy

/-- Sorting arranges by the order of rows first. -/
theorem apply_arranged (spec : SortSpec) {cmp : Json → Json → Ordering} {rows sorted : List Json}
    (h : Arranged cmp rows sorted) :
    Arranged (fun a b => (spec.order a b).then (cmp a b)) rows (spec.apply sorted) := by
  simp only [apply, compareRows_eq]
  exact h.resort

end SortSpec

namespace Columns

/-- Presses columns one after the other: the columns and the rows as they then are, and what
was sorted by, in order. -/
def toggleAll (c : Columns) (rows : List Json) : List String → Columns × List Json × List SortSpec
  | [] => (c, rows, [])
  | name :: names =>
    let pressed := c.toggle name rows
    let rest := toggleAll pressed.1 pressed.2.1 names
    (rest.1, rest.2.1, pressed.2.2.toList ++ rest.2.2)

variable {c : Columns} {name : String} {rows : List Json}

theorem toggle_unknown (h : c.column? name = none) : c.toggle name rows = (c, rows, none) := by
  simp [toggle, press, h]

theorem toggle_known {column : Column} (h : c.column? name = some column) :
    c.toggle name rows =
      let d := Direction.toggled (c.direction name)
      let spec : SortSpec := ⟨column.field, column.kind, d⟩
      ({ c with active := some (name, d) }, spec.apply rows, some spec) := by
  simp [toggle, press, h]

theorem toggle_registered : (c.toggle name rows).1.registered = c.registered := by
  cases h : c.column? name with
  | none => rw [toggle_unknown h]
  | some column => rw [toggle_known h]

/-- What presses have arranged is arranged by further presses first. -/
theorem toggleAll_arranged {cmp : Json → Json → Ordering} {before : List Json} (h : Arranged cmp before rows)
    (names : List String) :
    Arranged (fun a b => (SortSpec.orderByLast (c.toggleAll rows names).2.2 a b).then (cmp a b)) before
      (c.toggleAll rows names).2.1 := by
  induction names generalizing c rows cmp with
  | nil => simpa [toggleAll, SortSpec.orderByLast] using h
  | cons name names ih =>
    rw [toggleAll]
    cases hcolumn : c.column? name with
    | none =>
      rw [toggle_unknown hcolumn]
      exact ih h
    | some column =>
      rw [toggle_known hcolumn]
      have hnext := ih (c := { c with active := some (name, Direction.toggled (c.direction name)) })
        (SortSpec.apply_arranged ⟨column.field, column.kind, Direction.toggled (c.direction name)⟩ h)
      simpa only [Option.toList, List.singleton_append, SortSpec.orderByLast, Ordering.then_assoc] using hnext

theorem toggleAll_registered (names : List String) :
    (c.toggleAll rows names).1.registered = c.registered := by
  induction names generalizing c rows with
  | nil => rfl
  | cons name names ih =>
    rw [toggleAll]
    exact ih.trans toggle_registered

theorem column?_toggle (later : String) : (c.toggle name rows).1.column? later = c.column? later := by
  rw [column?, toggle_registered, column?]

/-- Every press of a column adds what it sorts by, and a press of what is no column adds nothing. -/
theorem toggleAll_columns (names : List String) :
    (c.toggleAll rows names).2.2.map SortSpec.column = names.filterMap c.column? := by
  induction names generalizing c rows with
  | nil => rfl
  | cons name names ih =>
    rw [toggleAll, List.map_append, ih, funext column?_toggle]
    cases hcolumn : c.column? name with
    | none => simp [toggle_unknown hcolumn, hcolumn]
    | some column => simp [toggle_known hcolumn, hcolumn, SortSpec.column]

/-- **The order of rows after presses.** Let any columns be pressed one after the other, over the same
rows. What has been sorted by are the columns that were pressed, one for each press, in order; and the
rows are the ones there were, in the order of the last of them, then of the one before it and so on
down to the first, and then as they stood at the beginning, which leaves no choice. In each of these
orders the rows without the field come last, and only rows with it are compared in the direction. A
press of what is no column changes neither the rows nor the columns. -/
theorem rows_ordered_by_presses (c : Columns) (rows : List Json) (names : List String) :
    let after := c.toggleAll rows names
    after.2.2.map SortSpec.column = names.filterMap c.column? ∧
    Arranged (SortSpec.orderByLast after.2.2) rows after.2.1 ∧
    (∀ other, Arranged (SortSpec.orderByLast after.2.2) rows other → other = after.2.1) ∧
    ∀ name, c.column? name = none → after.1.toggle name after.2.1 = (after.1, after.2.1, none) := by
  intro after
  have arranged : Arranged (SortSpec.orderByLast after.2.2) rows after.2.1 := by
    simpa using toggleAll_arranged (c := c) (arranged_self rows) names
  refine ⟨toggleAll_columns names, arranged, fun other h => h.unique arranged, fun name h => ?_⟩
  refine toggle_unknown ?_
  rwa [column?, toggleAll_registered]

end Columns
end SignatureDesk
