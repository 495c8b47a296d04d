/-
The columns of a listing and the one it is sorted by. Pressing a column sorts by
it, ascending at first and turning with every further press; pressing another
one starts over there.
-/
import SignatureDesk.Listing.Sort

namespace SignatureDesk

/-- What pressing a column sorts by. -/
structure Column where
  field : String
  kind : SortKind
deriving Repr, DecidableEq

structure Columns where
  /-- Columns by name, those registered last in front. -/
  registered : List (String × Column)
  /-- The column sorted by, and which way. -/
  active : Option (String × Direction)
deriving Repr

namespace Columns

def empty : Columns := ⟨[], none⟩

/-- Registers a column; an earlier one of that name gives way. -/
def register (c : Columns) (name : String) (column : Column) : Columns :=
  { c with registered := (name, column) :: c.registered }

def column? (c : Columns) (name : String) : Option Column := c.registered.lookup name

/-- The direction of a column, when it is the one sorted by. -/
def direction (c : Columns) (name : String) : Option Direction :=
  match c.active with
  | some (active, d) => if active = name then some d else none
  | none => none

/-- The columns after a press, and what to sort by; nothing happens for a name
that is not registered. -/
def press (c : Columns) (name : String) : Columns × Option SortSpec :=
  match c.column? name with
  | none => (c, none)
  | some column =>
    let d := Direction.toggled (c.direction name)
    ({ c with active := some (name, d) }, some ⟨column.field, column.kind, d⟩)

/-- Presses a column and sorts the rows accordingly. -/
def toggle (c : Columns) (name : String) (rows : List Json) :
    Columns × List Json × Option SortSpec :=
  match c.press name with
  | (c, some spec) => (c, spec.apply rows, some spec)
  | (c, none) => (c, rows, none)

end Columns
end SignatureDesk
