/-
Allow-lists as lists of entries: their order and their normal form. Entries are
ordered by their lower-case text and, where that is the same, by the text
itself, so entries that differ in case alone still have a fixed order.
-/
import SignatureDesk.Text.Case
import SignatureDesk.Text.White

namespace SignatureDesk.Entries

/-- Order of two entries. -/
def compare (a b : String) : Ordering :=
  (Ord.compare (Text.lower a) (Text.lower b)).then (Ord.compare a b)

/-- At most: the order as a test. -/
def le (a b : String) : Bool := (compare a b).isLE

/-- Drops each entry that equals the one before it. -/
def dropRepeats : List String → List String
  | a :: b :: rest => if a == b then dropRepeats (b :: rest) else a :: dropRepeats (b :: rest)
  | s => s

/-- The normal form of a list of entries: trimmed, in order, each once. -/
def normalize (entries : List String) : List String :=
  dropRepeats ((entries.map Text.trim).mergeSort le)

/-- Order by an optional text: what has none comes last. -/
def compareNames (a b : Option String) : Ordering :=
  match a, b with
  | some a, some b => compare (Text.trim a) (Text.trim b)
  | some _, none => .lt
  | none, some _ => .gt
  | none, none => .eq

/-- Stable sort of records by an optional text field, white space around it aside. -/
def sortByName {α : Type} (field : α → Option String) (records : List α) : List α :=
  records.mergeSort fun a b => (compareNames (field a) (field b)).isLE

end SignatureDesk.Entries
