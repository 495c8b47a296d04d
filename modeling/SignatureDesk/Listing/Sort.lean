/-
Sorting the rows of a listing by one field. Rows are JSON values and a field is
a dotted path into them; a row whose path leads nowhere, or to null, is missing
the field, and such rows stay at the end whichever way the others are sorted.
-/
import SignatureDesk.AllowList.Entries
import SignatureDesk.Json.Codec
import SignatureDesk.Json.Printer
import SignatureDesk.Time.Instant

namespace SignatureDesk

/-- What the values of a field are compared as. -/
inductive SortKind where
  | text
  | number
  | date
deriving Repr, DecidableEq

inductive Direction where
  | asc
  | desc
deriving Repr, DecidableEq

structure SortSpec where
  field : String
  kind : SortKind
  direction : Direction
deriving Repr, DecidableEq

namespace SortKind

def all : List SortKind := [.text, .number, .date]

def name : SortKind → String
  | .text => "text"
  | .number => "number"
  | .date => "date"

def ofName? (s : String) : Option SortKind := all.find? fun k => k.name == s

def codec : Codec SortKind := .name ofName? name

/-- A value as text: a string as it is, anything else in its compact form. -/
def textOf : Json → String
  | .str s => s
  | v => v.compact

/-- A value as a number; what is no number counts as zero. -/
def numberOf : Json → Binary64
  | .num n => n.toBinary64
  | _ => .zero

/-- A value as an instant, when it is one in the strict notation. -/
def dateOf : Json → Option Instant
  | .str s => Instant.readStrict s
  | _ => none

/-- Values without an instant come before those with one. -/
def compareDates : Option Instant → Option Instant → Ordering
  | none, none => .eq
  | none, some _ => .lt
  | some _, none => .gt
  | some a, some b => a.compare b

/-- Order of two values that are there. -/
def compare (kind : SortKind) (a b : Json) : Ordering :=
  match kind with
  | .text => Entries.compare (textOf a) (textOf b)
  | .number => (numberOf a).compare (numberOf b)
  | .date => compareDates (dateOf a) (dateOf b)

end SortKind

namespace Direction

def all : List Direction := [.asc, .desc]

def name : Direction → String
  | .asc => "asc"
  | .desc => "desc"

def ofName? (s : String) : Option Direction := all.find? fun d => d.name == s

def codec : Codec Direction := .name ofName? name

/-- The direction after one more press of a column: ascending unless it already is. -/
def toggled : Option Direction → Direction
  | some .asc => .desc
  | _ => .asc

/-- An order, or its reverse. -/
def orient : Direction → Ordering → Ordering
  | .asc, o => o
  | .desc, o => o.swap

end Direction

namespace SortSpec

def codec : Codec SortSpec :=
  (Codec.record
    (.required "field" [] .text <|
     .required "kind" [] SortKind.codec <|
     .required "direction" [] Direction.codec .nil)).map
    (fun (field, kind, direction, ()) => ⟨field, kind, direction⟩)
    (fun s => (s.field, s.kind, s.direction, ()))

/-- The keys of a dotted path; empty ones do not count. -/
def pathKeys (path : List Char) : List (List Char) :=
  (path.splitOn '.').filter (!·.isEmpty)

/-- Follows keys through objects. -/
def follow (row : Json) : List (List Char) → Option Json
  | [] => some row
  | key :: rest => (row.get? (String.ofList key)).bind (follow · rest)

/-- The value that a path leads to, when it is not null. -/
def lookup (path : String) (row : Json) : Option Json :=
  (follow row (pathKeys path.toList)).filter (!·.isNull)

/-- Order of two rows, those without the field after those with it before the
direction is applied. -/
def compare (spec : SortSpec) (a b : Json) : Ordering :=
  spec.direction.orient
    (match lookup spec.field a, lookup spec.field b with
     | some a, some b => spec.kind.compare a b
     | some _, none => .lt
     | none, some _ => .gt
     | none, none => .eq)

/-- Order of two rows in a sorted listing: rows without the field come last in
either direction. -/
def compareRows (spec : SortSpec) (a b : Json) : Ordering :=
  match (lookup spec.field a).isSome, (lookup spec.field b).isSome with
  | true, false => .lt
  | false, true => .gt
  | _, _ => spec.compare a b

/-- Sorts rows, keeping the order of those that compare equal. -/
def apply (spec : SortSpec) (rows : List Json) : List Json :=
  rows.mergeSort fun a b => (spec.compareRows a b).isLE

end SortSpec
end SignatureDesk
