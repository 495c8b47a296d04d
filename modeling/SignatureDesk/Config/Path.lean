/-
Paths into configuration values, as the names of settings are written:
`section.field`, with `[n]` for an item of a list. Setting a value at a path
makes the tables and lists on the way, whatever stood there before.
-/
import SignatureDesk.Config.Value
import SignatureDesk.Text.White

namespace SignatureDesk.Config

inductive Path where
  | name (s : String)
  | child (parent : Path) (s : String)
  | item (parent : Path) (index : Int)
deriving Repr, DecidableEq

namespace Path

def isNameChar (c : Char) : Bool :=
  Text.isAsciiLetter c || Text.isAsciiDigit c || c = ' ' || c = '_' || c = '-'

/-- An integer that is the whole of a text, spaces around it aside. -/
def index? (s : List Char) : Option Int :=
  let inner := Text.dropRightWhile (· = ' ') (s.dropWhile (· = ' '))
  let (negative, ds) := match inner with
    | '-' :: rest => (true, rest)
    | rest => (false, rest)
  if ds.isEmpty || !ds.all Text.isAsciiDigit then none
  else some (if negative then -(Instant.ofDigits ds : Int) else Instant.ofDigits ds)

/-- Reads what follows a path: children behind points and indices in brackets. -/
def readMore : Nat → Path → List Char → Option Path
  | _, p, [] => some p
  | 0, _, _ => none
  | fuel + 1, p, '.' :: rest =>
    let s := rest.takeWhile isNameChar
    if s.isEmpty then none
    else readMore fuel (.child p (String.ofList s)) (rest.dropWhile isNameChar)
  | fuel + 1, p, '[' :: rest => do
    let i ← index? (rest.takeWhile (· ≠ ']'))
    match rest.dropWhile (· ≠ ']') with
    | ']' :: more => readMore fuel (.item p i) more
    | _ => none
  | _ + 1, _, _ => none

/-- Reads a path. -/
def read? (s : String) : Option Path :=
  let name := s.toList.takeWhile isNameChar
  if name.isEmpty then none
  else readMore s.length (.name (String.ofList name)) (s.toList.dropWhile isNameChar)

/-- The place that an index means in a list, counted from the end when negative. -/
def place (index : Int) (length : Nat) : Nat :=
  if 0 ≤ index then index.toNat else length - index.natAbs

/-- Changes an item of a list that is made long enough. -/
def changeItem (index : Int) (f : Value → Value) (vs : List Value) : List Value :=
  let i := place index vs.length
  let vs := vs ++ List.replicate (i + 1 - vs.length) .nil
  vs.modify i f

def changeEntry (name : String) (f : Value → Value) (v : Value) : Value :=
  let name := Text.lower name
  .table (Value.setEntry name (f ((v.entries.lookup name).getD .nil)) v.entries)

/-- Changes the value at a path. -/
def change : Path → (Value → Value) → Value → Value
  | .name s, f, root => changeEntry s f root
  | .child parent s, f, root => parent.change (changeEntry s f) root
  | .item parent i, f, root => parent.change (fun v => .list (changeItem i f v.items)) root

/-- Sets the value at a path; a table joins a table that is there. -/
def set (v : Value) : Path → Value → Value
  | .name s, root => root.put s v
  | .child parent s, root => parent.change (fun w => w.put s v) root
  | .item parent i, root => parent.change (fun w => .list (changeItem i (fun _ => v) w.items)) root

/-- Sets the value under a name: at the path that the name writes, or, when it
writes none, in the entry of that name. -/
def assign (root : Value) (name : String) (v : Value) : Value :=
  match read? name with
  | some p => p.set v root
  | none => root.put name v

end Path
end SignatureDesk.Config
