/-
The tables of a document while it is read. Each remembers how it came about, for
that decides who may add to it: a header defines a table once and may pass
through any, and a dotted key adds only to tables that dotted keys made.
-/
import SignatureDesk.Config.Value

namespace SignatureDesk.Toml

/-- How a table came about. -/
inductive Made where
  /-- By its own header. -/
  | header
  /-- By a header of a table inside it. -/
  | implied
  /-- By a dotted key. -/
  | dotted
deriving Repr, DecidableEq

inductive Node where
  | value (v : Config.Value)
  | table (made : Made) (entries : List (String × Node))
  /-- The tables of one header in double brackets, the latest last. -/
  | tables (all : List (List (String × Node)))
deriving Repr, Inhabited

/-- The entries of a table. -/
abbrev Entries := List (String × Node)

namespace Entries

/-- Replaces an entry that is there. -/
def replace (key : String) (n : Node) (es : Entries) : Entries :=
  es.map fun (k, m) => if k = key then (k, n) else (k, m)

/-- Adds an entry that is not there yet. -/
def add? (key : String) (n : Node) (es : Entries) : Option Entries :=
  if (es.lookup key).isSome then none else some (es ++ [(key, n)])

/-- Changes the table that a header's keys lead to, making the tables on the way. -/
def changeAt (f : Entries → Option Entries) : List String → Entries → Option Entries
  | [], es => f es
  | k :: rest, es =>
    match es.lookup k with
    | none => do es.add? k (.table .implied (← changeAt f rest []))
    | some (.table made inner) => do some (es.replace k (.table made (← changeAt f rest inner)))
    | some (.tables all) => do
      let inner ← changeAt f rest (all.getLast?.getD [])
      some (es.replace k (.tables (all.dropLast ++ [inner])))
    | some (.value _) => none

/-- Defines the table of a header. -/
def defineTable (key : String) (es : Entries) : Option Entries :=
  match es.lookup key with
  | none => es.add? key (.table .header [])
  | some (.table .implied inner) => some (es.replace key (.table .header inner))
  | some _ => none

/-- Starts the next table of a header in double brackets. -/
def appendTable (key : String) (es : Entries) : Option Entries :=
  match es.lookup key with
  | none => es.add? key (.tables [[]])
  | some (.tables all) => some (es.replace key (.tables (all ++ [[]])))
  | some _ => none

/-- Adds a value under a key behind at least one other. -/
def putBehind (key : String) (v : Config.Value) : List String → Entries → Option Entries
  | [], es => es.add? key (.value v)
  | [k], es =>
    match es.lookup k with
    | none => es.add? k (.table .dotted [(key, .value v)])
    | some (.table .dotted inner) => do
      some (es.replace k (.table .dotted (← Entries.add? key (.value v) inner)))
    | some _ => none
  | k :: rest, es =>
    match es.lookup k with
    | none => do es.add? k (.table .dotted (← putBehind key v rest []))
    | some (.table .header _) => none
    | some (.table made inner) => do
      some (es.replace k (.table made (← putBehind key v rest inner)))
    | some (.tables all) => do
      let inner ← putBehind key v rest (all.getLast?.getD [])
      some (es.replace k (.tables (all.dropLast ++ [inner])))
    | some (.value _) => none

/-- Adds a value under a dotted key. -/
def put (keys : List String) (v : Config.Value) (es : Entries) : Option Entries :=
  match keys.getLast? with
  | some key => putBehind key v keys.dropLast es
  | none => none

end Entries

mutual

/-- The finished value. -/
def Node.finish : Node → Config.Value
  | .value v => v
  | .table _ es => .table (finishEntries es)
  | .tables all => .list (finishTables all)

def finishEntries : List (String × Node) → List (String × Config.Value)
  | [] => []
  | (k, n) :: rest => (k, n.finish) :: finishEntries rest

def finishTables : List (List (String × Node)) → List Config.Value
  | [] => []
  | es :: rest => .table (finishEntries es) :: finishTables rest

end

end SignatureDesk.Toml
