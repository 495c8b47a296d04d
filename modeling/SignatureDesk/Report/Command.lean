/-
The command that reports on a saved listing: what its arguments ask for, and how
it ends.
-/
import SignatureDesk.Report.Layout

namespace SignatureDesk.Report

/-- What the arguments ask for. -/
structure Command where
  path : String
  format : Format
deriving Repr, DecidableEq

/-- How the command ends: with a report, or with a line that says why there is none. -/
inductive Outcome where
  | reported (text : String)
  | failed (line : String)
  | misused
deriving Repr, DecidableEq

namespace Command

/-- What the arguments read so far have set. -/
structure Draft where
  path : Option String
  format : Option Format

/-- Sets the format, once. -/
def Draft.setFormat (d : Draft) (name : String) : Option Draft :=
  match d.format, Format.ofName? name with
  | none, some f => some { d with format := some f }
  | _, _ => none

/-- Sets the path, once. -/
def Draft.setPath (d : Draft) (path : String) : Option Draft :=
  match d.path with
  | none => some { d with path := some path }
  | some _ => none

/-- The value of an option that is written in one word with its name. -/
def joined? (word : String) : Option String :=
  ["--format=", "-f=", "-f"].findSome? fun name =>
    if name.toList.isPrefixOf word.toList && name ≠ word then
      some (String.ofList (word.toList.drop name.length))
    else none

/-- Starts with a hyphen and has more to it. -/
def isOption (word : String) : Bool := word.toList.head? == some '-' && word ≠ "-"

/-- Reads arguments; behind `--` all of them are paths. -/
def read (d : Draft) : List String → Option Draft
  | [] => some d
  | "--" :: rest => rest.foldlM Draft.setPath d
  | [word] =>
    match joined? word with
    | some name => d.setFormat name
    | none => if isOption word then none else d.setPath word
  | word :: next :: rest =>
    match joined? word with
    | some name => (d.setFormat name).bind fun d => read d (next :: rest)
    | none =>
      if word = "-f" ∨ word = "--format" then (d.setFormat next).bind fun d => read d rest
      else if isOption word then none
      else (d.setPath word).bind fun d => read d (next :: rest)

/-- The command of a list of arguments; text is the format when none is named. -/
def ofArguments? (arguments : List String) : Option Command := do
  let d ← read ⟨none, none⟩ arguments
  some ⟨← d.path, d.format.getD .text⟩

def ListingFault.line (path : String) : ListingFault → String
  | .notJson => "Error: " ++ path ++ " is not valid JSON"
  | .badArray => "Error: Invalid signature array"
  | .badPage => "Error: Invalid signature page"

/-- Reports on the text of the file, when it could be read. -/
def run (c : Command) (contents : Option String) : Outcome :=
  match contents with
  | none => .failed ("Error: Failed to read " ++ c.path)
  | some s =>
    match readListing s with
    | .error e => .failed (ListingFault.line c.path e)
    | .ok records => .reported ((ofSignatures records).print c.format)

end Command

/-- The status the process ends with. -/
def Outcome.exitCode : Outcome → UInt32
  | .reported _ => 0
  | .failed _ => 1
  | .misused => 2

end SignatureDesk.Report
