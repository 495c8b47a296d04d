/-
A report as lines of text.
-/
import SignatureDesk.Report.Basic

namespace SignatureDesk.Report

/-- A text with spaces behind it, up to a width in characters. -/
def padded (width : Nat) (s : String) : String :=
  String.ofList (s.toList ++ List.replicate (width - s.length) ' ')

/-- The sizes of the groups on one line. -/
def groupLine (r : Report) : String :=
  "  ".intercalate (r.groups.map fun (name, n) => name ++ ": " ++ toString n)

def classLine (class_ : String × Nat) : String :=
  "  " ++ padded 10 class_.1 ++ " " ++ toString class_.2

/-- A list under its heading, which tells how long it is. -/
def allowListLines (s : Signature) (kind : AllowListKind) : List String :=
  let entries := (s.allowList kind).getD []
  ("  " ++ kind.label ++ " (" ++ toString entries.length ++ ")") :: entries.map ("    " ++ ·)

def corporateLines : Option Signature → List String
  | none => ["No corporate signature"]
  | some s => ("Corporate signature " ++ s.id) :: AllowListKind.all.flatMap (allowListLines s)

def contributorLine (s : Signature) : String :=
  "  " ++ padded 30 (s.userName.getD "-") ++ " " ++ s.id

/-- All lines; an empty one stands before each heading. -/
def lines (r : Report) : List String :=
  r.groupLine :: r.classes.map classLine ++
    "" :: corporateLines r.corporate ++
    "" :: "Contributors" :: r.contributors.map contributorLine

/-- The form that is printed. -/
inductive Format where
  | text
  | json
deriving Repr, DecidableEq

def Format.ofName? : String → Option Format
  | "text" => some .text
  | "json" => some .json
  | _ => none

/-- What is printed, every line ended. -/
def print (r : Report) : Format → String
  | .text => String.join (r.lines.map (· ++ "\n"))
  | .json => r.toJson.canonical.pretty ++ "\n"

end SignatureDesk.Report
