/-
Which entries an allow-list takes. Letters are those of the Latin alphabet in
either case, the long s and the Kelvin sign among them, which fold to s and k.
-/
import SignatureDesk.AllowList.Kind
import SignatureDesk.Failure
import SignatureDesk.Text.Case
import SignatureDesk.Text.White

namespace SignatureDesk.AllowListKind

/-- A letter up to case. -/
def isLetter (c : Char) : Bool := Text.isAsciiLetter c || c = '\u017f' || c = '\u212a'

def isLetterOrDigit (c : Char) : Bool := isLetter c || Text.isAsciiDigit c

/-- One line that has an at sign with something before it, and behind that a dot
with something on both sides. -/
def isEmail (s : List Char) : Bool :=
  !s.contains '\n' &&
    match (s.drop 1).dropWhile (· ≠ '@') with
    | _ :: rest => (rest.drop 1).dropLast.contains '.'
    | [] => false

/-- Ends in a letter or digit, a dot, and two letters or more; anything may precede. -/
def isDomain (s : List Char) : Bool :=
  let r := s.reverse
  2 ≤ (r.takeWhile isLetter).length &&
    match r.dropWhile isLetter with
    | '.' :: c :: _ => isLetterOrDigit c
    | _ => false

/-- Up to 39 letters, digits and hyphens, the first not a hyphen. -/
def isGithubName (s : List Char) : Bool :=
  match s with
  | c :: rest => isLetterOrDigit c && rest.length ≤ 38 && rest.all fun d => isLetterOrDigit d || d = '-'
  | [] => false

/-- The grammar of a kind, for a text that is already trimmed. -/
def admits : AllowListKind → List Char → Bool
  | .email => isEmail
  | .domain => isDomain
  | .githubUsername => isGithubName
  | .githubOrg => isGithubName

/-- The entry that a value stands for, once it is trimmed. -/
def validate (kind : AllowListKind) (value : String) : Except Failure String :=
  let entry := Text.trim value
  if kind.admits entry.toList then .ok entry else .error (.invalidEntry kind.name entry)

/-- Checks values in order and stops at the first that is not admitted. -/
def validateAll (kind : AllowListKind) : List String → Except Failure (List String)
  | [] => .ok []
  | v :: rest => do
    let entry ← kind.validate v
    let entries ← validateAll kind rest
    .ok (entry :: entries)

end SignatureDesk.AllowListKind
