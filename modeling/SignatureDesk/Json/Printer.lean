/-
JSON as text: the compact form, with nothing between the tokens, and the form
indented by two spaces a level.
-/
import SignatureDesk.Json.Basic
import SignatureDesk.Number.Decimal

namespace SignatureDesk.Json

/-- Floats keep a point or an exponent; the point stands at most sixteen digits
behind the first digit and at most four zeros before it. -/
def floatLayout : Decimal.Layout := ⟨fun point => -5 < point && point ≤ 16, true⟩

def numberText : Number → List Char
  | .int z => (toString z).toList
  | .float x => x.write floatLayout

/-- One character between the quotes. -/
def escapedChar (c : Char) : List Char :=
  match c with
  | '"' => ['\\', '"']
  | '\\' => ['\\', '\\']
  | '\x08' => ['\\', 'b']
  | '\x0c' => ['\\', 'f']
  | '\n' => ['\\', 'n']
  | '\r' => ['\\', 'r']
  | '\t' => ['\\', 't']
  | c =>
    if c.toNat < 32 then
      ['\\', 'u', '0', '0', Nat.digitChar (c.toNat / 16), Nat.digitChar (c.toNat % 16)]
    else [c]

def stringText (s : String) : List Char := ['"'] ++ s.toList.flatMap escapedChar ++ ['"']

mutual

/-- The compact text. -/
def compactChars : Json → List Char
  | .null => "null".toList
  | .bool true => "true".toList
  | .bool false => "false".toList
  | .num n => numberText n
  | .str s => stringText s
  | .arr [] => ['[', ']']
  | .arr (v :: rest) => ['['] ++ v.compactChars ++ compactItems rest ++ [']']
  | .obj [] => ['\x7b', '\x7d']
  | .obj ((k, v) :: rest) =>
    ['\x7b'] ++ stringText k ++ [':'] ++ v.compactChars ++ compactMembers rest ++ ['\x7d']
  | .unread _ => "null".toList

/-- The items after the first, each behind its comma. -/
def compactItems : List Json → List Char
  | [] => []
  | v :: rest => [','] ++ v.compactChars ++ compactItems rest

def compactMembers : Members → List Char
  | [] => []
  | (k, v) :: rest =>
    [','] ++ stringText k ++ [':'] ++ v.compactChars ++ compactMembers rest

end

def compact (v : Json) : String := String.ofList v.compactChars

/-- A new line, indented to a level. -/
def newline (level : Nat) : List Char := '\n' :: List.replicate (2 * level) ' '

mutual

/-- The indented text of a value that stands at a level. -/
def prettyChars (level : Nat) : Json → List Char
  | .null => "null".toList
  | .bool true => "true".toList
  | .bool false => "false".toList
  | .num n => numberText n
  | .str s => stringText s
  | .arr [] => ['[', ']']
  | .arr (v :: rest) =>
    ['['] ++ newline (level + 1) ++ prettyChars (level + 1) v ++ prettyItems level rest ++
      newline level ++ [']']
  | .obj [] => ['\x7b', '\x7d']
  | .obj ((k, v) :: rest) =>
    ['\x7b'] ++ newline (level + 1) ++ stringText k ++ [':', ' '] ++ prettyChars (level + 1) v ++
      prettyMembers level rest ++ newline level ++ ['\x7d']
  | .unread _ => "null".toList

def prettyItems (level : Nat) : List Json → List Char
  | [] => []
  | v :: rest =>
    [','] ++ newline (level + 1) ++ prettyChars (level + 1) v ++ prettyItems level rest

def prettyMembers (level : Nat) : Members → List Char
  | [] => []
  | (k, v) :: rest =>
    [','] ++ newline (level + 1) ++ stringText k ++ [':', ' '] ++ prettyChars (level + 1) v ++
      prettyMembers level rest

end

def pretty (v : Json) : String := String.ofList (prettyChars 0 v)

end SignatureDesk.Json
