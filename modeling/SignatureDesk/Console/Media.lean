/-
Media types, as far as it takes to see that a body is declared to be JSON: a
type, a slash, a subtype, and parameters behind semicolons.
-/
import SignatureDesk.Text.Case

namespace SignatureDesk.Media

def isTokenChar (c : Char) : Bool :=
  Text.isAsciiLetter c || Text.isAsciiDigit c || "!#$%&'+-.^_`|~".toList.contains c

def isQuotedChar (c : Char) : Bool := 32 ≤ c.toNat && c.toNat ≠ 127

/-- What follows the quote that ends a quoted value of one character or more: the
text behind the next semicolon. -/
def afterQuoted (s : List Char) : Option (List Char) :=
  match s with
  | c :: rest =>
    let inside := rest.takeWhile fun d => d ≠ '"'
    if isQuotedChar c && inside.all isQuotedChar then
      match rest.dropWhile (· ≠ '"') with
      | _ :: rest =>
        match rest.dropWhile (· = ' ') with
        | [] => some []
        | d :: rest => if d = ';' then some rest else none
      | [] => none
    else none
  | [] => none

/-- What follows a value: the text behind the next semicolon. -/
def afterValue (s : List Char) : Option (List Char) :=
  match s with
  | '"' :: rest => afterQuoted rest
  | s =>
    match s.dropWhile isTokenChar with
    | [] => some []
    | c :: rest => if c = ';' && !(s.takeWhile isTokenChar).isEmpty then some rest else none

/-- What follows a parameter: its name, an equals sign and its value. -/
def afterParameter (s : List Char) : Option (List Char) :=
  match s.dropWhile isTokenChar with
  | '=' :: rest => if (s.takeWhile isTokenChar).isEmpty then none else afterValue rest
  | _ => none

/-- Every parameter is well formed; spaces may stand before each. -/
def parametersOk (fuel : Nat) (s : List Char) : Bool :=
  match fuel, s.dropWhile (· = ' ') with
  | _, [] => true
  | 0, _ => false
  | fuel + 1, s =>
    match afterParameter s with
    | some rest => parametersOk fuel rest
    | none => false

/-- The word `json`, in any case. -/
def isJsonWord (s : List Char) : Bool := s.map Text.asciiLowerChar == "json".toList

/-- A subtype of JSON: the word stands alone, or in front of the last plus sign,
or behind it. A plus sign at the start does not count. -/
def isJsonSubtype (s : List Char) : Bool :=
  if (s.drop 1).contains '+' then
    let behind := (s.reverse.takeWhile (· ≠ '+')).reverse
    isJsonWord behind || isJsonWord (s.take (s.length - behind.length - 1))
  else isJsonWord s

/-- A well-formed media type that is one of JSON. -/
def isJson (s : String) : Bool :=
  let cs := s.toList
  let type := cs.takeWhile isTokenChar
  match cs.dropWhile isTokenChar with
  | '/' :: rest =>
    let subtype := rest.takeWhile isTokenChar
    let wellFormed := match rest.dropWhile isTokenChar with
      | [] => true
      | c :: rest => c = ';' && !subtype.isEmpty && parametersOk rest.length rest
    wellFormed && type.map Text.asciiLowerChar == "application".toList && isJsonSubtype subtype
  | _ => false

end SignatureDesk.Media
