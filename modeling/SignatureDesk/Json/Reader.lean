/-
Reading JSON texts. The reader always gives a value: where the text stops being
JSON the value ends in an unread place, so that whoever wants only part of it
meets the fault only on the way to what they want.
-/
import SignatureDesk.Json.Numeral
import SignatureDesk.Json.Printer
import SignatureDesk.Text.Hex

namespace SignatureDesk.Json

def isSpace (c : Char) : Bool := c = ' ' || c = '\n' || c = '\t' || c = '\r'

def skipSpace (s : List Char) : List Char := s.dropWhile isSpace

/-- Four hexadecimal digits. -/
def takeHex4 : List Char → Option (Nat × List Char)
  | a :: b :: c :: d :: rest => do
    let a ← Text.hexValue? a
    let b ← Text.hexValue? b
    let c ← Text.hexValue? c
    let d ← Text.hexValue? d
    some (((a * 16 + b) * 16 + c) * 16 + d, rest)
  | _ => none

/-- What a string holds between its quotes: a character, or a unit that is one half of a pair. -/
inductive StringPart where
  | char (c : Char)
  | unit (n : Nat)

def simpleEscape? : Char → Option Char
  | '"' => some '"'
  | '\\' => some '\\'
  | '/' => some '/'
  | 'b' => some '\x08'
  | 'f' => some '\x0c'
  | 'n' => some '\n'
  | 'r' => some '\r'
  | 't' => some '\t'
  | _ => none

/-- The parts of a string up to its closing quote, and what follows that. -/
def takeParts (fuel : Nat) (s : List Char) : Option (List StringPart × List Char) :=
  match fuel, s with
  | 0, _ => none
  | _, [] => none
  | _, '"' :: rest => some ([], rest)
  | fuel + 1, '\\' :: 'u' :: rest => do
    let (n, rest) ← takeHex4 rest
    let (parts, rest) ← takeParts fuel rest
    some (if 0xD800 ≤ n ∧ n ≤ 0xDFFF then .unit n :: parts else .char (Char.ofNat n) :: parts, rest)
  | fuel + 1, '\\' :: c :: rest => do
    let c ← simpleEscape? c
    let (parts, rest) ← takeParts fuel rest
    some (.char c :: parts, rest)
  | fuel + 1, c :: rest =>
    if c = '\\' ∨ c.toNat < 32 then none
    else do
      let (parts, rest) ← takeParts fuel rest
      some (.char c :: parts, rest)

/-- Joins pairs of halves; a half that stands alone has no text. -/
def joinParts : List StringPart → Option (List Char)
  | [] => some []
  | .char c :: rest => (joinParts rest).map (c :: ·)
  | .unit h :: .unit l :: rest =>
    if h < 0xDC00 ∧ 0xDC00 ≤ l then
      (joinParts rest).map (Char.ofNat (0x10000 + (h - 0xD800) * 1024 + (l - 0xDC00)) :: ·)
    else none
  | .unit _ :: _ => none

/-- The text behind an opening quote: nothing when it does not end, no text when
it cannot be represented. -/
def takeString (s : List Char) : Option (Option String × List Char) :=
  (takeParts (s.length + 1) s).map fun (parts, rest) => ((joinParts parts).map String.ofList, rest)

/-- Removes a word from the start of a text. -/
def takeWord : List Char → List Char → Option (List Char)
  | [], s => some s
  | w :: ws, c :: rest => if w = c then takeWord ws rest else none
  | _ :: _, [] => none

/-- Containers may nest this deep. -/
def depthLimit : Nat := 127

/-- A value in place of one that nests too deep. -/
def tooDeep (v : Json) (depth : Nat) : Json :=
  if depth = 0 then .unread v.delimited else v

/-- The end of a text that is no JSON. -/
def broken : Json × Option (List Char) := (.unread false, none)

mutual

/-- The value at the start of a text, and what follows it; nothing follows where
the text went wrong. -/
def readValue (fuel depth : Nat) (s : List Char) : Json × Option (List Char) :=
  match fuel with
  | 0 => broken
  | fuel + 1 =>
    match skipSpace s with
    | [] => broken
    | 'n' :: rest => readWord .null "ull".toList rest
    | 't' :: rest => readWord (.bool true) "rue".toList rest
    | 'f' :: rest => readWord (.bool false) "alse".toList rest
    | '"' :: rest =>
      match takeString rest with
      | some (some text, rest) => (.str text, some rest)
      | some (none, rest) => (.unread true, some rest)
      | none => broken
    | '[' :: rest =>
      let (items, rest) :=
        match skipSpace rest with
        | ']' :: rest => ([], some rest)
        | rest => readItems fuel (depth - 1) rest
      (tooDeep (.arr items) depth, rest)
    | '\x7b' :: rest =>
      let (members, rest) :=
        match skipSpace rest with
        | '\x7d' :: rest => ([], some rest)
        | rest => readMembers fuel (depth - 1) rest
      (tooDeep (.obj members) depth, rest)
    | s =>
      match takeNumeral s with
      | some (n, rest) =>
        match n.number? with
        | some n => (.num n, some rest)
        | none => (.unread true, some rest)
      | none => broken

/-- The items of an array up to its end. -/
def readItems (fuel depth : Nat) (s : List Char) : List Json × Option (List Char) :=
  match fuel with
  | 0 => ([.unread false], none)
  | fuel + 1 =>
    match readValue fuel depth s with
    | (v, none) => ([v], none)
    | (v, some rest) =>
      match skipSpace rest with
      | ',' :: rest =>
        let (items, rest) := readItems fuel depth rest
        (v :: items, rest)
      | ']' :: rest => ([v], some rest)
      | _ => ([v, .unread false], none)

/-- The members of an object up to its end. -/
def readMembers (fuel depth : Nat) (s : List Char) : Members × Option (List Char) :=
  match fuel with
  | 0 => ([("", .unread false)], none)
  | fuel + 1 =>
    match skipSpace s with
    | '"' :: rest =>
      match takeString rest with
      | some (some key, rest) =>
        match skipSpace rest with
        | ':' :: rest =>
          match readValue fuel depth rest with
          | (v, none) => ([(key, v)], none)
          | (v, some rest) =>
            match skipSpace rest with
            | ',' :: rest =>
              let (members, rest) := readMembers fuel depth rest
              ((key, v) :: members, rest)
            | '\x7d' :: rest => ([(key, v)], some rest)
            | _ => ([(key, v), ("", .unread false)], none)
        | _ => ([(key, .unread false)], none)
      | _ => ([("", .unread false)], none)
    | _ => ([("", .unread false)], none)

/-- A value spelled as a word, whose first letter has been read. -/
def readWord (v : Json) (word : List Char) (s : List Char) : Json × Option (List Char) :=
  match takeWord word s with
  | some rest => (v, some rest)
  | none => broken

end

/-- The value at the start of a text, and whether only white space follows it. -/
def readText (s : String) : Json × Bool :=
  let cs := s.toList
  match readValue (2 * cs.length + 2) depthLimit cs with
  | (v, some rest) => (v, (skipSpace rest).isEmpty)
  | (v, none) => (v, false)

/-- The value that a whole text holds, in canonical form. -/
def ofText? (s : String) : Option Json :=
  match readText s with
  | (v, true) => if v.intact then some v.canonical else none
  | (_, false) => none

end SignatureDesk.Json
