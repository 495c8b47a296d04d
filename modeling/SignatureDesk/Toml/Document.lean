/-
TOML documents: lines that each hold a header, a key with its value, or nothing,
with comments behind. A document that breaks any rule has no value at all.
-/
import SignatureDesk.Toml.Quote
import SignatureDesk.Toml.Scalar
import SignatureDesk.Toml.Tree

namespace SignatureDesk.Toml

/-- Values nest, and keys reach, less deep than this. -/
def depthLimit : Nat := 80

def skipBlanks (s : List Char) : List Char := s.dropWhile isBlank

/-- Drops a comment, if one starts here, up to the end of its line; none if it
holds a character that no line may. -/
def skipComment (s : List Char) : Option (List Char) :=
  match s with
  | '#' :: rest =>
    let comment := rest.takeWhile (· ≠ '\n')
    let after := rest.dropWhile (· ≠ '\n')
    let text := if after.isEmpty then comment else
      if comment.getLast? = some '\r' then comment.dropLast else comment
    let left := if text.length < comment.length then '\r' :: after else after
    if text.all isLineChar then some left else none
  | s => some s

/-- Blanks, comments and line ends, as between the items of an array. -/
def skipLines : Nat → List Char → Option (List Char)
  | 0, s => some s
  | fuel + 1, s =>
    match skipBlanks s with
    | '\n' :: rest => skipLines fuel rest
    | '\r' :: '\n' :: rest => skipLines fuel rest
    | '#' :: rest => do skipLines fuel (← skipComment ('#' :: rest))
    | s => some s

/-! ## Keys -/

def isBareChar (c : Char) : Bool :=
  Text.isAsciiLetter c || Text.isAsciiDigit c || c = '_' || c = '-'

/-- One part of a key. -/
def takeKeyPart (s : List Char) : Option (String × List Char) :=
  match s with
  | '"' :: rest => (takeBasic rest).map fun (t, r) => (String.ofList t, r)
  | '\'' :: rest => (takeLiteral rest).map fun (t, r) => (String.ofList t, r)
  | s =>
    let part := s.takeWhile isBareChar
    if part.isEmpty then none else some (String.ofList part, s.dropWhile isBareChar)

/-- The parts of a key, up to a number of them, with blanks around each. -/
def takeKey : Nat → List Char → Option (List String × List Char)
  | 0, _ => none
  | fuel + 1, s => do
    let (part, s) ← takeKeyPart (skipBlanks s)
    match skipBlanks s with
    | '.' :: rest => do
      let (parts, s) ← takeKey fuel rest
      some (part :: parts, s)
    | s => some ([part], s)

/-! ## Values -/

mutual

/-- The value at the start of a text, nested less than `depth` deep. -/
def takeValue : Nat → Nat → List Char → Option (Config.Value × List Char)
  | 0, _, _ => none
  | fuel + 1, depth, s =>
    match s with
    | '"' :: _ => (takeQuoted s).map fun (t, r) => (.text (String.ofList t), r)
    | '\'' :: _ => (takeQuoted s).map fun (t, r) => (.text (String.ofList t), r)
    | '[' :: rest =>
      if depth ≤ 1 then none
      else (takeItems fuel (depth - 1) rest).map fun (vs, r) => (.list vs, r)
    | '\x7b' :: rest =>
      if depth ≤ 1 then none
      else
        match skipBlanks rest with
        | '\x7d' :: r => some (.table [], r)
        | rest =>
          (takePairs fuel (depth - 1) [] rest).map fun (es, r) => (.table (finishEntries es), r)
    | s =>
      let (word, rest) := takeScalar s
      (scalar? word).map (·, rest)

/-- The items of an array behind its bracket or a comma. -/
def takeItems : Nat → Nat → List Char → Option (List Config.Value × List Char)
  | 0, _, _ => none
  | fuel + 1, depth, s => do
    match ← skipLines s.length s with
    | ']' :: rest => some ([], rest)
    | s => do
      let (v, s) ← takeValue fuel depth s
      match ← skipLines s.length s with
      | ',' :: rest => do
        let (vs, s) ← takeItems fuel depth rest
        some (v :: vs, s)
      | ']' :: rest => some ([v], rest)
      | _ => none

/-- The entries of an inline table behind its brace or a comma. -/
def takePairs : Nat → Nat → Entries → List Char → Option (Entries × List Char)
  | 0, _, _, _ => none
  | fuel + 1, depth, es, s => do
    let (keys, s) ← takeKey depthLimit s
    match s with
    | '=' :: rest => do
      let (v, s) ← takeValue fuel depth (skipBlanks rest)
      let es ← es.put keys v
      match skipBlanks s with
      | ',' :: rest => takePairs fuel depth es rest
      | '\x7d' :: rest => some (es, rest)
      | _ => none
    | _ => none

end

/-! ## Lines -/

/-- The end of a line behind what it holds; none if there is more on it. -/
def endLine (s : List Char) : Option (List Char) := do
  match ← skipComment (skipBlanks s) with
  | [] => some []
  | '\n' :: rest => some rest
  | '\r' :: '\n' :: rest => some rest
  | _ => none

/-- A key, its value and the end of the line, put into the table of the last header. -/
def readEntry (header : List String) (es : Entries) (s : List Char) :
    Option (Entries × List Char) := do
  let (keys, s) ← takeKey depthLimit s
  match s with
  | '=' :: rest => do
    let (v, s) ← takeValue (2 * rest.length + 2) depthLimit (skipBlanks rest)
    let es ← es.changeAt (fun inner => Entries.put keys v inner) header
    some (es, ← endLine s)
  | _ => none

/-- A header behind its brackets and the end of the line. -/
def readHeader (closing : List Char) (define : String → Entries → Option Entries)
    (es : Entries) (s : List Char) : Option (List String × Entries × List Char) := do
  let (keys, s) ← takeKey depthLimit s
  if closing.isPrefixOf s then
    let es ← es.changeAt (define (keys.getLast?.getD "")) keys.dropLast
    some (keys, es, ← endLine (s.drop closing.length))
  else none

/-- Reads lines one by one. -/
def readLines : Nat → List String → Entries → List Char → Option Entries
  | 0, _, es, s => if s.isEmpty then some es else none
  | fuel + 1, header, es, s =>
    match skipBlanks s with
    | [] => some es
    | '[' :: '[' :: rest => do
      let (header, es, s) ← readHeader [']', ']'] Entries.appendTable es rest
      readLines fuel header es s
    | '[' :: rest => do
      let (header, es, s) ← readHeader [']'] Entries.defineTable es rest
      readLines fuel header es s
    | s =>
      if s.head? = some '#' || s.head? = some '\n' || s.head? = some '\r' then do
        readLines fuel header es (← endLine s)
      else do
        let (es, s) ← readEntry header es s
        readLines fuel header es s

/-- The entries of a document, unless it is malformed. A mark of the byte order
in front is no part of it. -/
def read? (s : String) : Option (List (String × Config.Value)) :=
  let s := match s.toList with
    | '\ufeff' :: rest => rest
    | s => s
  (readLines (s.length + 1) [] [] s).map finishEntries

end SignatureDesk.Toml
