/-
The four kinds of quoted text in TOML: in double quotes with escapes or in
single quotes without, on one line or, with three quotes on either side, on
several. Each reader takes what stands behind the opening quotes and gives the
text and what follows the closing ones.
-/
import SignatureDesk.Text.Hex

namespace SignatureDesk.Toml

/-- Characters that may stand in a line: no controls but the tab. -/
def isLineChar (c : Char) : Bool := c = '\t' || (32 ≤ c.toNat && c.toNat ≠ 127)

def isBlank (c : Char) : Bool := c = ' ' || c = '\t'

/-- The character with a number, unless it is half of a surrogate pair or past the last. -/
def charOf? (digits : List Char) : Option Char := do
  let n ← digits.foldlM (fun n c => (Text.hexValue? c).map (n * 16 + ·)) 0
  if n.isValidChar then some (Char.ofNat n) else none

/-- The character of an escape of one letter. -/
def escape? : Char → Option Char
  | 'b' => some '\x08'
  | 't' => some '\t'
  | 'n' => some '\n'
  | 'f' => some '\x0c'
  | 'r' => some '\r'
  | '"' => some '"'
  | '\\' => some '\\'
  | _ => none

/-- A character in front of what was read behind it. -/
def before (c : Char) (r : List Char × List Char) : List Char × List Char := (c :: r.1, r.2)

/-- Double quotes on one line. -/
def takeBasic : List Char → Option (List Char × List Char)
  | [] => none
  | '"' :: rest => some ([], rest)
  | '\\' :: 'u' :: a :: b :: c :: d :: rest => do
    some (before (← charOf? [a, b, c, d]) (← takeBasic rest))
  | '\\' :: 'U' :: a :: b :: c :: d :: e :: f :: g :: h :: rest => do
    some (before (← charOf? [a, b, c, d, e, f, g, h]) (← takeBasic rest))
  | '\\' :: c :: rest => do some (before (← escape? c) (← takeBasic rest))
  | c :: rest => if isLineChar c then (takeBasic rest).map (before c) else none

/-- Single quotes on one line. -/
def takeLiteral : List Char → Option (List Char × List Char)
  | [] => none
  | '\'' :: rest => some ([], rest)
  | c :: rest => if isLineChar c then (takeLiteral rest).map (before c) else none

/-- What three closing quotes leave: up to two quotes before them are text. -/
def closeBlock (quote : Char) : List Char → List Char × List Char
  | a :: b :: rest =>
    if a = quote then
      if b = quote then ([quote, quote], rest) else ([quote], b :: rest)
    else ([], a :: b :: rest)
  | [a] => if a = quote then ([quote], []) else ([], [a])
  | [] => ([], [])

/-- Whether a line ends here, blanks aside. -/
def endsLine (s : List Char) : Bool :=
  match s.dropWhile isBlank with
  | '\n' :: _ => true
  | '\r' :: '\n' :: _ => true
  | _ => false

/-- Three double quotes. A backslash at the end of a line takes the white space
behind it away; `skipping` holds while that goes on. -/
def takeBasicBlock (skipping : Bool) : List Char → Option (List Char × List Char)
  | [] => none
  | '\r' :: '\n' :: rest =>
    if skipping then takeBasicBlock true rest else (takeBasicBlock false rest).map (before '\n')
  | '"' :: '"' :: '"' :: rest => some (closeBlock '"' rest)
  | '\\' :: 'u' :: a :: b :: c :: d :: rest => do
    some (before (← charOf? [a, b, c, d]) (← takeBasicBlock false rest))
  | '\\' :: 'U' :: a :: b :: c :: d :: e :: f :: g :: h :: rest => do
    some (before (← charOf? [a, b, c, d, e, f, g, h]) (← takeBasicBlock false rest))
  | '\\' :: c :: rest =>
    if endsLine (c :: rest) then takeBasicBlock true (c :: rest)
    else do some (before (← escape? c) (← takeBasicBlock false rest))
  | c :: rest =>
    if skipping && (isBlank c || c = '\n') then takeBasicBlock true rest
    else if isLineChar c || c = '\n' then (takeBasicBlock false rest).map (before c)
    else none

/-- Three single quotes. -/
def takeLiteralBlock : List Char → Option (List Char × List Char)
  | [] => none
  | '\r' :: '\n' :: rest => (takeLiteralBlock rest).map (before '\n')
  | '\'' :: '\'' :: '\'' :: rest => some (closeBlock '\'' rest)
  | c :: rest =>
    if isLineChar c || c = '\n' then (takeLiteralBlock rest).map (before c) else none

/-- Drops the line end that follows three opening quotes. -/
def dropFirstLine : List Char → List Char
  | '\n' :: rest => rest
  | '\r' :: '\n' :: rest => rest
  | s => s

/-- A quoted text of any kind; none when there is no quote here, or no end. -/
def takeQuoted : List Char → Option (List Char × List Char)
  | '"' :: '"' :: '"' :: rest => takeBasicBlock false (dropFirstLine rest)
  | '"' :: rest => takeBasic rest
  | '\'' :: '\'' :: '\'' :: rest => takeLiteralBlock (dropFirstLine rest)
  | '\'' :: rest => takeLiteral rest
  | _ => none

end SignatureDesk.Toml
