/-
Lower and upper case of whole texts, after Unicode's full mappings. A text may
grow: a dotted capital I is lowered to two code points, and a sharp s raised to
two. Lowering looks at its surroundings in one place only: a capital sigma that
ends a word becomes the final form.
-/
import SignatureDesk.Text.CaseTable

namespace SignatureDesk.Text

/-- Membership in a table of closed ranges. -/
def inRanges (ranges : List (Nat × Nat)) (c : Char) : Bool :=
  ranges.any fun r => r.1 ≤ c.toNat && c.toNat ≤ r.2

def isAsciiUpper (c : Char) : Bool := 'A' ≤ c && c ≤ 'Z'

def isAsciiLower (c : Char) : Bool := 'a' ≤ c && c ≤ 'z'

def isAsciiDigit (c : Char) : Bool := '0' ≤ c && c ≤ '9'

def isAsciiLetter (c : Char) : Bool := isAsciiUpper c || isAsciiLower c

def isAscii (c : Char) : Bool := c.toNat < 128

/-- Lower case of the letters A to Z alone. -/
def asciiLowerChar (c : Char) : Char :=
  if isAsciiUpper c then Char.ofNat (c.toNat + 32) else c

/-- Upper case of the letters a to z alone. -/
def asciiUpperChar (c : Char) : Char :=
  if isAsciiLower c then Char.ofNat (c.toNat - 32) else c

def asciiLower (s : String) : String := String.ofList (s.toList.map asciiLowerChar)

/-- Equality up to the case of A to Z. -/
def eqIgnoringAsciiCase (a b : String) : Bool :=
  a.toList.map asciiLowerChar == b.toList.map asciiLowerChar

/-- What a table of runs makes of a character; itself when no run covers it. -/
def mapRuns (runs : List CaseRun) (c : Char) : Char :=
  match runs.findSome? (·.target? c.toNat) with
  | some n => Char.ofNat n
  | none => c

/-- Lower case of a character out of context. -/
def lowerChar (c : Char) : List Char :=
  if isAscii c then [asciiLowerChar c]
  else if c = 'İ' then ['i', Char.ofNat 0x307]
  else [mapRuns lowerRuns c]

/-- Upper case of a character. -/
def upperChar (c : Char) : List Char :=
  if isAscii c then [asciiUpperChar c]
  else
    match upperSequences.lookup c.toNat with
    | some ns => ns.map Char.ofNat
    | none => [mapRuns upperRuns c]

/-- Past the characters that casing looks through there is a cased one. -/
def reachesCased (s : List Char) : Bool :=
  match s.dropWhile (inRanges ignorableRanges) with
  | [] => false
  | c :: _ => inRanges casedRanges c

/-- A sigma between `before` (nearest character first) and `after` ends a word. -/
def endsWord (before after : List Char) : Bool :=
  reachesCased before && !reachesCased after

/-- Lower case of a text, `before` holding what stands to its left, nearest first. -/
def lowerFrom (before : List Char) : List Char → List Char
  | [] => []
  | c :: rest =>
    (if c = 'Σ' then [if endsWord before rest then 'ς' else 'σ'] else lowerChar c) ++
      lowerFrom (c :: before) rest

def lowerChars (s : List Char) : List Char := lowerFrom [] s

def lower (s : String) : String := String.ofList (lowerChars s.toList)

def upperChars (s : List Char) : List Char := s.flatMap upperChar

def upper (s : String) : String := String.ofList (upperChars s.toList)

end SignatureDesk.Text
