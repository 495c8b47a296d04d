/-
White space and trimming. The class is Unicode's White_Space property, which
is larger than the one of `Char.isWhitespace`; trimming removes it at both ends
and nothing else.
-/
namespace SignatureDesk.Text

/-- The White_Space property. -/
def isWhite (c : Char) : Bool :=
  let n := c.toNat
  (9 ≤ n && n ≤ 13) || n == 0x20 || n == 0x85 || n == 0xA0 || n == 0x1680 ||
    (0x2000 ≤ n && n ≤ 0x200A) || n == 0x2028 || n == 0x2029 || n == 0x202F || n == 0x205F ||
    n == 0x3000

/-- Drops what satisfies `p` from the end. -/
def dropRightWhile {α : Type} (p : α → Bool) (s : List α) : List α :=
  (s.reverse.dropWhile p).reverse

def trimLeft (s : List Char) : List Char := s.dropWhile isWhite

def trimRight (s : List Char) : List Char := dropRightWhile isWhite s

def trimChars (s : List Char) : List Char := trimRight (trimLeft s)

/-- A text without the white space at its ends. -/
def trim (s : String) : String := String.ofList (trimChars s.toList)

/-- Nothing but white space, or nothing at all. -/
def isBlank (s : String) : Bool := s.toList.all isWhite

end SignatureDesk.Text
