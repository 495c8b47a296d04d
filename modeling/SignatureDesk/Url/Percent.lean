/-
Percent encoding: bytes outside of a set of characters as `%` and two digits.
Every part of an address has its own set; what lies outside ASCII is always
encoded, byte by byte.
-/
import SignatureDesk.Text.Case
import SignatureDesk.Text.Hex
import SignatureDesk.Text.Utf8

namespace SignatureDesk.Url

/-- A byte as `%` and two upper-case digits. -/
def percentByte (b : UInt8) : List Char :=
  '%' :: (Text.hexPair b).map Text.asciiUpperChar

/-- Encodes the characters that `keep` does not hold, and all past ASCII. -/
def percentEncode (keep : Char → Bool) (s : List Char) : List Char :=
  s.flatMap fun c =>
    if Text.isAscii c && keep c then [c] else (String.utf8EncodeChar c).flatMap percentByte

/-- The bytes of a text in which `%` and two digits stand for one. -/
def percentDecode : List Char → List UInt8
  | [] => []
  | [c] => String.utf8EncodeChar c
  | [c, d] => String.utf8EncodeChar c ++ String.utf8EncodeChar d
  | c :: a :: b :: rest =>
    if c = '%' then
      match Text.hexValue? a, Text.hexValue? b with
      | some high, some low => UInt8.ofNat (high * 16 + low) :: percentDecode rest
      | _, _ => String.utf8EncodeChar c ++ percentDecode (a :: b :: rest)
    else String.utf8EncodeChar c ++ percentDecode (a :: b :: rest)

def isControl (c : Char) : Bool := c.toNat < 32 || c.toNat = 127

/-- Kept in the fragment. -/
def keptInFragment (c : Char) : Bool := !isControl c && !" \"<>`".toList.contains c

/-- Kept in a segment of the path. -/
def keptInPath (c : Char) : Bool := keptInFragment c && !"#?\x7b\x7d".toList.contains c

/-- Kept in the name or the password before the host. -/
def keptInUser (c : Char) : Bool := keptInPath c && !"/:;=@[\\]^|".toList.contains c

/-- Kept in the query. -/
def keptInQuery (c : Char) : Bool := !isControl c && !" \"#<>'".toList.contains c

end SignatureDesk.Url
