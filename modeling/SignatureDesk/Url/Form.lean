/-
The form notation of queries: `key=value` pairs joined by `&`, a plus sign for a
space, and every other byte that is not a letter, a digit or one of four marks
percent-encoded.
-/
import SignatureDesk.Url.Percent

namespace SignatureDesk.Url.Form

/-- Characters that stand for themselves. -/
def isPlain (c : Char) : Bool :=
  Text.isAsciiLetter c || Text.isAsciiDigit c || c = '*' || c = '-' || c = '.' || c = '_'

/-- A key or a value as it is written. -/
def encode (s : List Char) : List Char :=
  s.flatMap fun c =>
    if c = ' ' then ['+'] else if isPlain c then [c] else (String.utf8EncodeChar c).flatMap percentByte

def writePair (p : String × String) : List Char :=
  encode p.1.toList ++ '=' :: encode p.2.toList

/-- The pairs joined by `&`. -/
def writeChars : List (String × String) → List Char
  | [] => []
  | [p] => writePair p
  | p :: rest => writePair p ++ '&' :: writeChars rest

def write (pairs : List (String × String)) : String := String.ofList (writeChars pairs)

/-- The text that a key or value stands for. -/
def decode (s : List Char) : String :=
  Text.ofUtf8Lossy (percentDecode (s.map fun c => if c = '+' then ' ' else c))

/-- One pair: the key up to the first equals sign and the value behind it. -/
def readPair (s : List Char) : String × String :=
  (decode (s.takeWhile (· ≠ '=')), decode ((s.dropWhile (· ≠ '=')).drop 1))

/-- The pairs of a query, empty places left out. -/
def read (s : String) : List (String × String) :=
  ((s.toList.splitOn '&').filter fun part => !part.isEmpty).map readPair

end SignatureDesk.Url.Form
