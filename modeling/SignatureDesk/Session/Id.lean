/-
How the id of a session is written and read: 32 hexadecimal digits, with hyphens
after the 8th, 12th, 16th and 20th when written. Readers may leave the hyphens
out, put braces around the digits with hyphens, or `urn:uuid:` before them.
-/
import SignatureDesk.Session.Basic

namespace SignatureDesk.SessionId

/-- The lengths of the groups between hyphens. -/
def groupLengths : List Nat := [8, 4, 4, 4, 12]

/-- Cuts digits into groups. -/
def groups : List Nat → List Char → List (List Char)
  | [], _ => []
  | n :: rest, ds => ds.take n :: groups rest (ds.drop n)

def hyphenated (ds : List Char) : List Char := List.intercalate ['-'] (groups groupLengths ds)

/-- The 32 digits of an id. -/
def digits (id : SessionId) : List Char :=
  let ds := Nat.toDigits 16 id.number
  List.replicate (32 - ds.length) '0' ++ ds

/-- The written form. -/
def write (id : SessionId) : String := String.ofList (hyphenated id.digits)

/-- The id of 32 digits of either case. -/
def ofDigits? (ds : List Char) : Option SessionId :=
  if ds.length = 32 then
    (ds.foldlM (fun n c => (Text.hexValue? c).map (n * 16 + ·)) 0).map SessionId.mk
  else none

/-- The id of digits with hyphens in their places. -/
def ofHyphenated? (s : List Char) : Option SessionId :=
  let ds := s.filter (· ≠ '-')
  if hyphenated ds = s then ofDigits? ds else none

/-- Reads an id in any of its forms. -/
def read? (s : String) : Option SessionId :=
  let cs := s.toList
  let urn := "urn:uuid:".toList
  match cs with
  | '\x7b' :: rest => if rest.getLast? = some '\x7d' then ofHyphenated? rest.dropLast else none
  | _ =>
    if urn.isPrefixOf cs then ofHyphenated? (cs.drop urn.length)
    else if cs.length = 32 then ofDigits? cs
    else ofHyphenated? cs

end SignatureDesk.SessionId
