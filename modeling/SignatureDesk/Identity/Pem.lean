/-
Keys in text files: data in base 64 between two lines that name what it is.
-/
import SignatureDesk.Identity.Der
import SignatureDesk.Text.Base64
import SignatureDesk.Text.White

namespace SignatureDesk.Identity

/-- Named data. -/
structure Pem where
  label : String
  bytes : List UInt8
deriving Repr

namespace Pem

/-- What stands before a mark and behind it. -/
def splitAt? (mark : List Char) : List Char → Option (List Char × List Char)
  | [] => if mark.isEmpty then some ([], []) else none
  | c :: rest =>
    if mark.isPrefixOf (c :: rest) then some ([], (c :: rest).drop mark.length)
    else (splitAt? mark rest).map fun (before, behind) => (c :: before, behind)

/-- The data behind any headers, which an empty line ends; each of them has a colon. -/
def withoutHeaders (body : List Char) : Option (List Char) :=
  match (splitAt? ['\n', '\n'] body).or (splitAt? ['\r', '\n', '\r', '\n'] body) with
  | none => some body
  | some (headers, data) =>
    if (headers.splitOn '\n').all fun line => line.isEmpty || line.contains ':' then some data
    else none

/-- Reads the first named data of a text. -/
def read? (s : String) : Option Pem := do
  let (_, s) ← splitAt? "-----BEGIN ".toList s.toList
  let (label, s) ← splitAt? "-----".toList s
  let (body, s) ← splitAt? "-----END ".toList (s.dropWhile Text.isWhite)
  let (closing, _) ← splitAt? "-----".toList s
  if label.isEmpty || label ≠ closing then none
  let data ← withoutHeaders body
  some ⟨String.ofList label, ← Text.Base64.decode? (data.filter (!Text.isWhite ·))⟩

end Pem

/-- Why a file holds no key. -/
inductive KeyFault where
  | format
  /-- The data names a key and does not hold one. -/
  | content
deriving Repr, DecidableEq

def KeyFault.text : KeyFault → String
  | .format => "InvalidKeyFormat"
  | .content => "InvalidEcdsaKey"

/-- The kinds of keys that data may name. -/
inductive KeyKind where
  | rsa
  | elliptic
  | edwards
deriving Repr, DecidableEq

def KeyKind.ofObjectId? : List Nat → Option KeyKind
  | [1, 2, 840, 113549, 1, 1, 1] => some .rsa
  | [1, 2, 840, 10045, 2, 1] => some .elliptic
  | [1, 3, 101, 112] => some .edwards
  | _ => none

/-- The kind that some data names first. -/
def KeyKind.find? (values : List Der) : Option KeyKind :=
  Der.findAmong (fun
    | .objectId components => KeyKind.ofObjectId? components
    | _ => none) values

/-- The first string of bits or bytes in some data. -/
def firstBytes? (values : List Der) : Option (List UInt8) :=
  Der.findAmong (fun
    | .bits bytes => some bytes
    | .octets bytes => some bytes
    | _ => none) values

/-- The bytes of the RSA key in the text of a file: the data itself, or, in data
of a wider form, the string in it. -/
def rsaKeyBytes (s : String) : Except KeyFault (List UInt8) :=
  match (Pem.read? s).bind fun p => (Der.read? p.bytes).map (p, ·) with
  | none => .error .format
  | some (p, values) =>
    if p.label = "RSA PUBLIC KEY" || p.label = "RSA PRIVATE KEY" then .ok p.bytes
    else if ["PUBLIC KEY", "PRIVATE KEY", "CERTIFICATE"].contains p.label &&
        KeyKind.find? values = some .rsa then
      match firstBytes? values with
      | some bytes => .ok bytes
      | none => .error .content
    else .error .format

end SignatureDesk.Identity
