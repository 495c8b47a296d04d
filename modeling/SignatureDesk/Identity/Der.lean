/-
The distinguished encoding of structured data, as far as it is needed to find a
public key inside it: sequences, object identifiers and strings of bits or
bytes. Everything else is only checked for being well-formed.
-/
import SignatureDesk.Text.Utf8

namespace SignatureDesk.Identity

inductive Der where
  | sequence (items : List Der)
  | objectId (components : List Nat)
  | bits (bytes : List UInt8)
  | octets (bytes : List UInt8)
  | other
deriving Repr, Inhabited

namespace Der

/-- A number of seven bits a byte, the high bit set on all bytes but the last. -/
def takeBase128 (n : Nat) : List UInt8 → Option (Nat × List UInt8)
  | [] => none
  | b :: rest =>
    let n := n * 128 + b.toNat % 128
    if b < 0x80 then some (n, rest) else takeBase128 n rest

/-- All the numbers of that form in some bytes. -/
def base128s : Nat → List UInt8 → Option (List Nat)
  | _, [] => some []
  | 0, _ => none
  | fuel + 1, bytes => do
    let (n, rest) ← takeBase128 0 bytes
    some (n :: (← base128s fuel rest))

def ofBytes (bytes : List UInt8) : Nat := bytes.foldl (fun n b => n * 256 + b.toNat) 0

/-- A length: below 128 in one byte, otherwise in as many bytes as the first says. -/
def takeLength : List UInt8 → Option (Nat × List UInt8)
  | [] => none
  | b :: rest =>
    if b < 0x80 then some (b.toNat, rest)
    else
      let n := b.toNat - 0x80
      if rest.length < n || 8 < n then none else some (ofBytes (rest.take n), rest.drop n)

/-- The number of a tag, which goes on behind the first byte from 31 on. -/
def takeTag (first : UInt8) (rest : List UInt8) : Option (Nat × List UInt8) :=
  if first.toNat % 32 = 31 then takeBase128 0 rest else some (first.toNat % 32, rest)

/-- The components of an object identifier; the first byte holds two. -/
def objectId? : List UInt8 → Option (List Nat)
  | [] => none
  | b :: rest => do
    let first := min (b.toNat / 40) 2
    some (first :: (b.toNat - 40 * first) :: (← base128s rest.length rest))

def isPrintable (b : UInt8) : Bool :=
  let c := Char.ofNat b.toNat
  ('A' ≤ c && c ≤ 'Z') || ('a' ≤ c && c ≤ 'z') || ('0' ≤ c && c ≤ '9') ||
    " '()+,-./:=?".toList.contains c

/-- The content of a value that holds no others. -/
def primitive? (tag : Nat) (body : List UInt8) : Option Der :=
  match tag with
  | 0x01 => if body.length = 1 then some .other else none
  | 0x03 =>
    match body with
    | [] => some (.bits [])
    | unused :: bytes => if bytes.length * 8 < unused.toNat then none else some (.bits bytes)
  | 0x04 => some (.octets body)
  | 0x06 => (objectId? body).map .objectId
  | 0x0C => (Text.ofUtf8? body).map fun _ => .other
  | 0x13 => if body.all isPrintable then some .other else none
  | 0x16 => if body.all (· < 0x80) then some .other else none
  | 0x17 => if body.length = 13 then some .other else none
  | _ => some .other

/-- Reads values one after the other; there has to be one at least. -/
def readAll : Nat → List UInt8 → Option (List Der)
  | 0, _ => none
  | _, [] => none
  | fuel + 1, first :: rest => do
    let (tag, rest) ← takeTag first rest
    let (length, rest) ← takeLength rest
    if rest.length < length then none
    let body := rest.take length
    let universal := first < 0x40
    let value ←
      if universal && tag = 0x10 then (readAll fuel body).map .sequence
      else if universal && tag = 0x11 then (readAll fuel body).map fun _ => .other
      else if universal then primitive? tag body
      else some .other
    let after := rest.drop length
    if after.isEmpty then some [value] else some (value :: (← readAll fuel after))

/-- The values in some bytes. -/
def read? (bytes : List UInt8) : Option (List Der) := readAll (bytes.length + 1) bytes

mutual

/-- The first result that a test gives on the values, sequences searched in depth. -/
def findIn {α : Type} (test : Der → Option α) : Der → Option α
  | .sequence items => findAmong test items
  | v => test v

def findAmong {α : Type} (test : Der → Option α) : List Der → Option α
  | [] => none
  | v :: rest => (findIn test v).or (findAmong test rest)

end

end Der
end SignatureDesk.Identity
