/-
Base 64: three bytes as four digits. There are two alphabets, the standard one,
written with its padding, and the one that is safe in an address, written
without. Each is read only in the form in which it is written, with nothing in
the bits past the last byte.
-/
namespace SignatureDesk.Text.Base64

/-- The digits up to the two in which the alphabets differ. -/
def digit (c62 c63 : Char) (n : Nat) : Char :=
  if n < 26 then Char.ofNat ('A'.toNat + n)
  else if n < 52 then Char.ofNat ('a'.toNat + (n - 26))
  else if n < 62 then Char.ofNat ('0'.toNat + (n - 52))
  else if n = 62 then c62
  else c63

/-- Writes bytes with a choice of digits, `pad` standing for a missing digit. -/
def encodeWith (digit : Nat → Char) (pad : List Char) : List UInt8 → List Char
  | [] => []
  | [a] => [digit (a.toNat / 4), digit (a.toNat % 4 * 16)] ++ pad ++ pad
  | [a, b] =>
    [digit (a.toNat / 4), digit (a.toNat % 4 * 16 + b.toNat / 16), digit (b.toNat % 16 * 4)] ++ pad
  | a :: b :: c :: rest =>
    [digit (a.toNat / 4), digit (a.toNat % 4 * 16 + b.toNat / 16),
      digit (b.toNat % 16 * 4 + c.toNat / 64), digit (c.toNat % 64)] ++ encodeWith digit pad rest

/-- The standard form. -/
def encode (bytes : List UInt8) : List Char := encodeWith (digit '+' '/') ['='] bytes

/-- The form for addresses. -/
def encodeUrl (bytes : List UInt8) : List Char := encodeWith (digit '-' '_') [] bytes

/-- The value of a digit. -/
def value? (c62 c63 c : Char) : Option Nat :=
  if 'A' ≤ c ∧ c ≤ 'Z' then some (c.toNat - 'A'.toNat)
  else if 'a' ≤ c ∧ c ≤ 'z' then some (c.toNat - 'a'.toNat + 26)
  else if '0' ≤ c ∧ c ≤ '9' then some (c.toNat - '0'.toNat + 52)
  else if c = c62 then some 62
  else if c = c63 then some 63
  else none

/-- Reads the values of digits back into bytes. -/
def ofValues? : List Nat → Option (List UInt8)
  | [] => some []
  | [_] => none
  | [a, b] => if b % 16 = 0 then some [UInt8.ofNat (a * 4 + b / 16)] else none
  | [a, b, c] =>
    if c % 4 = 0 then some [UInt8.ofNat (a * 4 + b / 16), UInt8.ofNat (b % 16 * 16 + c / 4)]
    else none
  | a :: b :: c :: d :: rest => do
    let bytes ← ofValues? rest
    some (UInt8.ofNat (a * 4 + b / 16) :: UInt8.ofNat (b % 16 * 16 + c / 4) ::
      UInt8.ofNat (c % 4 * 64 + d) :: bytes)

/-- Reads the form for addresses. -/
def decodeUrl? (s : List Char) : Option (List UInt8) := do ofValues? (← s.mapM (value? '-' '_'))

/-- Reads the standard form: whole groups of four, the last with its padding. -/
def decode? (s : List Char) : Option (List UInt8) := do
  let digits := dropRightPad 2 s
  if s.length % 4 ≠ 0 then none
  ofValues? (← digits.mapM (value? '+' '/'))
where
  /-- Drops up to a number of padding characters from the end. -/
  dropRightPad : Nat → List Char → List Char
    | 0, s => s
    | n + 1, s => if s.getLast? = some '=' then dropRightPad n s.dropLast else s

end SignatureDesk.Text.Base64
