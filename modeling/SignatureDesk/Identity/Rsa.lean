/-
RSA signatures of SHA-256 digests, in the encoding of PKCS #1 version 1.5: a
signature is right when its power to the public exponent is exactly the padded
digest.
-/
import SignatureDesk.Digest.Sha256
import SignatureDesk.Identity.Der

namespace SignatureDesk.Identity

structure RsaKey where
  modulus : Nat
  exponent : Nat
deriving Repr, DecidableEq

namespace RsaKey

/-- A length in its shortest form, of at most two bytes. -/
def takeStrictLength : List UInt8 → Option (Nat × List UInt8)
  | [] => none
  | b :: rest =>
    if b < 0x80 then some (b.toNat, rest)
    else
      match b, rest with
      | 0x81, c :: rest => if c < 0x80 then none else some (c.toNat, rest)
      | 0x82, c :: d :: rest => if c = 0 then none else some (c.toNat * 256 + d.toNat, rest)
      | _, _ => none

/-- The content of a value with a given tag, and what follows it. -/
def takeStrict (tag : UInt8) : List UInt8 → Option (List UInt8 × List UInt8)
  | [] => none
  | t :: rest => do
    if t ≠ tag then none
    let (length, rest) ← takeStrictLength rest
    if rest.length < length then none
    some (rest.take length, rest.drop length)

/-- A positive integer without superfluous zeros in front. -/
def positive? : List UInt8 → Option Nat
  | [] => none
  | [0] => none
  | 0 :: b :: rest => if b < 0x80 then none else some (Der.ofBytes (b :: rest))
  | b :: rest => if b < 0x80 then some (Der.ofBytes (b :: rest)) else none

/-- The number of bytes of a positive number. -/
def byteLength (n : Nat) : Nat := n.log2 / 8 + 1

/-- Reads a sequence of modulus and exponent, both odd, the modulus of 2048 to
8192 bits and the exponent between 3 and 33 bits. -/
def read? (bytes : List UInt8) : Option RsaKey := do
  let (body, after) ← takeStrict 0x30 bytes
  let (modulus, rest) ← takeStrict 0x02 body
  let (exponent, rest) ← takeStrict 0x02 rest
  if !after.isEmpty || !rest.isEmpty then none
  let n ← positive? modulus
  let e ← positive? exponent
  if n % 2 = 1 && 256 ≤ byteLength n && n < Nat.pow 2 8192 && e % 2 = 1 && 3 ≤ e && e < Nat.pow 2 33 then
    some ⟨n, e⟩
  else none

/-- `base ^ exponent % modulus`. -/
def powMod (modulus : Nat) (base exponent : Nat) : Nat :=
  if exponent = 0 then 1 % modulus
  else
    let half := powMod modulus base (exponent / 2)
    let square := half * half % modulus
    if exponent % 2 = 1 then square * base % modulus else square

/-- What stands before a digest to say that it is one of SHA-256. -/
def digestMark : List UInt8 :=
  [0x30, 0x31, 0x30, 0x0D, 0x06, 0x09, 0x60, 0x86, 0x48, 0x01, 0x65, 0x03, 0x04, 0x02, 0x01, 0x05,
   0x00, 0x04, 0x20]

/-- The digest of a message, padded to a number of bytes. -/
def padded (length : Nat) (message : List UInt8) : List UInt8 :=
  let tail := digestMark ++ Sha256.digest message
  [0x00, 0x01] ++ List.replicate (length - tail.length - 3) 0xFF ++ [0x00] ++ tail

def verify (k : RsaKey) (message signature : List UInt8) : Bool :=
  let s := Der.ofBytes signature
  signature.length = byteLength k.modulus && s < k.modulus &&
    powMod k.modulus s k.exponent == Der.ofBytes (padded (byteLength k.modulus) message)

end RsaKey
end SignatureDesk.Identity
