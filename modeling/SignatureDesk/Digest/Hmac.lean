/-
HMAC over SHA-256: a message's code under a secret of any length.
-/
import SignatureDesk.Digest.Sha256

namespace SignatureDesk.Hmac

/-- The secret as a block of 64 bytes: its digest if it is longer, zeros behind. -/
def block (secret : List UInt8) : List UInt8 :=
  let key := if secret.length > 64 then Sha256.digest secret else secret
  key ++ List.replicate (64 - key.length) 0

/-- The code of a message. -/
def code (secret message : List UInt8) : List UInt8 :=
  let key := block secret
  let inner := Sha256.digest (key.map (· ^^^ 0x36) ++ message)
  Sha256.digest (key.map (· ^^^ 0x5C) ++ inner)

end SignatureDesk.Hmac
