/-
How a call to a service is signed. A pair of keys stands for one identity; the
signature is a code over four lines (the method in upper case, the path with
its query, the time, and the digest of the body), and travels with the key's id
in one header and the time in another.
-/
import SignatureDesk.Digest.Hmac
import SignatureDesk.Json.Codec
import SignatureDesk.Text.Base64
import SignatureDesk.Text.Hex
import SignatureDesk.Text.Quoted
import SignatureDesk.Text.Utf8
import SignatureDesk.Time.Instant

namespace SignatureDesk

/-- A key and its secret. -/
structure ApiKeys where
  id : String
  secret : String
deriving Repr, DecidableEq, Inhabited

namespace ApiKeys

def codec : Codec ApiKeys :=
  (Codec.record (.required "keyId" [] .text <| .required "secret" [] .text .nil)).map
    (fun (id, secret, ()) => ⟨id, secret⟩) (fun k => (k.id, k.secret, ()))

/-- The keys as they may be logged: without the secret. -/
def shown (k : ApiKeys) : String :=
  "ApiKeys \x7b key_id: " ++ Text.quoted k.id ++ ", secret: " ++ Text.quoted "<redacted>" ++ " \x7d"

end ApiKeys

/-- What a signature adds to a call. -/
structure SignedHeaders where
  authorization : String
  date : String
deriving Repr, DecidableEq

namespace Signing

def scheme : String := "CINCO"

def dateHeader : String := "x-cinco-date"

/-- The four lines that are signed. -/
def canonical (method path date : String) (body : List UInt8) : String :=
  Text.upper method ++ "\n" ++ path ++ "\n" ++ date ++ "\n" ++
    String.ofList (Text.hex (Sha256.digest body))

/-- The code of the lines under a secret, in base 64. -/
def code (secret canonical : String) : String :=
  String.ofList (Text.Base64.encode (Hmac.code (Text.utf8 secret) (Text.utf8 canonical)))

end Signing

/-- The headers of a call made at an instant. -/
def ApiKeys.sign (k : ApiKeys) (method path : String) (body : List UInt8) (at_ : Instant) :
    SignedHeaders :=
  let date := at_.writeSeconds
  ⟨Signing.scheme ++ " " ++ k.id ++ ":" ++ Signing.code k.secret (Signing.canonical method path date body),
   date⟩

end SignatureDesk
