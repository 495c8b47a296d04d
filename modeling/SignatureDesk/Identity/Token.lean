/-
Identity tokens: a header and claims, each JSON in base 64, and a signature over
both. A token counts when its header names the algorithm it is checked with, its
signature is right, and it has a time of expiry that has not passed.
-/
import SignatureDesk.Digest.Hmac
import SignatureDesk.Identity.Rsa
import SignatureDesk.Json.Codec
import SignatureDesk.Json.Reader
import SignatureDesk.Text.Base64

namespace SignatureDesk.Identity

/-- Why a token does not count. -/
inductive TokenFault where
  /-- It is not three parts joined by points. -/
  | parts
  | base64
  | json
  | algorithm
  | signature
  | noExpiry
  | expired
deriving Repr, DecidableEq

def TokenFault.text : TokenFault → String
  | .parts => "InvalidToken"
  | .base64 => "Base64 error: "
  | .json => "JSON error: "
  | .algorithm => "InvalidAlgorithm"
  | .signature => "InvalidSignature"
  | .noExpiry => "Missing required claim: exp"
  | .expired => "ExpiredSignature"

/-- What tokens are checked with. -/
inductive TokenKey where
  /-- A secret shared with those who sign. -/
  | secret (bytes : List UInt8)
  /-- The bytes of the public key of those who sign. -/
  | rsa (bytes : List UInt8)
deriving Repr, DecidableEq

/-- The algorithm that a key is for. -/
def TokenKey.algorithm : TokenKey → String
  | .secret _ => "HS256"
  | .rsa _ => "RS256"

/-- The algorithms that a header may name. -/
def algorithms : List String :=
  ["HS256", "HS384", "HS512", "ES256", "ES384", "RS256", "RS384", "RS512", "PS256", "PS384",
   "PS512", "EdDSA"]

/-! ## Headers -/

namespace Header

/-- A codec that only reads, for values that are checked and then dropped. -/
def checking (p : Json → Bool) : Codec Unit :=
  ⟨fun v => if p v then .ok () else .error .shape, fun () => .null⟩

def isText (v : Json) : Bool := v.str?.isSome

def isTexts : Json → Bool
  | .arr items => items.all isText
  | _ => false

/-- A member that is left out, null, or passes a test. -/
def memberIs (v : Json) (key : String) (p : Json → Bool) : Bool :=
  match v.get? key with
  | none | some .null => true
  | some w => p w

def hasText (v : Json) (key : String) : Bool := ((v.get? key).map isText).getD false

def isCurve (v : Json) (key : String) : Bool :=
  ((v.get? key).bind Json.str?).any ["P-256", "P-384", "P-521", "Ed25519"].contains

/-- The algorithms that an embedded key may be for. -/
def keyAlgorithms : List String := algorithms ++ ["RSA1_5", "RSA-OAEP", "RSA-OAEP-256"]

/-- A key embedded in a header, of one of four types. -/
def isKey (v : Json) : Bool :=
  let common :=
    memberIs v "use" isText && memberIs v "key_ops" isTexts &&
    memberIs v "alg" (fun w => w.str?.any keyAlgorithms.contains) &&
    memberIs v "kid" isText && memberIs v "x5u" isText && memberIs v "x5c" isTexts &&
    memberIs v "x5t" isText && memberIs v "x5t#S256" isText
  common && match (v.get? "kty").bind Json.str? with
    | some "EC" => isCurve v "crv" && hasText v "x" && hasText v "y"
    | some "RSA" => hasText v "n" && hasText v "e"
    | some "oct" => hasText v "k"
    | some "OKP" => isCurve v "crv" && hasText v "x"
    | _ => false

/-- The header, of which only the algorithm is kept. -/
def codec : Codec String :=
  let optional (key : String) (p : Json → Bool) {γ : Type} (rest : Fields γ) : Fields (Unit × γ) :=
    .cons key [] (checking fun v => v.isNull || p v) (.absent ()) (fun _ => true) rest
  (Codec.record
    (optional "typ" isText <|
     .required "alg" [] (.name (fun s => if algorithms.contains s then some s else none) id) <|
     optional "cty" isText <|
     optional "jku" isText <|
     optional "jwk" isKey <|
     optional "kid" isText <|
     optional "x5u" isText <|
     optional "x5c" isTexts <|
     optional "x5t" isText <|
     optional "x5t#S256" isText .nil)).map
    (fun (_, algorithm, _) => algorithm) (fun a => ((), a, (), (), (), (), (), (), (), (), ()))

end Header

/-! ## Claims -/

namespace Claims

/-- A time: none when the value is no number that fits one. A list or an object
that holds anything breaks the claims altogether. -/
def time : Codec (Option Nat) :=
  ⟨fun v => match v with
    | .num (.int z) => .ok (if 0 ≤ z then some z.toNat else none)
    | .num (.float x) =>
      let bound := Nat.pow 2 64 * Nat.pow 2 Binary64.unitExponent
      .ok (if (x.negative && x.units != 0) || bound ≤ x.units then none else some x.roundNat)
    | .arr (_ :: _) => .error .shape
    | .obj (_ :: _) => .error .shape
    | .unread _ => .error .text
    | _ => .ok none,
   fun _ => .null⟩

/-- The subject, which may be any value that is not made of others. -/
def subject : Codec Unit :=
  Header.checking fun
    | .arr _ | .obj _ | .unread _ => false
    | _ => true

/-- The claims that are looked at: the time of expiry is kept, and the shape of
some others checked. -/
def codec : Codec (Option Nat) :=
  (Codec.record
    (.cons "exp" [] time (.default none) (fun _ => true) <|
     .cons "nbf" [] time (.default none) (fun _ => true) <|
     .cons "sub" [] subject (.absent ()) (fun _ => true) <|
     .cons "iss" [] (Header.checking fun _ => true) (.absent ()) (fun _ => true) <|
     .cons "aud" [] (Header.checking fun _ => true) (.absent ()) (fun _ => true) .nil)).map
    (fun (expiry, _) => expiry) (fun e => (e, none, (), (), (), ()))

end Claims

/-! ## Checking -/

/-- What stands before the last point of a text and behind it. -/
def splitLast? (s : List Char) : Option (List Char × List Char) :=
  if s.contains '.' then
    let behind := (s.reverse.takeWhile (· ≠ '.')).reverse
    some (s.take (s.length - behind.length - 1), behind)
  else none

/-- The JSON of a part of a token. -/
def readPart {α : Type} (c : Codec α) (part : List Char) : Except TokenFault α :=
  match Text.Base64.decodeUrl? part with
  | none => .error .base64
  | some bytes =>
    match Text.ofUtf8? bytes with
    | none => .error .json
    | some s => (Codec.ofRead c (Json.readText s)).mapError fun _ => .json

/-- Whether a signature is right for a message. -/
def TokenKey.verify (k : TokenKey) (message signature : List Char) : Except TokenFault Bool :=
  let bytes := Text.utf8 (String.ofList message)
  match k with
  | .secret shared => .ok (signature == Text.Base64.encodeUrl (Hmac.code shared bytes))
  | .rsa key =>
    match Text.Base64.decodeUrl? signature with
    | none => .error .base64
    | some s => .ok ((RsaKey.read? key).any fun k => k.verify bytes s)

/-- The seconds by which clocks may differ. -/
def leeway : Int := 60

/-- The claims of a token, if it counts at a time in seconds. -/
def checkToken (k : TokenKey) (now : Int) (token : String) : Except TokenFault Json := do
  match splitLast? token.toList with
  | none => .error .parts
  | some (message, signature) =>
    match splitLast? message with
    | none => .error .parts
    | some (header, claims) => do
      let algorithm ← readPart Header.codec header
      if algorithm ≠ k.algorithm then .error .algorithm
      else if !(← k.verify message signature) then .error .signature
      else do
        let value ← readPart .any claims
        match ← readPart Claims.codec claims with
        | none => .error .noExpiry
        | some expiry => if (expiry : Int) < now - leeway then .error .expired else .ok value

end SignatureDesk.Identity
