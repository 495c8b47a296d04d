/-
Who a token speaks for: the check that the configuration asks for, and the
subject and roles of a token that passes it.
-/
import SignatureDesk.Config.Basic
import SignatureDesk.Identity.Pem
import SignatureDesk.Identity.Token

namespace SignatureDesk.Identity

/-- What a token says about its holder. -/
structure Holder where
  subject : Option String
  roles : List String
deriving Repr, DecidableEq

structure Verifier where
  key : TokenKey
  rolesClaim : String
  adminRole : String
deriving Repr, DecidableEq

namespace Verifier

/-- The check that a configuration asks for; none when it names no key. The
public key comes before the secret; `read` gives the text of a file, or says why
it cannot be read. -/
def ofConfig (auth : Config.Auth) (read : String → Except String String) :
    Except Failure (Option Verifier) :=
  let verifier (key : TokenKey) : Verifier := ⟨key, auth.rolesClaim, auth.adminRole⟩
  match auth.publicKeyPath, auth.secret with
  | some path, _ =>
    match read path with
    | .error e => .error (.configuration ("Unable to read public key " ++ path ++ ": " ++ e))
    | .ok s =>
      match rsaKeyBytes s with
      | .error e => .error (.configuration ("Invalid RSA public key " ++ path ++ ": " ++ e.text))
      | .ok bytes => .ok (some (verifier (.rsa bytes)))
  | none, some s => .ok (some (verifier (.secret (Text.utf8 s))))
  | none, none => .ok none

/-- The roles that a claim lists: the texts in a list, or a text alone. -/
def rolesOf : Option Json → List String
  | some (.arr items) => items.filterMap Json.str?
  | some (.str role) => [role]
  | _ => []

/-- What the claims of a token say, for the claim that holds the roles. -/
def holderOf (rolesClaim : String) (claims : Json) : Holder :=
  ⟨(claims.get? "sub").bind Json.str?, rolesOf (claims.get? rolesClaim)⟩

/-- Checks a token at a time in seconds. -/
def verify (v : Verifier) (now : Int) (token : String) : Except Failure Holder :=
  match checkToken v.key now token with
  | .ok claims => .ok (holderOf v.rolesClaim claims)
  | .error e => .error (.unauthorized ("Invalid id token: " ++ e.text))

/-- Whether a holder has the role of administrators, in any case of A to Z. -/
def isAdmin (v : Verifier) (h : Holder) : Bool :=
  h.roles.any fun role => Text.eqIgnoringAsciiCase role v.adminRole

end Verifier
end SignatureDesk.Identity
