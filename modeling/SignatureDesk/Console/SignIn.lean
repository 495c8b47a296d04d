/-
Signing in. An identity is exchanged for keys with the console's own account;
what the session may do comes from the groups of the identity's user record and
from its token, where tokens are checked at all.
-/
import SignatureDesk.Console.Operation
import SignatureDesk.Identity.Verifier
import SignatureDesk.Remote.Platform
import SignatureDesk.Session.Id

namespace SignatureDesk

/-- When a request is handled, and the id of the session that it may open. -/
structure Moment where
  now : Instant
  freshId : SessionId
deriving Repr, DecidableEq

namespace Login

/-- The identity, without white space around it. -/
def identity (l : Login) : String := Text.trim l.lfId

/-- What a token allows. It has to be valid when there is a verifier, and counts
for nothing when there is none. -/
def tokenCapabilities (l : Login) (verifier : Option Identity.Verifier) (now : Instant) :
    Except Failure (List Capability) :=
  match l.idToken, verifier with
  | some token, some v =>
    (v.verify now.seconds token).map fun holder => if v.isAdmin holder then [.admin] else []
  | _, _ => .ok []

/-- What the roles of a user allow. -/
def roleCapabilities (r : UserRoles) : List Capability :=
  (if r.isAdmin then [.admin] else []) ++ (if r.isProjectManager then [.projectManager] else [])

/-- The session of a login whose keys and user record are known. -/
def session (l : Login) (m : Moment) (keys : ApiKeys) (record : Option PlatformUser)
    (proved : List Capability) : Session :=
  let userId := record.map fun u => u.userId.getD l.identity
  let granted := (record.map fun u => roleCapabilities u.roles).getD []
  Session.opened m.freshId l.identity userId keys l.idToken (proved ++ granted) m.now

/-- Signs in; `account` is the console's own. -/
def perform (l : Login) (verifier : Option Identity.Verifier) (account : Credentials) (m : Moment) :
    Remote Session := do
  if l.identity.isEmpty then throw (.validation "lfId must not be empty")
  else
    let proved ← Remote.ofExcept (l.tokenCapabilities verifier m.now)
    let keys ← Platform.keys account l.identity
    let record ← Remote.orNotFound (Platform.user (.signed keys) l.identity)
    return l.session m keys record proved

end Login

/-- What a new session is answered with. -/
def Session.grant (s : Session) : Json :=
  .obj
    [("token", .str s.id.write),
     ("lfId", .str s.lfId),
     ("userId", .ofOption s.userId),
     ("capabilities", Capability.codec.list.encode s.capabilities)]

end SignatureDesk
