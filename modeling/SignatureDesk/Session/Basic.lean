/-
Sessions: who signed in, with what keys, and what they may do. Capabilities form
a set that always holds `authenticated`; they are listed in one fixed order.
-/
import SignatureDesk.Remote.Call

namespace SignatureDesk

inductive Capability where
  | authenticated
  | admin
  | projectManager
deriving Repr, DecidableEq

namespace Capability

def all : List Capability := [.authenticated, .admin, .projectManager]

/-- The name in data. -/
def name : Capability → String
  | .authenticated => "authenticated"
  | .admin => "admin"
  | .projectManager => "project_manager"

/-- The name in messages. -/
def title : Capability → String
  | .authenticated => "Authenticated"
  | .admin => "Admin"
  | .projectManager => "ProjectManager"

def ofName? (s : String) : Option Capability := all.find? fun c => c.name == s

def codec : Codec Capability := .name ofName? name

/-- The members of a list as a set: in the fixed order, each once. -/
def set (cs : List Capability) : List Capability := all.filter cs.contains

end Capability

/-- The id of a session, a number of 128 bits. -/
structure SessionId where
  number : Nat
deriving Repr, DecidableEq

structure Session where
  id : SessionId
  lfId : String
  /-- The user's id on the platform, when the platform knows the identity. -/
  userId : Option String
  keys : ApiKeys
  /-- The identity token given at login. -/
  idToken : Option String
  capabilities : List Capability
  created : Instant
deriving Repr, DecidableEq

namespace Session

/-- A new session; whoever has one is authenticated. -/
def opened (id : SessionId) (lfId : String) (userId : Option String) (keys : ApiKeys)
    (idToken : Option String) (capabilities : List Capability) (created : Instant) : Session :=
  ⟨id, lfId, userId, keys, idToken, Capability.set (.authenticated :: capabilities), created⟩

def has (s : Session) (c : Capability) : Bool := s.capabilities.contains c

/-- Calls to the platform are signed with the session's keys. -/
def platformCredentials (s : Session) : Credentials := .signed s.keys

/-- Calls to the agreement service carry the identity token, or a signature when there is none. -/
def claCredentials (s : Session) : Credentials :=
  match s.idToken with
  | some token => .bearer token
  | none => s.platformCredentials

/-- The session acts on its own user record. -/
def isSelf (s : Session) (userId : String) : Bool := s.userId == some userId || s.lfId == userId

end Session
end SignatureDesk
