/-
Calls to the two services behind the console, in its own terms: which service,
what is asked of it, and on whose behalf; and what comes back.
-/
import SignatureDesk.Dialogue
import SignatureDesk.Failure
import SignatureDesk.Json.Reader
import SignatureDesk.Signing

namespace SignatureDesk

inductive Service where
  /-- The agreement service. -/
  | cla
  /-- The member platform. -/
  | platform
deriving Repr, DecidableEq

inductive Method where
  | get
  | post
  | put
  | delete
deriving Repr, DecidableEq

def Method.name : Method → String
  | .get => "GET"
  | .post => "POST"
  | .put => "PUT"
  | .delete => "DELETE"

/-- On whose behalf a call is made. -/
inductive Credentials where
  | anonymous
  | basic (user pass : String)
  | bearer (token : String)
  | signed (keys : ApiKeys)
deriving Repr, DecidableEq

structure Call where
  service : Service
  method : Method
  /-- The path below the service's address, perhaps with a query. -/
  path : String
  body : Option Json
  credentials : Credentials
deriving Repr

/-- What a service answered. -/
structure Reply where
  status : Nat
  body : String
deriving Repr, DecidableEq

namespace Reply

def isSuccess (r : Reply) : Bool := 200 ≤ r.status && r.status < 300

/-- A reply that is no success is a failure, told in the context of the call. -/
def checked (r : Reply) (context : String) : Except Failure Reply :=
  if r.isSuccess then .ok r else .error (.ofStatus r.status context r.body)

/-- What the body holds. -/
def read {α : Type} (c : Codec α) (r : Reply) : Except Failure α :=
  (Codec.ofRead c (Json.readText r.body)).mapError fun _ => Failure.unexpectedShape

end Reply

/-- Work that calls services. A call comes back with a reply, or fails for want
of an address or of a connection. -/
abbrev Calling := Dialogue Call (fun _ => Except Failure Reply)

/-- The same, when the work as a whole may fail. -/
abbrev Remote := ExceptT Failure Calling

namespace Remote

variable {α : Type}

/-- Makes a call. -/
def call (c : Call) : Remote Reply := Attempt.question c

def ofExcept (r : Except Failure α) : Remote α := Attempt.ofExcept r

/-- Makes a call that has to succeed. -/
def succeed (c : Call) (context : String) : Remote Reply := do
  let r ← call c
  ofExcept (r.checked context)

/-- Makes a call that has to succeed, for what the body of its reply holds. -/
def fetch (c : Call) (context : String) (body : Codec α) : Remote α := do
  let r ← succeed c context
  ofExcept (r.read body)

/-- What is not found is none. -/
def orNotFound (r : Remote α) : Remote (Option α) :=
  ExceptT.mk (r.run.bind fun
    | .ok a => .done (.ok (some a))
    | .error (.notFound _) => .done (.ok none)
    | .error e => .done (.error e))

end Remote
end SignatureDesk
