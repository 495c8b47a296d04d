/-
What the console receives and what it answers, as far as either is looked at.
-/
import SignatureDesk.Failure
import SignatureDesk.Json.Codec
import SignatureDesk.Url.Form

namespace SignatureDesk

/-- How a request wants its target treated. -/
inductive Verb where
  | get
  /-- Like `get`, but only the status is asked for. -/
  | head
  | post
  | put
  | delete
  | other
deriving Repr, DecidableEq

def Verb.ofName : String → Verb
  | "GET" => .get
  | "HEAD" => .head
  | "POST" => .post
  | "PUT" => .put
  | "DELETE" => .delete
  | _ => .other

/-- A request as it comes in. -/
structure Incoming where
  verb : Verb
  /-- The path and the query. -/
  target : String
  /-- The bytes of the authorization header. -/
  authorization : Option (List UInt8)
  contentType : Option String
  body : String
deriving Repr, DecidableEq

namespace Incoming

/-- The target without a fragment. -/
def address (i : Incoming) : List Char := i.target.toList.takeWhile (· ≠ '#')

def path (i : Incoming) : List Char := i.address.takeWhile (· ≠ '?')

/-- The pairs of the query. -/
def query (i : Incoming) : List (String × String) :=
  Url.Form.read (String.ofList ((i.address.dropWhile (· ≠ '?')).drop 1))

end Incoming

/-- What an answer holds. -/
inductive Content where
  | empty
  | json (v : Json)
  | text (s : String)
deriving Repr

structure Answer where
  status : Nat
  content : Content
deriving Repr

namespace Answer

def ok (v : Json) : Answer := ⟨200, .json v⟩

/-- Done, and there is nothing to say about it. -/
def done : Answer := ⟨204, .empty⟩

def notFound : Answer := ⟨404, .empty⟩

def verbRefused : Answer := ⟨405, .empty⟩

def ofFailure (f : Failure) : Answer := ⟨f.status, .json f.body⟩

def ofExcept : Except Failure Answer → Answer
  | .ok a => a
  | .error f => ofFailure f

def withoutContent (a : Answer) : Answer := { a with content := .empty }

end Answer

/-- Why a request cannot be understood, whoever sends it. -/
inductive Rejection where
  /-- The path holds bytes that are no text. -/
  | path
  | query
  /-- The body is not declared to be JSON. -/
  | media
  /-- The body is no JSON. -/
  | bodyText
  /-- The body is JSON of another shape. -/
  | bodyShape
deriving Repr, DecidableEq

namespace Rejection

def status : Rejection → Nat
  | .path | .query | .bodyText => 400
  | .media => 415
  | .bodyShape => 422

def text : Rejection → String
  | .path => "Invalid URL"
  | .query => "Failed to deserialize query string"
  | .media => "Expected request with `Content-Type: application/json`"
  | .bodyText => "Failed to parse the request body as JSON"
  | .bodyShape => "Failed to deserialize the JSON body into the target type"

def answer (r : Rejection) : Answer := ⟨r.status, .text r.text⟩

/-- What a body is rejected for. -/
def ofFault : Fault → Rejection
  | .shape => .bodyShape
  | .text => .bodyText

end Rejection
end SignatureDesk
