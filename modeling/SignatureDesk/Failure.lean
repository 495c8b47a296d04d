/-
What can go wrong, and how it is reported: every failure has a line of text for
people, a status for the caller, and a JSON body that holds the line.
-/
import SignatureDesk.Json.Basic

namespace SignatureDesk

inductive Failure where
  /-- The console is set up in a way that cannot work. -/
  | configuration (detail : String)
  /-- A service could not be reached, or answered something that makes no sense. -/
  | service (detail : String)
  /-- A service answered a status with no meaning of its own here. -/
  | serviceStatus (status : Nat) (message : String)
  | conflict (message : String)
  /-- A company of that name exists; the id is that of the existing one. -/
  | companyExists (companyId : String) (message : String)
  | notFound (message : String)
  | unauthorized (message : String)
  | forbidden (message : String)
  | validation (message : String)
  | session (message : String)
deriving Repr, DecidableEq

namespace Failure

/-- The line for people. -/
def text : Failure → String
  | .configuration d => "Configuration error: " ++ d
  | .service d => "Upstream API error: " ++ d
  | .serviceStatus s m => "Upstream returned " ++ toString s ++ ": " ++ m
  | .conflict m => "Conflict: " ++ m
  | .companyExists _ m => "Company already exists: " ++ m
  | .notFound m => "Not found: " ++ m
  | .unauthorized m => "Unauthorized: " ++ m
  | .forbidden m => "Forbidden: " ++ m
  | .validation m => "Validation error: " ++ m
  | .session m => "Session error: " ++ m

/-- The status the console answers with. -/
def status : Failure → Nat
  | .configuration _ => 500
  | .service _ | .serviceStatus _ _ => 502
  | .conflict _ | .companyExists _ _ => 409
  | .notFound _ => 404
  | .unauthorized _ | .session _ => 401
  | .forbidden _ => 403
  | .validation _ => 400

/-- The body the console answers with. -/
def body (f : Failure) : Json :=
  match f with
  | .companyExists id _ => .obj [("companyId", .str id), ("error", .str f.text)]
  | f => .obj [("error", .str f.text)]

/-- What a service's refusal means: its status keeps its meaning where the
console has one for it, and its body is quoted behind the context. -/
def ofStatus (status : Nat) (context body : String) : Failure :=
  let message := if body.isEmpty then context else context ++ " (" ++ body ++ ")"
  match status with
  | 404 => .notFound message
  | 409 => .conflict message
  | 401 => .unauthorized message
  | 403 => .forbidden message
  | s => .serviceStatus s message

/-- A value that may not stand on the allow-list of a kind. -/
def invalidEntry (kind value : String) : Failure :=
  .validation ("Invalid " ++ kind ++ " allow-list entry: '" ++ value ++ "'")

/-- There is no corporate signature to act on. -/
def missingCorporate (companyId projectId : String) : Failure :=
  .notFound ("No corporate CLA signature for company " ++ companyId ++ " and project " ++ projectId)

/-- A service could not be talked to. -/
def transport : Failure := .service "HTTP transport error: "

/-- A service's body is not what the console reads from it. -/
def unexpectedShape : Failure := .service "Unexpected response shape: "

/-- A stored value is not what the console reads from it. -/
def undecodable : Failure := .service "JSON decoding error: "

end Failure
end SignatureDesk
