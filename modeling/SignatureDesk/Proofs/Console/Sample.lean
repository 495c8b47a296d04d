/-
A small world to show statements at: a console whose services know one user, an
administrator, and one company with a corporate signature in one project.
-/
import SignatureDesk.Proofs.Console.Handling

namespace SignatureDesk.Sample

def console : Console where
  config :=
    { server := ⟨"127.0.0.1", 0⟩
      platform := ⟨"http://platform.test/", "console", "integration-pass"⟩
      claUrl := "http://cla.test"
      auth := ⟨none, none, "roles", "cla-system-admin"⟩
      limits := ⟨5, 2, 3⟩ }
  verifier := none

def moment : Moment := ⟨⟨0, 0⟩, ⟨7⟩⟩

def keysText : String := "\x7b\"keyId\": \"k\", \"secret\": \"s\"\x7d"

def userText : String := "\x7b\"lfId\": \"ada\", \"groups\": [\x7b\"name\": \"ADMIN\"\x7d]\x7d"

def pageText : String :=
  "\x7b\"signatures\": [\x7b\"signatureID\": \"s-1\", \"signatureType\": \"ccla\", " ++
    "\"signatureReferenceType\": \"company\"\x7d]\x7d"

/-- What the services reply. -/
def reply (c : Call) : Reply :=
  match c.path with
  | "auth/trusted/cas/ada" => ⟨200, keysText⟩
  | "users/ada/" => ⟨200, userText⟩
  | "/v1/signatures/company/c-1/project/p-1" => ⟨200, pageText⟩
  | "/v3/company/c-1/cla/p-1/whitelist/githuborg" => ⟨200, "[]"⟩
  | _ => ⟨404, ""⟩

def signIn : Incoming :=
  ⟨.post, "/login", none, some "application/json", "\x7b\"lfId\": \"ada\", \"idToken\": \"t\"\x7d"⟩

/-- The sessions once the user has signed in. -/
def store : SessionStore :=
  SessionStore.empty.apply
    ((console.handle moment .empty signIn).result (fun _ c => .ok (reply c)) []).change

theorem store_reachable : console.Reachable store := by
  obtain ⟨t, run, -⟩ :=
    Dialogue.exists_transcript (fun _ c => .ok (reply c)) (console.handle moment .empty signIn) []
  exact .handle .empty run

/-- A request of the user. -/
def request (verb : Verb) (target body : String) : Incoming :=
  ⟨verb, target, some (Text.utf8 "Bearer 00000000-0000-0000-0000-000000000007"),
    some "application/json", body⟩

end SignatureDesk.Sample
