/-
The console as a whole: a request and the sessions there are go in, an answer
and a change of the sessions come out, and calls to the services are made on the
way. Free resources are served to anyone; for the others the session is looked
at before anything else is.
-/
import SignatureDesk.Console.Perform
import SignatureDesk.Console.SignIn
import SignatureDesk.Session.Bearer

namespace SignatureDesk

structure Console where
  config : Config
  /-- The check of identity tokens, where they are checked. -/
  verifier : Option Identity.Verifier
deriving Repr, DecidableEq

/-- What comes of a request. -/
structure Handled where
  answer : Answer
  change : StoreChange
deriving Repr

namespace Handled

/-- An answer that leaves the sessions as they are. -/
def only (a : Answer) : Handled := ⟨a, .keep⟩

def withoutContent (h : Handled) : Handled := { h with answer := h.answer.withoutContent }

end Handled

namespace Console

/-- The console of a configuration; `read` gives the text of a file. -/
def ofConfig (config : Config) (read : String → Except String String) : Except Failure Console := do
  let verifier ← Identity.Verifier.ofConfig config.auth read
  return ⟨config, verifier⟩

/-- The services as they are reached at a time. -/
def link (c : Console) (now : Instant) : Link :=
  ⟨.ofText c.config.claRoot, .ofText c.config.platformRoot, now⟩

/-- The console's own account at the platform. -/
def account (c : Console) : Credentials :=
  .basic c.config.platform.integrationUser c.config.platform.integrationPass

def serviceName : String := "cla-console"

/-! ## Free operations -/

/-- What every report on the console starts with. -/
def signOfLife (now : Instant) : Members :=
  [("status", .str "healthy"), ("service", .str serviceName), ("timestamp", .str now.write)]

/-- What the platform says about itself. -/
def platformJson : Except Failure PlatformVersion → Json
  | .ok v => .obj [("reachable", .bool true), ("version", PlatformVersion.codec.encode v)]
  | .error e => .obj [("reachable", .bool false), ("error", .str e.text)]

def statusJson (c : Console) (now : Instant) (sessions : Nat)
    (platform : Except Failure PlatformVersion) : Json :=
  .obj (signOfLife now ++
    [("sessions", .nat sessions),
     ("platform", platformJson platform),
     ("upstream", .obj
       [("cla_api_url", .str c.config.claRoot),
        ("platform_endpoint", .str c.config.platformRoot),
        ("timeout_secs", .nat c.config.limits.timeoutSeconds.toNat),
        ("page_size", .nat c.config.limits.pageSize.toNat),
        ("max_pages", .nat c.config.limits.maxPages.toNat)]),
     ("features", .obj [("id_token_roles", .bool c.verifier.isSome)])])

def performFree (c : Console) (m : Moment) (store : SessionStore) : FreeOperation → Calling Handled
  | .health => return .only (.ok (.obj (signOfLife m.now)))
  | .status => do
    let version ← Platform.version.run
    return .only (.ok (c.statusJson m.now store.size version))
  | .login l => do
    match ← (l.perform c.verifier c.account m).run with
    | .ok s => return ⟨.ok s.grant, .opens s⟩
    | .error e => return .only (.ofFailure e)

/-! ## Requests -/

/-- The live session that a request names. -/
def sessionOf (store : SessionStore) (i : Incoming) : Except Failure Session := do
  let id ← bearerSession i.authorization
  match store.get? id with
  | some s => return s
  | none => throw (.session "session expired or logged out")

/-- Serves a free resource. -/
def serveFree (c : Console) (m : Moment) (store : SessionStore) (r : FreeResource) (i : Incoming) :
    Calling Handled :=
  match FreeOperation.read? r i with
  | none => return .only .verbRefused
  | some (.error e) => return .only e.answer
  | some (.ok o) => c.performFree m store o

/-- Serves a guarded resource for a session. -/
def serveGuarded (c : Console) (s : Session) (r : Resource) (i : Incoming) : Calling Handled :=
  match Operation.read? r i with
  | none => return .only .verbRefused
  | some (.error e) => return .only e.answer
  | some (.ok o) => do
    match ← (o.perform c.config.limits s).run with
    | .ok a => return ⟨a, o.change s⟩
    | .error e => return .only (.ofFailure e)

/-- Serves the target of a request. -/
def serve (c : Console) (m : Moment) (store : SessionStore) (i : Incoming) : Calling Handled :=
  match Target.ofPath? i.path with
  | none => return .only .notFound
  | some (.free r) => c.serveFree m store r i
  | some (.guarded r) =>
    match sessionOf store i with
    | .error e => return .only (.ofFailure e)
    | .ok s => c.serveGuarded s r i

/-- Handles a request. -/
def handle (c : Console) (m : Moment) (store : SessionStore) (i : Incoming) : Calling Handled := do
  let h ← c.serve m store i
  return if i.verb = .head then h.withoutContent else h

end Console
end SignatureDesk
