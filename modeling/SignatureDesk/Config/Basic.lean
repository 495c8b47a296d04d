/-
What the console is told at its start: where it listens, which services it talks
to and with which account, how identity tokens are checked, and how far a
listing is followed.
-/
import SignatureDesk.Failure
import SignatureDesk.Json.Codec
import SignatureDesk.Text.White

namespace SignatureDesk

/-- Where the console listens. -/
structure Config.Server where
  host : String
  port : UInt16
deriving Repr, DecidableEq

/-- The platform, and the account that exchanges an identity for keys. -/
structure Config.Platform where
  endpoint : String
  integrationUser : String
  integrationPass : String
deriving Repr, DecidableEq

/-- How identity tokens are checked: with the public key in a file, or, when
there is none, with a shared secret. -/
structure Config.Auth where
  secret : Option String
  publicKeyPath : Option String
  rolesClaim : String
  adminRole : String
deriving Repr, DecidableEq, Inhabited

/-- How calls to the services are bounded. -/
structure Config.Limits where
  timeoutSeconds : UInt64
  pageSize : UInt32
  maxPages : UInt64
deriving Repr, DecidableEq

structure Config where
  server : Config.Server
  platform : Config.Platform
  /-- The address of the agreement service. -/
  claUrl : String
  auth : Config.Auth
  limits : Config.Limits
deriving Repr, DecidableEq

namespace Config

/-! ## JSON -/

def Server.codec : Codec Server :=
  (Codec.record (.required "host" [] .text <| .required "port" [] .word16 .nil)).map
    (fun (host, port, ()) => ⟨host, port⟩) (fun s => (s.host, s.port, ()))

def Platform.codec : Codec Platform :=
  (Codec.record
    (.required "endpoint" [] .text <|
     .required "integration_user" [] .text <|
     .required "integration_pass" [] .text .nil)).map
    (fun (endpoint, user, pass, ()) => ⟨endpoint, user, pass⟩)
    (fun p => (p.endpoint, p.integrationUser, p.integrationPass, ()))

def claCodec : Codec String :=
  (Codec.record (.required "api_url" [] .text .nil)).map (fun (url, ()) => url) (fun url => (url, ()))

def Auth.codec : Codec Auth :=
  (Codec.record
    (.nullable "jwt_secret" [] .text <|
     .nullable "jwt_public_key_path" [] .text <|
     .required "roles_claim" [] .text <|
     .required "admin_role" [] .text .nil)).map
    (fun (secret, path, claim, role, ()) => ⟨secret, path, claim, role⟩)
    (fun a => (a.secret, a.publicKeyPath, a.rolesClaim, a.adminRole, ()))

def Limits.codec : Codec Limits :=
  (Codec.record
    (.required "timeout_secs" [] .word64 <|
     .required "page_size" [] .word32 <|
     .required "max_pages" [] .word64 .nil)).map
    (fun (timeout, size, pages, ()) => ⟨timeout, size, pages⟩)
    (fun l => (l.timeoutSeconds, l.pageSize, l.maxPages, ()))

def codec : Codec Config :=
  (Codec.record
    (.required "server" [] Server.codec <|
     .required "platform" [] Platform.codec <|
     .required "cla" [] claCodec <|
     .required "auth" [] Auth.codec <|
     .required "upstream" [] Limits.codec .nil)).map
    (fun (server, platform, cla, auth, limits, ()) => ⟨server, platform, cla, auth, limits⟩)
    (fun c => (c.server, c.platform, c.claUrl, c.auth, c.limits, ()))

/-! ## Checks and derived addresses -/

/-- The first rule that the configuration breaks. -/
def validate (c : Config) : Except Failure Unit :=
  if Text.isBlank c.platform.endpoint then .error (.configuration "platform.endpoint must not be empty")
  else if Text.isBlank c.claUrl then .error (.configuration "cla.api_url must not be empty")
  else if c.limits.pageSize = 0 then
    .error (.configuration "upstream.page_size must be greater than zero")
  else if c.limits.maxPages = 0 then
    .error (.configuration "upstream.max_pages must be greater than zero")
  else .ok ()

/-- The address of the platform, which ends in a slash. -/
def platformRoot (c : Config) : String :=
  let endpoint := Text.trim c.platform.endpoint
  if endpoint.toList.getLast? = some '/' then endpoint else endpoint ++ "/"

/-- The address of the agreement service, which ends in no slash. -/
def claRoot (c : Config) : String :=
  String.ofList (Text.dropRightWhile (· = '/') (Text.trimChars c.claUrl.toList))

end Config
end SignatureDesk
