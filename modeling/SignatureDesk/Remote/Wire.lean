/-
Calls as they go over the wire: the full address, the headers, and the bytes of
the body. A signature covers the path and query of the address that is really
asked for, after it has been brought into normal form.
-/
import SignatureDesk.Remote.Call
import SignatureDesk.Text.White
import SignatureDesk.Url.Basic

namespace SignatureDesk

/-- The address of a service, without slashes at its end. -/
structure Base where
  text : String
deriving Repr, DecidableEq

namespace Base

def ofText (s : String) : Base := ⟨String.ofList (Text.dropRightWhile (· = '/') s.toList)⟩

/-- The address of a path on the service; one slash joins them. -/
def address (b : Base) (path : String) : String :=
  b.text ++ "/" ++ String.ofList (path.toList.dropWhile (· = '/'))

end Base

/-- What goes over the wire. -/
structure Message where
  method : String
  url : Url
  headers : List (String × String)
  /-- The text of the body; empty when there is none. -/
  body : String
deriving Repr

/-- A request on the wire. -/
structure Request where
  /-- The call that it carries. -/
  call : Call
  url : Url
  headers : List (String × String)
  /-- The text of the body; empty when there is none. -/
  body : String
deriving Repr

/-- The services' addresses and the time of a call. -/
structure Link where
  cla : Base
  platform : Base
  now : Instant
deriving Repr

namespace Link

def base (l : Link) : Service → Base
  | .cla => l.cla
  | .platform => l.platform

/-- The header of a user and a password. -/
def basicHeader (user pass : String) : String :=
  "Basic " ++ String.ofList (Text.Base64.encode (Text.utf8 (user ++ ":" ++ pass)))

/-- The name and password that an address may hold travel in a header. -/
def headersOfUrl (u : Url) : List (String × String) :=
  let plain := fun s : String => Text.ofUtf8? (Url.percentDecode s.toList)
  match plain u.user with
  | none => []
  | some user =>
    let password := u.password.bind plain
    if user.isEmpty && password.isNone then []
    else [("authorization", basicHeader user (password.getD ""))]

/-- The headers that show on whose behalf a request is made. -/
def headersOf (credentials : Credentials) (method target body : String) (now : Instant) :
    List (String × String) :=
  match credentials with
  | .anonymous => []
  | .basic user pass => [("authorization", basicHeader user pass)]
  | .bearer token => [("authorization", "Bearer " ++ token)]
  | .signed keys =>
    let h := keys.sign method target (Text.utf8 body) now
    [("authorization", h.authorization), (Signing.dateHeader, h.date)]

/-- The text that a header may hold: no controls other than tabs. -/
def isHeaderText (s : String) : Bool :=
  s.toList.all fun c => c = '\t' || (32 ≤ c.toNat && c.toNat ≠ 127)

/-- The message by which a service is asked for a path with a method. -/
def message (b : Base) (credentials : Credentials) (method path : String) (body : Option Json)
    (now : Instant) : Except Failure Message :=
  let address := b.address path
  match Url.parse address with
  | .error e => .error (.configuration ("Invalid upstream URL " ++ address ++ ": " ++ e.text))
  | .ok .foreign => .error .transport
  | .ok (.web url) =>
    let text := (body.map Json.compact).getD ""
    let typed := if body.isSome then [("content-type", "application/json")] else []
    let headers := headersOfUrl url ++ typed ++ headersOf credentials method url.target text now
    if ["http", "https"].contains url.scheme && headers.all (isHeaderText ·.2) then
      .ok ⟨method, url, headers, text⟩
    else .error .transport

/-- The request that carries a call. -/
def request (l : Link) (c : Call) : Except Failure Request := do
  let m ← message (l.base c.service) c.credentials c.method.name c.path c.body l.now
  return { call := c, url := m.url, headers := m.headers, body := m.body }

/-- Carries a call over the wire. Without a reply it has failed. -/
def carry (l : Link) (c : Call) :
    Dialogue Request (fun _ => Option Reply) (Except Failure Reply) :=
  match l.request c with
  | .error e => .done (.error e)
  | .ok r => .ask r fun reply => .done (match reply with
    | some reply => .ok reply
    | none => .error .transport)

/-- Carries all calls of some work over the wire. -/
def run {α : Type} (l : Link) (d : Calling α) :
    Dialogue Request (fun _ => Option Reply) α :=
  d.interpret l.carry

end Link

/-- A path with a query behind it. -/
def queried (path : String) (pairs : List (String × String)) : Except Failure String :=
  (Url.withQuery path pairs).mapError fun e =>
    .validation ("Invalid path " ++ path ++ ": " ++ e.text)

end SignatureDesk
