/-
Addresses. Reading brings one into a normal form: white space around it and
line ends inside it are dropped, the scheme and the host are lowered, dot
segments of the path are resolved, backslashes count as slashes, and each part
is percent-encoded in its own way.

The console only ever talks to addresses of the web; those of other schemes are
told apart from texts that are no addresses, and no more.
-/
import SignatureDesk.Text.White
import SignatureDesk.Url.Form
import SignatureDesk.Url.Host

namespace SignatureDesk

/-- An address of the web. -/
structure Url where
  scheme : String
  user : String
  password : Option String
  host : Url.Host
  /-- The port, unless it is the scheme's own. -/
  port : Option Nat
  /-- The segments of the path; there is at least one, which may be empty. -/
  segments : List String
  query : Option String
  fragment : Option String
deriving Repr, DecidableEq

namespace Url

/-! ## Parts -/

/-- The path: a slash before every segment. -/
def pathOf (segments : List String) : String :=
  String.join (segments.map ("/" ++ ·))

def path (u : Url) : String := pathOf u.segments

/-- The path with its query, which is what a request asks for. -/
def target (u : Url) : String :=
  match u.query with
  | some q => u.path ++ "?" ++ q
  | none => u.path

/-- The default port of each scheme of the web. -/
def defaultPort? (scheme : String) : Option Nat :=
  match scheme with
  | "http" | "ws" => some 80
  | "https" | "wss" => some 443
  | "ftp" => some 21
  | _ => none

/-! ## Dot segments -/

/-- The segment `.`, in any spelling. -/
def isSingleDot (s : String) : Bool := Text.asciiLower s == "." || Text.asciiLower s == "%2e"

/-- The segment `..`, in any spelling. -/
def isDoubleDot (s : String) : Bool :=
  ["..", "%2e.", ".%2e", "%2e%2e"].contains (Text.asciiLower s)

/-- A letter and a colon or bar, which names a drive. -/
def isDrive (s : String) : Bool :=
  match s.toList with
  | [c, d] => Text.isAsciiLetter c && (d = ':' || d = '|')
  | _ => false

/-- Goes up from the segments passed so far, the nearest first; never past a drive. -/
def up : List String → List String
  | [] => []
  | s :: rest => if isDrive s then s :: rest else rest

/-- Resolves the dot segments among segments that follow those passed so far. -/
def resolve (passed : List String) : List String → List String
  | [] => passed.reverse
  | [last] =>
    if isDoubleDot last then (up passed).reverse ++ [""]
    else if isSingleDot last then passed.reverse ++ [""]
    else passed.reverse ++ [last]
  | s :: rest =>
    if isDoubleDot s then resolve (up passed) rest
    else if isSingleDot s then resolve passed rest
    else resolve (s :: passed) rest

/-! ## Reading -/

def isSlash (c : Char) : Bool := c = '/' || c = '\\'

/-- The characters that end the part with the host. -/
def endsAuthority (c : Char) : Bool := isSlash c || c = '?' || c = '#'

/-- The text without what surrounds it and without line ends and tabs. -/
def cleaned (s : List Char) : List Char :=
  let isEdge := fun c : Char => c.toNat ≤ 32
  (Text.dropRightWhile isEdge (s.dropWhile isEdge)).filter fun c => c ≠ '\t' && c ≠ '\n' && c ≠ '\r'

/-- The scheme, lowered, and what stands behind its colon. -/
def takeScheme (s : List Char) : Option (String × List Char) :=
  let isPart := fun c : Char =>
    Text.isAsciiLetter c || Text.isAsciiDigit c || c = '+' || c = '-' || c = '.'
  match s.takeWhile isPart, s.dropWhile isPart with
  | c :: cs, ':' :: rest =>
    if Text.isAsciiLetter c then some (Text.asciiLower (String.ofList (c :: cs)), rest) else none
  | _, _ => none

/-- What stands before and behind the last `@`. -/
def splitUser (s : List Char) : Option (List Char × List Char) :=
  if s.contains '@' then
    let back := (s.reverse.takeWhile (· ≠ '@')).reverse
    some (s.take (s.length - back.length - 1), back)
  else none

/-- The user and the password before a host; an empty password is none. -/
def readUser (s : List Char) : String × Option String :=
  let user := s.takeWhile (· ≠ ':')
  let password := (s.dropWhile (· ≠ ':')).drop 1
  (String.ofList (percentEncode keptInUser user),
   if password.isEmpty then none else some (String.ofList (percentEncode keptInUser password)))

/-- The host and what follows it: a colon outside of brackets ends it. -/
def takeHost (inside : Bool) : List Char → List Char × List Char
  | [] => ([], [])
  | c :: rest =>
    if c = ':' && !inside then ([], c :: rest)
    else
      let r := takeHost (if c = '[' then true else if c = ']' then false else inside) rest
      (c :: r.1, r.2)

/-- The port that follows a host, if one does. -/
def readPort (s : List Char) : Except Fault (Option Nat) :=
  match s with
  | ':' :: digits =>
    if digits.all Text.isAsciiDigit then
      if digits.isEmpty then .ok none
      else
        match Host.ofBase? 10 digits with
        | some n => if n < 65536 then .ok (some n) else .error .port
        | none => .error .port
    else .error .port
  | _ => .ok none

/-- The segments of a path. -/
def readPath (s : List Char) : List String :=
  let body := match s with
    | [] => []
    | c :: rest => if isSlash c then rest else c :: rest
  let parts := (body.map fun c => if isSlash c then '/' else c).splitOn '/'
  resolve [] (parts.map fun p => String.ofList (percentEncode keptInPath p))

/-- The query and the fragment behind a path. -/
def readTail (s : List Char) : Option String × Option String :=
  let isHash := fun c : Char => c ≠ '#'
  let fragment := match s.dropWhile isHash with
    | _ :: rest => some (String.ofList (percentEncode keptInFragment rest))
    | [] => none
  let query := match s.takeWhile isHash with
    | _ :: rest => some (String.ofList (percentEncode keptInQuery rest))
    | [] => none
  (query, fragment)

/-- The address behind the slashes of a scheme of the web. -/
def readWeb (scheme : String) (s : List Char) : Except Fault Url := do
  let authority := s.takeWhile fun c => !endsAuthority c
  let rest := s.dropWhile fun c => !endsAuthority c
  let (user, place) := (splitUser authority).getD ([], authority)
  let (host, after) := takeHost false place
  if host.isEmpty then .error .emptyHost
  else
    let host ← Host.parse host
    let port ← readPort after
    let path := rest.takeWhile fun c => !(c = '?' || c = '#')
    let (query, fragment) := readTail (rest.dropWhile fun c => !(c = '?' || c = '#'))
    let (user, password) := readUser user
    .ok { scheme, user, password, host, segments := readPath path, query, fragment,
          port := if port = defaultPort? scheme then none else port }

/-- The fault, if any, in the part with the host of an address of another scheme. -/
def checkForeign (s : List Char) : Except Fault Unit := do
  let authority := s.takeWhile fun c => !(c = '/' || c = '?' || c = '#')
  let ends := (s.dropWhile fun c => !(c = '/' || c = '?' || c = '#')).isEmpty
  let split := splitUser authority
  let (user, place) := split.getD ([], authority)
  if split.isSome && user.isEmpty && place.isEmpty && !ends then .error .emptyHost
  else
    let (host, after) := takeHost false place
    Host.checkOpaque host
    if host.isEmpty && after.head? == some ':' then .error .emptyHost
    else
      let _ ← readPort (after.takeWhile (· ≠ '\\'))
      if host.isEmpty && (user.any (· ≠ ':')) then .error .emptyHost else .ok ()

/-- The fault, if any, in the host of the address of a file. -/
def checkFile (s : List Char) : Except Fault Unit :=
  match s with
  | c :: d :: rest =>
    if isSlash c && isSlash d then
      let host := rest.takeWhile fun c => !endsAuthority c
      if host.isEmpty || isDrive (String.ofList host) then .ok ()
      else (Host.parse host).map fun _ => ()
    else .ok ()
  | _ => .ok ()

/-- What a text may be the address of. -/
inductive Address where
  | web (u : Url)
  /-- An address of a scheme that is not of the web. -/
  | foreign
deriving Repr, DecidableEq

/-- Reads an address. -/
def parse (s : String) : Except Fault Address :=
  match takeScheme (cleaned s.toList) with
  | none => .error .relative
  | some (scheme, rest) =>
    if scheme = "file" then (checkFile rest).map fun _ => .foreign
    else if (defaultPort? scheme).isSome then (readWeb scheme (rest.dropWhile isSlash)).map .web
    else
      match rest with
      | '/' :: '/' :: rest => (checkForeign rest).map fun _ => .foreign
      | _ => .ok .foreign

/-! ## Queries on paths -/

/-- The query with pairs behind it. -/
def extendQuery (query : Option String) (pairs : List (String × String)) : String :=
  match query with
  | some q => if q.isEmpty then Form.write pairs else q ++ "&" ++ Form.write pairs
  | none => Form.write pairs

/-- A path, which may have a query already, with pairs behind it. Without pairs it
stays as it is; otherwise it is brought into normal form, as on any host. -/
def withQuery (path : String) (pairs : List (String × String)) : Except Fault String :=
  if pairs.isEmpty then .ok path
  else
    match parse ("http://upstream.invalid" ++ path) with
    | .error e => .error e
    | .ok (.web u) => .ok (u.path ++ "?" ++ extendQuery u.query pairs)
    | .ok .foreign => .ok path

end Url
end SignatureDesk
