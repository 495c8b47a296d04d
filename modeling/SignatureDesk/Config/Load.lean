/-
Loading a configuration: defaults, then a file, then variables of the
environment, each layer over the ones before. Every field then takes the value
that ended up under its name, converted if need be.
-/
import SignatureDesk.Config.Basic
import SignatureDesk.Config.Path
import SignatureDesk.Toml.Document

namespace SignatureDesk.Config

/-- Why no configuration could be loaded. -/
inductive LoadFault where
  /-- The file breaks the rules of its format. -/
  | malformed
  /-- A value does not fit its field. -/
  | misfit
deriving Repr, DecidableEq

def LoadFault.failure : LoadFault → Failure
  | .malformed => .configuration ""
  | .misfit => .configuration "Failed to parse configuration: "

/-! ## Layers -/

def defaults : List (String × Value) :=
  [("server.host", .text "0.0.0.0"),
   ("server.port", .int 8081),
   ("platform.endpoint", .text "http://localhost:5000/"),
   ("platform.integration_user", .text ""),
   ("platform.integration_pass", .text ""),
   ("cla.api_url", .text "http://localhost:5001"),
   ("auth.roles_claim", .text "https://sso.linuxfoundation.org/claims/roles"),
   ("auth.admin_role", .text "cla-system-admin"),
   ("upstream.timeout_secs", .int 30),
   ("upstream.page_size", .int 100),
   ("upstream.max_pages", .int 50)]

/-- The start of the names of variables that are settings, whatever their case. -/
def variableStart : List Char := "console__".toList

/-- A pair of underscores as a point. -/
def pointed : List Char → List Char
  | '_' :: '_' :: rest => '.' :: pointed rest
  | c :: rest => c :: pointed rest
  | [] => []

/-- The setting that a variable of the environment is for, if it is for one. -/
def settingOf? (name : String) : Option String :=
  if variableStart.isPrefixOf (Text.lowerChars name.toList) then
    some (String.ofList (pointed (name.toList.drop variableStart.length)))
  else none

/-- An integer of 64 bits, with or without a sign. -/
def integer? (s : List Char) : Option Int :=
  let (negative, ds) := Float64.takeSign s
  if ds.isEmpty || !ds.all Text.isAsciiDigit then none
  else
    let n := Instant.ofDigits ds
    if negative then if n ≤ Nat.pow 2 63 then some (-(n : Int)) else none
    else if n < Nat.pow 2 63 then some n else none

/-- The value of a variable: a truth value or a number if it reads as one. -/
def variableValue (s : String) : Value :=
  match Text.lower s with
  | "true" => .flag true
  | "false" => .flag false
  | _ =>
    match integer? s.toList with
    | some z => .int z
    | none =>
      match Float64.read? s with
      | some x => .float x
      | none => .text s

/-- The settings among the variables of an environment. -/
def ofEnvironment (environment : List (String × String)) : List (String × Value) :=
  environment.filterMap fun (name, s) => (settingOf? name).map fun setting => (setting, variableValue s)

/-- Puts a layer over what is there. -/
def layer (root : Value) (settings : List (String × Value)) : Value :=
  settings.foldl (fun root (name, v) => Path.assign root name v) root

/-! ## Fields -/

/-- The value of a field: by name in a table, by place in a list. -/
def Value.field? (v : Value) (place : Nat) (name : String) : Option Value :=
  match v with
  | .table es => es.lookup name
  | .list vs => vs[place]?
  | _ => none

def textField? (v : Value) (place : Nat) (name : String) : Option String := do
  (← v.field? place name).text?

/-- A text that may be missing. -/
def optionalTextField? (v : Value) (place : Nat) (name : String) : Option (Option String) :=
  match v.field? place name with
  | none | some .nil => some none
  | some w => w.text?.map some

/-- A natural number below a bound. -/
def wordField? (bound : Nat) (v : Value) (place : Nat) (name : String) : Option Nat := do
  let n ← (← v.field? place name).word?
  if n < bound then some n else none

def readServer? (v : Value) : Option Server := do
  some ⟨← textField? v 0 "host", .ofNat (← wordField? (Nat.pow 2 16) v 1 "port")⟩

def readPlatform? (v : Value) : Option Platform := do
  some ⟨← textField? v 0 "endpoint", ← textField? v 1 "integration_user",
    ← textField? v 2 "integration_pass"⟩

def readAuth? (v : Value) : Option Auth := do
  some ⟨← optionalTextField? v 0 "jwt_secret", ← optionalTextField? v 1 "jwt_public_key_path",
    ← textField? v 2 "roles_claim", ← textField? v 3 "admin_role"⟩

def readLimits? (v : Value) : Option Limits := do
  let timeout ← wordField? (Nat.pow 2 64) v 0 "timeout_secs"
  let size ← wordField? (Nat.pow 2 32) v 1 "page_size"
  let pages ← wordField? (Nat.pow 2 64) v 2 "max_pages"
  some ⟨.ofNat timeout, .ofNat size, .ofNat pages⟩

/-- The configuration that a value holds. -/
def ofValue? (v : Value) : Option Config := do
  some {
    server := ← readServer? (← v.field? 0 "server")
    platform := ← readPlatform? (← v.field? 1 "platform")
    claUrl := ← textField? (← v.field? 2 "cla") 0 "api_url"
    auth := ← readAuth? (← v.field? 3 "auth")
    limits := ← readLimits? (← v.field? 4 "upstream") }

/-! ## Loading -/

/-- The configuration of a file, when there is one, and an environment. -/
def read (file : Option String) (environment : List (String × String)) : Except LoadFault Config := do
  let fromFile ← match file with
    | none => .ok []
    | some s => match Toml.read? s with
      | some entries => .ok entries
      | none => .error .malformed
  let root := layer (layer (layer (.table []) defaults) fromFile) (ofEnvironment environment)
  match ofValue? root with
  | some c => .ok c
  | none => .error .misfit

/-- The same, checked. -/
def load (file : Option String) (environment : List (String × String)) : Except Failure Config := do
  let c ← (read file environment).mapError LoadFault.failure
  c.validate
  .ok c

end SignatureDesk.Config
