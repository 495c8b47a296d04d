/-
The four allow-lists of a corporate signature.
-/
import SignatureDesk.Json.Codec

namespace SignatureDesk

inductive AllowListKind where
  | email
  | domain
  | githubUsername
  | githubOrg
deriving Repr, DecidableEq

namespace AllowListKind

/-- Every kind, in the order in which they are listed. -/
def all : List AllowListKind := [.email, .domain, .githubUsername, .githubOrg]

/-- The name in data and messages. -/
def name : AllowListKind → String
  | .email => "email"
  | .domain => "domain"
  | .githubUsername => "github_username"
  | .githubOrg => "github_org"

/-- The name for people. -/
def label : AllowListKind → String
  | .email => "Email"
  | .domain => "Domain"
  | .githubUsername => "GitHub User"
  | .githubOrg => "GitHub Organization"

def ofName? (s : String) : Option AllowListKind := all.find? fun k => k.name == s

/-- The kind that a caller names, in any of the spellings callers use. -/
def ofWord (s : String) : Except String AllowListKind :=
  match s with
  | "email" => .ok .email
  | "domain" => .ok .domain
  | "github_username" | "github" => .ok .githubUsername
  | "github_org" | "githuborg" => .ok .githubOrg
  | s => .error ("Invalid allow-list kind: " ++ s)

def codec : Codec AllowListKind := .name ofName? name

end AllowListKind
end SignatureDesk
