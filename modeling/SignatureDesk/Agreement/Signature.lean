/-
Signature records, as the agreement service keeps them, and pages of them.
-/
import SignatureDesk.AllowList.Kind
import SignatureDesk.Text.White
import SignatureDesk.Time.Instant

namespace SignatureDesk

/-- The agreement that was signed; types without a meaning here are kept as they are. -/
inductive SignatureType where
  | cla
  | ccla
  | other (name : String)
deriving Repr, DecidableEq

/-- Who signed. -/
inductive ReferenceType where
  | user
  | company
  | other (name : String)
deriving Repr, DecidableEq

def SignatureType.ofName : String → SignatureType
  | "cla" => .cla
  | "ccla" => .ccla
  | s => .other s

def SignatureType.name : SignatureType → String
  | .cla => "cla"
  | .ccla => "ccla"
  | .other s => s

def ReferenceType.ofName : String → ReferenceType
  | "user" => .user
  | "company" => .company
  | s => .other s

def ReferenceType.name : ReferenceType → String
  | .user => "user"
  | .company => "company"
  | .other s => s

structure Signature where
  id : String
  type : SignatureType
  referenceType : ReferenceType
  referenceId : String
  referenceName : Option String
  companyName : Option String
  projectId : String
  userName : Option String
  created : Option Instant
  modified : Option Instant
  approved : Bool
  signed : Bool
  emails : Option (List String)
  domains : Option (List String)
  githubUsernames : Option (List String)
  githubOrgs : Option (List String)
deriving Repr, DecidableEq

/-- An instant, read loosely and written in universal time. -/
def Codec.instant : Codec Instant := Codec.text.filterMap Instant.readRelaxed Instant.write

namespace Signature

/-- A company name is present; an empty one is. -/
def hasCompanyName (s : Signature) : Bool := s.companyName.isSome

def allowList (s : Signature) : AllowListKind → Option (List String)
  | .email => s.emails
  | .domain => s.domains
  | .githubUsername => s.githubUsernames
  | .githubOrg => s.githubOrgs

/-- Changes every allow-list that is present. -/
def mapAllowLists (f : List String → List String) (s : Signature) : Signature :=
  { s with
    emails := s.emails.map f
    domains := s.domains.map f
    githubUsernames := s.githubUsernames.map f
    githubOrgs := s.githubOrgs.map f }

def codec : Codec Signature :=
  (Codec.record
    (.required "signatureID" [] .text <|
     .required "signatureType" [] (Codec.text.map .ofName SignatureType.name) <|
     .required "signatureReferenceType" [] (Codec.text.map .ofName ReferenceType.name) <|
     .defaulted "signatureReferenceID" [] .text "" <|
     .omitted "signatureReferenceName" [] .text <|
     .omitted "companyName" [] .text <|
     .defaulted "projectID" [] .text "" <|
     .omitted "userName" [] .text <|
     .omitted "signatureCreated" [] .instant <|
     .omitted "signatureModified" [] .instant <|
     .defaulted "signatureApproved" [] .flag false <|
     .defaulted "signatureSigned" [] .flag false <|
     .omitted "emailWhitelist" [] Codec.text.list <|
     .omitted "domainWhitelist" [] Codec.text.list <|
     .omitted "githubWhitelist" [] Codec.text.list <|
     .omitted "githubOrgWhitelist" [] Codec.text.list .nil)).map
    (fun (id, type, reference, refId, refName, company, project, user, created, modified,
        approved, signed, emails, domains, users, orgs, ()) =>
      ⟨id, type, reference, refId, refName, company, project, user, created, modified,
        approved, signed, emails, domains, users, orgs⟩)
    (fun s => (s.id, s.type, s.referenceType, s.referenceId, s.referenceName, s.companyName,
      s.projectId, s.userName, s.created, s.modified, s.approved, s.signed, s.emails, s.domains,
      s.githubUsernames, s.githubOrgs, ()))

end Signature

/-- One page of a listing. A page without records may leave them out altogether. -/
structure SignaturePage where
  signatures : Option (List Signature)
  resultCount : Option UInt64
  lastKeyScanned : Option String
  projectId : Option String
deriving Repr, DecidableEq

namespace SignaturePage

def empty : SignaturePage := ⟨none, none, none, none⟩

def records (p : SignaturePage) : List Signature := p.signatures.getD []

/-- Where the next page starts; a blank key means that there is none. -/
def cursor? (p : SignaturePage) : Option String :=
  p.lastKeyScanned.filter fun key => !Text.isBlank key

def codec : Codec SignaturePage :=
  (Codec.record
    (.nullable "signatures" [] Signature.codec.list <|
     .omitted "resultCount" [] .word64 <|
     .omitted "lastKeyScanned" [] .text <|
     .omitted "projectID" [] .text .nil)).map
    (fun (signatures, count, key, project, ()) => ⟨signatures, count, key, project⟩)
    (fun p => (p.signatures, p.resultCount, p.lastKeyScanned, p.projectId, ()))

end SignaturePage

/-- An organization on GitHub, and whether it is on the allow-list. -/
structure GithubOrg where
  id : String
  selected : Bool
  connectionStatus : Option String
deriving Repr, DecidableEq

namespace GithubOrg

def codec : Codec GithubOrg :=
  (Codec.record
    (.required "id" [] .text <|
     .defaulted "selected" [] .flag false <|
     .omitted "connectionStatus" [] .text .nil)).map
    (fun (id, selected, status, ()) => ⟨id, selected, status⟩)
    (fun o => (o.id, o.selected, o.connectionStatus, ()))

/-- The organizations that are switched on. -/
def enabled (orgs : List GithubOrg) : List GithubOrg := orgs.filter (·.selected)

end GithubOrg
end SignatureDesk
