/-
What has to be looked up to reconcile signatures, and how the agreement service
is asked for it.
-/
import SignatureDesk.Remote.Cla

namespace SignatureDesk

inductive Lookup where
  | company (companyId : String)
  | project (projectId : String)
  | corporate (companyId projectId : String)
  | employees (companyId projectId : String)
  | page (projectId : String) (query : PageQuery)
  | organizations (companyId projectId : String)
  | managers (signatureId : String)
deriving Repr, DecidableEq

namespace Lookup

/-- What each lookup finds. -/
def Found : Lookup → Type
  | .company _ => Company
  | .project _ => Project
  | .corporate _ _ | .employees _ _ | .page _ _ => SignaturePage
  | .organizations _ _ => List GithubOrg
  | .managers _ => List ClaManager

/-- Asks the service. -/
def ask (creds : Credentials) : (q : Lookup) → Remote q.Found
  | .company companyId => Cla.company creds companyId
  | .project projectId => Cla.project creds projectId
  | .corporate companyId projectId => Cla.corporateSignatures creds companyId projectId
  | .employees companyId projectId => Cla.employeeSignatures creds companyId projectId
  | .page projectId query => Cla.page creds projectId query
  | .organizations companyId projectId => Cla.organizations creds companyId projectId
  | .managers signatureId => Cla.managers creds signatureId

end Lookup

/-- Work that looks things up, each of which may fail. -/
abbrev Search := Dialogue Lookup (fun q => Except Failure q.Found)

namespace Search

variable {α : Type}

/-- Looks one thing up and goes on whatever comes of it. -/
def look (q : Lookup) : Search (Except Failure q.Found) := Dialogue.question q

/-- Looks one thing up, which has to be there. -/
def need (q : Lookup) : ExceptT Failure Search q.Found := Attempt.question q

/-- Carries a search out at the agreement service. -/
def carry (creds : Credentials) (s : Search α) : Calling α :=
  s.interpret fun q => (Lookup.ask creds q).run

/-- The same for a search that may fail. -/
def remote (creds : Credentials) (s : ExceptT Failure Search α) : Remote α :=
  ExceptT.mk (carry creds s.run)

end Search
end SignatureDesk
