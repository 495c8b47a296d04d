/-
The view of one company in one project: six sections, each loaded or failed on
its own. Two of them, the organizations and the managers, belong to the current
corporate signature and are only looked up when there is one.
-/
import SignatureDesk.Agreement.Reconcile
import SignatureDesk.Reconcile.Lookup

namespace SignatureDesk

/-- A part of a view. -/
inductive Section (α : Type) where
  | loaded (a : α)
  | failed (text : String)
deriving Repr

namespace Section

variable {α : Type}

def ofExcept : Except Failure α → Section α
  | .ok a => .loaded a
  | .error e => .failed e.text

def getD (a : α) : Section α → α
  | .loaded b => b
  | .failed _ => a

def toJson (encode : α → Json) : Section α → Json
  | .loaded a => .obj [("status", .str "loaded"), ("data", encode a)]
  | .failed t => .obj [("status", .str "failed"), ("data", .str t)]

end Section

structure CompanyProjectView where
  companyId : String
  projectId : String
  project : Section Project
  company : Section Company
  /-- The current corporate signature, in normal form. -/
  corporate : Section (Option Signature)
  employees : Section (List Signature)
  organizations : Section (List GithubOrg)
  managers : Section (List ClaManager)

namespace CompanyProjectView

/-- The organizations that are switched on. -/
def enabledOrganizations (v : CompanyProjectView) : List GithubOrg :=
  GithubOrg.enabled (v.organizations.getD [])

def toJson (v : CompanyProjectView) : Json :=
  .obj
    [("companyId", .str v.companyId),
     ("projectId", .str v.projectId),
     ("project", v.project.toJson Project.codec.encode),
     ("company", v.company.toJson Company.codec.encode),
     ("cclaSignature", v.corporate.toJson Signature.codec.optional.encode),
     ("employeeSignatures", v.employees.toJson Signature.codec.list.encode),
     ("githubOrgs", v.organizations.toJson GithubOrg.codec.list.encode),
     ("enabledGithubOrgs", GithubOrg.codec.list.encode v.enabledOrganizations),
     ("claManagers", v.managers.toJson ClaManager.codec.list.encode)]

/-- Why nothing is known of what belongs to a corporate signature that could not be loaded. -/
def corporateUnavailable : String := "corporate signature unavailable"

/-- The organizations and managers of a corporate signature. -/
def details (companyId projectId : String) :
    Section (Option Signature) → Search (Section (List GithubOrg) × Section (List ClaManager))
  | .loaded (some corporate) => do
    let organizations ← Search.look (.organizations companyId projectId)
    let managers ← Search.look (.managers corporate.id)
    return (.ofExcept organizations, .ofExcept managers)
  | .loaded none => return (.loaded [], .loaded [])
  | .failed _ => return (.failed corporateUnavailable, .failed corporateUnavailable)

/-- Looks everything up. -/
def load (companyId projectId : String) : Search CompanyProjectView := do
  let project ← Search.look (.project projectId)
  let company ← Search.look (.company companyId)
  let corporate ← Search.look (.corporate companyId projectId)
  let employees ← Search.look (.employees companyId projectId)
  let corporate := Section.ofExcept (corporate.map SignaturePage.corporate?)
  let employees := Section.ofExcept
    (employees.map fun page => Signature.sortByUserName page.records)
  let (organizations, managers) ← details companyId projectId corporate
  return { companyId, projectId, project := .ofExcept project, company := .ofExcept company,
           corporate, employees, organizations, managers }

end CompanyProjectView

/-- The current corporate signature of a company in a project, in normal form. -/
def currentCorporate (companyId projectId : String) : ExceptT Failure Search (Option Signature) := do
  let page ← Search.need (.corporate companyId projectId)
  return SignaturePage.corporate? page

/-- The employees of a company who signed for a project, by name. -/
def employeeListing (companyId projectId : String) : ExceptT Failure Search (List Signature) := do
  let page ← Search.need (.employees companyId projectId)
  return Signature.sortByUserName (SignaturePage.records page)

end SignatureDesk
