/-
The endpoints of the agreement service that the console calls.
-/
import SignatureDesk.Agreement.Signature
import SignatureDesk.AllowList.Change
import SignatureDesk.Listing.PageQuery
import SignatureDesk.Records.Agreement
import SignatureDesk.Remote.Wire

namespace SignatureDesk.Cla

/-! ## Paths -/

def userPath (userId : String) : String := "/v1/user/" ++ userId

def companyPath (companyId : String) : String := "/v2/company/" ++ companyId

def projectPath (projectId : String) : String := "/v2/project/" ++ projectId

def invitePath (companyId : String) : String := "/v3/company/" ++ companyId ++ "/invite-request"

def corporatePath (companyId projectId : String) : String :=
  "/v1/signatures/company/" ++ companyId ++ "/project/" ++ projectId

def employeePath (companyId projectId : String) : String :=
  corporatePath companyId projectId ++ "/employee"

def listingPath (projectId : String) : String := "/v3/signatures/project/" ++ projectId

def approvalPath (projectId companyId : String) : String :=
  listingPath projectId ++ "/company/" ++ companyId ++ "/approval-list"

def organizationPath (companyId projectId : String) : String :=
  "/v3/company/" ++ companyId ++ "/cla/" ++ projectId ++ "/whitelist/githuborg"

def managerPath (signatureId : String) : String := "/v1/signature/" ++ signatureId ++ "/manager"

/-! ## Calls -/

def call (creds : Credentials) (method : Method) (path : String) (body : Option Json) : Call :=
  ⟨.cla, method, path, body, creds⟩

def get (creds : Credentials) (path : String) : Call := call creds .get path none

def user (creds : Credentials) (userId : String) : Remote User :=
  .fetch (get creds (userPath userId)) ("User " ++ userId ++ " could not be retrieved") User.codec

def company (creds : Credentials) (companyId : String) : Remote Company :=
  .fetch (get creds (companyPath companyId)) ("Company " ++ companyId ++ " could not be retrieved")
    Company.codec

def project (creds : Credentials) (projectId : String) : Remote Project :=
  .fetch (get creds (projectPath projectId)) ("Project " ++ projectId ++ " could not be retrieved")
    Project.codec

/-- The company of a reply to its creation. A conflict that names the company in
the way is told as such. -/
def createdCompany (c : NewCompany) (r : Reply) : Except Failure Company :=
  match if r.status = 409 then (r.read CompanyConflict.codec).toOption else none with
  | some conflict => .error (.companyExists conflict.id (conflict.name.getD c.name))
  | none => do
    let r ← r.checked ("Company " ++ c.name ++ " could not be created")
    r.read Company.codec

def createCompany (creds : Credentials) (c : NewCompany) : Remote Company := do
  let r ← Remote.call (call creds .post "/v1/company" (some (NewCompany.codec.encode c)))
  Remote.ofExcept (createdCompany c r)

/-- Asks the managers of a company to let the caller in. -/
def requestInvite (creds : Credentials) (companyId : String) : Remote Unit := do
  let _ ← Remote.succeed (call creds .post (invitePath companyId) none)
    ("Unable to request access to company " ++ companyId)

def corporateSignatures (creds : Credentials) (companyId projectId : String) :
    Remote SignaturePage :=
  .fetch (get creds (corporatePath companyId projectId)) "Unable to load company project signatures"
    SignaturePage.codec

def employeeSignatures (creds : Credentials) (companyId projectId : String) :
    Remote SignaturePage :=
  .fetch (get creds (employeePath companyId projectId)) "Unable to load employee project signatures"
    SignaturePage.codec

/-- One page of a project's listing. -/
def page (creds : Credentials) (projectId : String) (query : PageQuery) : Remote SignaturePage := do
  let path ← Remote.ofExcept (queried (listingPath projectId) query.toPairs)
  Remote.fetch (get creds path) "Unable to load project signatures" SignaturePage.codec

/-- Applies a change to the approval lists, for the signature as it then is. -/
def updateApprovalList (creds : Credentials) (projectId companyId : String) (change : ApprovalChange) :
    Remote Signature :=
  .fetch
    (call creds .put (approvalPath projectId companyId) (some (ApprovalChange.codec.encode change)))
    "Unable to update approval list" Signature.codec

def organizations (creds : Credentials) (companyId projectId : String) : Remote (List GithubOrg) :=
  .fetch (get creds (organizationPath companyId projectId))
    "Unable to load GitHub organization allow-list" GithubOrg.codec.list

/-- What is sent about an organization. -/
def organizationBody (id : String) : Json := .obj [("id", .str id)]

def addOrganization (creds : Credentials) (companyId projectId id : String) :
    Remote (List GithubOrg) :=
  .fetch (call creds .post (organizationPath companyId projectId) (some (organizationBody id)))
    "Unable to add GitHub organization to allow-list" GithubOrg.codec.list

def removeOrganization (creds : Credentials) (companyId projectId id : String) :
    Remote (List GithubOrg) :=
  .fetch (call creds .delete (organizationPath companyId projectId) (some (organizationBody id)))
    "Unable to remove GitHub organization from allow-list" GithubOrg.codec.list

def managers (creds : Credentials) (signatureId : String) : Remote (List ClaManager) :=
  .fetch (get creds (managerPath signatureId))
    ("Unable to load CLA managers of signature " ++ signatureId) ClaManager.codec.list

def addManager (creds : Credentials) (signatureId lfId : String) : Remote Unit := do
  let _ ← Remote.succeed
    (call creds .post (managerPath signatureId) (some (.obj [("lfid", .str lfId)])))
    ("Unable to add CLA manager " ++ lfId)

def removeManager (creds : Credentials) (signatureId lfId : String) : Remote Unit := do
  let _ ← Remote.succeed
    (call creds .delete (managerPath signatureId ++ "/" ++ lfId) none)
    ("Unable to remove CLA manager " ++ lfId)

end SignatureDesk.Cla
