/-
Edits of what belongs to a corporate signature: its allow-lists and its
managers. Each is made only once the current corporate signature of the company
in the project has been found.
-/
import SignatureDesk.Reconcile.View

namespace SignatureDesk.Corporate

/-- The current corporate signature, which has to be there. -/
def current (creds : Credentials) (companyId projectId : String) : Remote Signature := do
  match ← Search.remote creds (currentCorporate companyId projectId) with
  | some s => return s
  | none => throw (.missingCorporate companyId projectId)

/-- What an edit of an allow-list comes to. -/
inductive Update where
  /-- The signature with its lists as they then are. -/
  | signature (s : Signature)
  | organizations (orgs : List GithubOrg)
deriving Repr, DecidableEq

def Update.toJson : Update → Json
  | signature s => Signature.codec.encode s
  | organizations orgs =>
    .obj [("githubOrgs", GithubOrg.codec.list.encode orgs),
          ("enabledGithubOrgs", GithubOrg.codec.list.encode (GithubOrg.enabled orgs))]

/-- The organization that a value names. One that is to be added has to be valid,
one that is to be removed only has to be something. -/
def organization (edit : Edit) (value : String) : Except Failure String :=
  match edit with
  | .add => AllowListKind.githubOrg.validate value
  | .remove =>
    let entry := Text.trim value
    if entry.isEmpty then .error (.invalidEntry AllowListKind.githubOrg.name value) else .ok entry

/-- Switches one organization. -/
def switch (creds : Credentials) (edit : Edit) (companyId projectId entry : String) :
    Remote (List GithubOrg) :=
  match edit with
  | .add => Cla.addOrganization creds companyId projectId entry
  | .remove => Cla.removeOrganization creds companyId projectId entry

/-- Switches the organizations that values name one after the other, for the list
that comes back last. -/
def switchAll (creds : Credentials) (edit : Edit) (companyId projectId : String)
    (last : List GithubOrg) : List String → Remote (List GithubOrg)
  | [] => return last
  | value :: rest => do
    let entry ← Remote.ofExcept (organization edit value)
    let orgs ← switch creds edit companyId projectId entry
    switchAll creds edit companyId projectId orgs rest

/-- Edits the allow-list of a kind. -/
def editList (creds : Credentials) (edit : Edit) (companyId projectId : String)
    (kind : AllowListKind) (values : List String) : Remote Update := do
  if kind = .githubOrg then
    return .organizations (← switchAll creds edit companyId projectId [] values)
  else
    let change ← Remote.ofExcept (ApprovalChange.ofEdit kind edit values)
    let s ← Cla.updateApprovalList creds projectId companyId change
    return .signature s.normalize

/-- Edits the allow-list of the kind that a word names, given values to edit it by. -/
def edit (creds : Credentials) (edit : Edit) (companyId projectId word : String)
    (values : List String) : Remote Update := do
  let kind ← Remote.ofExcept ((AllowListKind.ofWord word).mapError Failure.validation)
  if values.isEmpty then throw (.validation "values must not be empty")
  else
    let _ ← current creds companyId projectId
    editList creds edit companyId projectId kind values

/-- Makes someone a manager, for all managers there then are. -/
def addManager (creds : Credentials) (companyId projectId lfId : String) :
    Remote (List ClaManager) := do
  let lfId := Text.trim lfId
  if lfId.isEmpty then throw (.validation "lfId must not be empty")
  else
    let s ← current creds companyId projectId
    Cla.addManager creds s.id lfId
    Cla.managers creds s.id

/-- Ends that someone is a manager. -/
def removeManager (creds : Credentials) (companyId projectId lfId : String) :
    Remote (List ClaManager) := do
  let s ← current creds companyId projectId
  Cla.removeManager creds s.id lfId
  Cla.managers creds s.id

end SignatureDesk.Corporate
