/-
How the operations of a session are done, and what they are answered with.
-/
import SignatureDesk.Config.Basic
import SignatureDesk.Console.Corporate
import SignatureDesk.Console.Permission
import SignatureDesk.Reconcile.Listing
import SignatureDesk.Remote.Platform
import SignatureDesk.Session.Store

namespace SignatureDesk.Operation

/-- Creates a company; its name has to be something. -/
def makeCompany (creds : Credentials) (c : NewCompany) : Remote Company := do
  let name := Text.trim c.name
  if name.isEmpty then throw (.validation "companyName must not be empty")
  else Cla.createCompany creds { c with name }

/-- The rows of a listing in the order asked for. -/
def sortedRows (l : ProjectListing) : Option SortSpec → List Json
  | none => l.rows
  | some spec => spec.apply l.rows

/-- Does the operation for a session that may have it done. -/
def execute (limits : Config.Limits) (s : Session) : Operation → Remote Answer
  | logout => return .done
  | currentUser => do
    let u ← Platform.user s.platformCredentials (s.userId.getD s.lfId)
    return .ok (PlatformUser.codec.encode u)
  | users => do
    let us ← Platform.users s.platformCredentials
    return .ok (UserRoles.codec.list.encode us)
  | createUser lfId => do
    let created ← Platform.createUser s.platformCredentials lfId
    return ⟨if created then 201 else 200, .json (.obj [("lfId", .str lfId), ("created", .bool created)])⟩
  | roles => do
    let gs ← Platform.groups s.platformCredentials
    return .ok (Group.codec.list.encode gs)
  | user u => do
    let u ← Platform.user s.platformCredentials u
    return .ok (PlatformUser.codec.encode u)
  | updateUser u update => do
    let u ← Platform.updateUser s.platformCredentials u (UserUpdate.codec.encode update).canonical
    return .ok (PlatformUser.codec.encode u)
  | removeUser u => do
    Platform.removeUser s.platformCredentials u
    return .done
  | addRole u g => do
    let u ← Platform.addGroup s.platformCredentials u g
    return .ok (PlatformUser.codec.optional.encode u)
  | removeRole u g => do
    Platform.removeGroup s.platformCredentials u g
    return .done
  | managedProjects => do
    let ps ← Platform.managedProjects s.platformCredentials
    return .ok (PlatformProject.codec.list.encode ps)
  | projects => do
    let ps ← Platform.projects s.platformCredentials
    return .ok (PlatformProject.codec.list.encode ps)
  | project p => do
    let p ← Platform.project s.platformCredentials p
    return .ok (PlatformProject.codec.encode p)
  | projectMembers p => do
    let ms ← Platform.projectMembers s.platformCredentials p
    return .ok (.arr ms)
  | projectSignatures p filter sort => do
    let l ← Search.remote s.claCredentials
      (ProjectListing.load limits.pageSize limits.maxPages.toNat p filter)
    return .ok (l.toJson (sortedRows l sort))
  | createCompany c => do
    let c ← makeCompany s.claCredentials c
    return ⟨201, .json (Company.codec.encode c)⟩
  | requestInvite c => do
    Cla.requestInvite s.claCredentials c
    return ⟨202, .json (.obj [("companyId", .str c), ("requested", .bool true)])⟩
  | companyProject c p => do
    let v ← ExceptT.lift (Search.carry s.claCredentials (CompanyProjectView.load c p))
    return .ok v.toJson
  | editAllowList edit c p kind values => do
    let u ← Corporate.edit s.claCredentials edit c p kind values
    return .ok u.toJson
  | addManager c p lfId => do
    let ms ← Corporate.addManager s.claCredentials c p lfId
    return .ok (ClaManager.codec.list.encode ms)
  | removeManager c p lfId => do
    let ms ← Corporate.removeManager s.claCredentials c p lfId
    return .ok (ClaManager.codec.list.encode ms)

/-- Does the operation if the session may have it done. -/
def perform (limits : Config.Limits) (s : Session) (o : Operation) : Remote Answer := do
  Remote.ofExcept (o.permit s)
  o.execute limits s

/-- What the operation does to the sessions, once it has been done. -/
def change (s : Session) : Operation → StoreChange
  | logout => .closes s.id
  | _ => .keep

end SignatureDesk.Operation
