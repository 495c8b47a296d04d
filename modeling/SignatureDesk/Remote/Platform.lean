/-
The endpoints of the member platform that the console calls. The console's own
account serves for one of them, the exchange of an identity for keys; the others
are signed with such keys, except the version, which anyone may ask for.
-/
import SignatureDesk.Records.Platform
import SignatureDesk.Remote.Call

namespace SignatureDesk.Platform

/-! ## Paths -/

def keysPath (lfId : String) : String := "auth/trusted/cas/" ++ lfId

def usersPath : String := "users/"

def userPath (userId : String) : String := usersPath ++ userId ++ "/"

def userGroupsPath (userId : String) : String := userPath userId ++ "group/"

def userGroupPath (userId groupId : String) : String := userGroupsPath userId ++ groupId ++ "/"

def projectsPath : String := "projects/"

def projectPath (projectId : String) : String := projectsPath ++ projectId

/-! ## Calls -/

def call (creds : Credentials) (method : Method) (path : String) (body : Option Json) : Call :=
  ⟨.platform, method, path, body, creds⟩

def get (creds : Credentials) (path : String) : Call := call creds .get path none

/-- Exchanges an identity for its keys; `creds` is the console's own account. -/
def keys (creds : Credentials) (lfId : String) : Remote ApiKeys :=
  .fetch (get creds (keysPath lfId)) ("Unable to get keys for LfId of [" ++ lfId ++ "]")
    ApiKeys.codec

def version : Remote PlatformVersion :=
  .fetch (get .anonymous "about/version") "Unable to get platform version" PlatformVersion.codec

/-- What a reply to the creation of a user says: whether the user is new. -/
def createdUser (lfId : String) (r : Reply) : Except Failure Bool :=
  match r.status with
  | 201 => .ok true
  | 409 => .ok false
  | s => .error (.ofStatus s ("User with lfId of [" ++ lfId ++ "] not created") r.body)

def createUser (creds : Credentials) (lfId : String) : Remote Bool := do
  let r ← Remote.call (call creds .post usersPath (some (.obj [("lfId", .str lfId)])))
  Remote.ofExcept (createdUser lfId r)

/-- A message about the user with an id. -/
def aboutUser (userId what : String) : String := "User with id of [" ++ userId ++ "] " ++ what

def user (creds : Credentials) (userId : String) : Remote PlatformUser :=
  .fetch (get creds (userPath userId)) (aboutUser userId "could not be retrieved") PlatformUser.codec

def updateUser (creds : Credentials) (userId : String) (update : Json) : Remote PlatformUser :=
  .fetch (call creds .put (userPath userId) (some update)) (aboutUser userId "could not be updated")
    PlatformUser.codec

def removeUser (creds : Credentials) (userId : String) : Remote Unit := do
  let _ ← Remote.succeed (call creds .delete (userPath userId) none)
    ("Unable to delete user with id of [" ++ userId ++ "]")

/-- The roles of all users. -/
def users (creds : Credentials) : Remote (List UserRoles) := do
  let us ← Remote.fetch (get creds usersPath) "Unable to list users" PlatformUser.codec.list
  return us.map PlatformUser.roles

def groups (creds : Credentials) : Remote (List Group) :=
  .fetch (get creds "usergroups/") "Unable to look up usergroups" Group.codec.list

/-- What a reply to an addition to a group says: the user as it then is, or, when
the reply has no content, that the user was in the group already. -/
def addedGroup (userId : String) (r : Reply) : Except Failure (Option PlatformUser) :=
  if r.status = 204 then .ok none
  else do
    let r ← r.checked (aboutUser userId "could not have group added")
    (r.read PlatformUser.codec).map some

def addGroup (creds : Credentials) (userId : String) (g : Group) : Remote (Option PlatformUser) := do
  let r ← Remote.call (call creds .post (userGroupsPath userId) (some (Group.codec.encode g)))
  Remote.ofExcept (addedGroup userId r)

def removeGroup (creds : Credentials) (userId groupId : String) : Remote Unit := do
  let _ ← Remote.succeed (call creds .delete (userGroupPath userId groupId) none)
    ("Unable to delete group with id of [" ++ groupId ++ "] from user with id of [" ++ userId ++ "]")

def projects (creds : Credentials) : Remote (List PlatformProject) :=
  .fetch (get creds projectsPath) "Unable to list projects" PlatformProject.codec.list

/-- The projects that the caller manages. -/
def managedProjects (creds : Credentials) : Remote (List PlatformProject) :=
  .fetch (get creds "project/") "Unable to list managed projects" PlatformProject.codec.list

def project (creds : Credentials) (projectId : String) : Remote PlatformProject :=
  .fetch (get creds (projectPath projectId))
    ("Project with id of [" ++ projectId ++ "] could not be retrieved") PlatformProject.codec

def projectMembers (creds : Credentials) (projectId : String) : Remote (List Json) :=
  .fetch (get creds (projectPath projectId ++ "/members"))
    ("Unable to list members of project [" ++ projectId ++ "]") Codec.any.list

end SignatureDesk.Platform
