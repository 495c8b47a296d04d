/-
Records of the member platform: users and their groups, projects, and the
version it tells about itself.
-/
import SignatureDesk.Json.Codec

namespace SignatureDesk

/-- A group of platform users; its name is what gives a role. -/
structure Group where
  id : Option Int64
  name : String
deriving Repr, DecidableEq

def Group.codec : Codec Group :=
  (Codec.record (.nullable "groupId" [] .int64 <| .required "name" [] .text .nil)).map
    (fun (id, name, ()) => ⟨id, name⟩)
    (fun g => (g.id, g.name, ()))

/-- What a user may do on the platform. -/
structure UserRoles where
  lfId : String
  isUser : Bool
  isAdmin : Bool
  isProjectManager : Bool
deriving Repr, DecidableEq

def UserRoles.codec : Codec UserRoles :=
  (Codec.record
    (.required "lfId" [] .text <|
     .required "isUser" [] .flag <|
     .required "isAdmin" [] .flag <|
     .required "isProjectManager" [] .flag .nil)).map
    (fun (lfId, user, admin, manager, ()) => ⟨lfId, user, admin, manager⟩)
    (fun r => (r.lfId, r.isUser, r.isAdmin, r.isProjectManager, ()))

structure PlatformUser where
  userId : Option String
  lfId : String
  email : Option String
  groups : List Group
  calendar : Option String
deriving Repr, DecidableEq

namespace PlatformUser

def codec : Codec PlatformUser :=
  (Codec.record
    (.nullable "userId" [] .text <|
     .required "lfId" [] .text <|
     .nullable "email" [] .text <|
     .defaulted "groups" [] Group.codec.list [] <|
     .nullable "calendar" [] .text .nil)).map
    (fun (userId, lfId, email, groups, calendar, ()) => ⟨userId, lfId, email, groups, calendar⟩)
    (fun u => (u.userId, u.lfId, u.email, u.groups, u.calendar, ()))

def inGroup (u : PlatformUser) (name : String) : Bool := u.groups.any (·.name == name)

/-- The roles that the names of the groups give. -/
def roles (u : PlatformUser) : UserRoles :=
  ⟨u.lfId, u.inGroup "USER", u.inGroup "ADMIN", u.inGroup "PROJECT_MANAGER"⟩

end PlatformUser

structure PlatformVersion where
  version : Option String
  commit : Option String
  branch : Option String
  buildTime : Option String
deriving Repr, DecidableEq

def PlatformVersion.codec : Codec PlatformVersion :=
  (Codec.record
    (.nullable "version" [] .text <|
     .nullable "commit" [] .text <|
     .nullable "branch" [] .text <|
     .nullable "buildTimeUtc" [] .text .nil)).map
    (fun (version, commit, branch, time, ()) => ⟨version, commit, branch, time⟩)
    (fun v => (v.version, v.commit, v.branch, v.buildTime, ()))

structure PlatformProject where
  id : String
  name : Option String
  extra : Members
deriving Repr

def PlatformProject.codec : Codec PlatformProject :=
  (Codec.recordKeeping (.required "id" [] .text <| .nullable "name" [] .text .nil)).map
    (fun ((id, name, ()), extra) => ⟨id, name, extra⟩)
    (fun p => ((p.id, p.name, ()), p.extra))

end SignatureDesk
