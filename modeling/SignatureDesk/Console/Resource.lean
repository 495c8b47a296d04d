/-
The resources of the console and their paths. Three of them are free; the others
are guarded, and only served to sessions. The texts in a path are
percent-decoded once it is known which resource it names.
-/
import SignatureDesk.Url.Percent

namespace SignatureDesk

inductive FreeResource where
  | health
  | status
  | login
deriving Repr, DecidableEq

inductive Resource where
  | logout
  /-- The user of the session. -/
  | currentUser
  | users
  | roles
  | user (userId : String)
  | userRoles (userId : String)
  | userRole (userId roleId : String)
  /-- The projects that the user of the session manages. -/
  | managedProjects
  | projects
  | project (projectId : String)
  | projectMembers (projectId : String)
  | projectSignatures (projectId : String)
  | companies
  | inviteRequests (companyId : String)
  | companyProject (companyId projectId : String)
  /-- The allow-list of a kind. -/
  | allowList (companyId projectId kind : String)
  | managers (companyId projectId : String)
  | manager (companyId projectId lfId : String)
deriving Repr, DecidableEq

/-- What a path leads to. -/
inductive Target where
  | free (r : FreeResource)
  | guarded (r : Resource)
deriving Repr, DecidableEq

namespace Resource

/-- Reads every text in it anew. -/
def mapTexts? (f : String → Option String) : Resource → Option Resource
  | logout => some logout
  | currentUser => some currentUser
  | users => some users
  | roles => some roles
  | user u => do return user (← f u)
  | userRoles u => do return userRoles (← f u)
  | userRole u r => do return userRole (← f u) (← f r)
  | managedProjects => some managedProjects
  | projects => some projects
  | project p => do return project (← f p)
  | projectMembers p => do return projectMembers (← f p)
  | projectSignatures p => do return projectSignatures (← f p)
  | companies => some companies
  | inviteRequests c => do return inviteRequests (← f c)
  | companyProject c p => do return companyProject (← f c) (← f p)
  | allowList c p k => do return allowList (← f c) (← f p) (← f k)
  | managers c p => do return managers (← f c) (← f p)
  | manager c p l => do return manager (← f c) (← f p) (← f l)

/-- The resource with its texts percent-decoded. -/
def decoded? : Resource → Option Resource :=
  mapTexts? fun s => Text.ofUtf8? (Url.percentDecode s.toList)

end Resource

namespace Target

/-- What the segments of a path lead to. -/
def ofSegments? : List String → Option Target
  | ["health"] => some (.free .health)
  | ["status"] => some (.free .status)
  | ["login"] => some (.free .login)
  | ["logout"] => some (.guarded .logout)
  | ["user"] => some (.guarded .currentUser)
  | ["users"] => some (.guarded .users)
  | ["users", "roles"] => some (.guarded .roles)
  | ["users", u] => some (.guarded (.user u))
  | ["users", u, "role"] => some (.guarded (.userRoles u))
  | ["users", u, "role", r] => some (.guarded (.userRole u r))
  | ["project"] => some (.guarded .managedProjects)
  | ["projects"] => some (.guarded .projects)
  | ["projects", p] => some (.guarded (.project p))
  | ["projects", p, "members"] => some (.guarded (.projectMembers p))
  | ["projects", p, "signatures"] => some (.guarded (.projectSignatures p))
  | ["company"] => some (.guarded .companies)
  | ["company", c, "invite-request"] => some (.guarded (.inviteRequests c))
  | ["company", c, "project", p, "signatures"] => some (.guarded (.companyProject c p))
  | ["company", c, "project", p, "allow-list", k] => some (.guarded (.allowList c p k))
  | ["company", c, "project", p, "managers"] => some (.guarded (.managers c p))
  | ["company", c, "project", p, "managers", l] => some (.guarded (.manager c p l))
  | _ => none

/-- What a path leads to; no segment of it may be empty. -/
def ofPath? : List Char → Option Target
  | '/' :: rest =>
    let segments := rest.splitOn '/'
    if segments.all (!·.isEmpty) then ofSegments? (segments.map String.ofList) else none
  | _ => none

end Target
end SignatureDesk
