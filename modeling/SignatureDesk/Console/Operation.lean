/-
The operations of the console with all that they are told, read from a resource,
a verb, a query and a body.
-/
import SignatureDesk.AllowList.Change
import SignatureDesk.Console.Exchange
import SignatureDesk.Console.Media
import SignatureDesk.Console.Resource
import SignatureDesk.Json.Reader
import SignatureDesk.Listing.PageQuery
import SignatureDesk.Listing.Sort
import SignatureDesk.Records.Agreement
import SignatureDesk.Records.Platform

namespace SignatureDesk

/-- What a caller gives to sign in. -/
structure Login where
  lfId : String
  idToken : Option String
deriving Repr, DecidableEq

/-- What is to be changed about a user. -/
structure UserUpdate where
  userId : Option String
  email : Option String
  calendar : Option String
deriving Repr, DecidableEq

/-- An operation that anyone may ask for. -/
inductive FreeOperation where
  | health
  | status
  | login (l : Login)
deriving Repr, DecidableEq

/-- An operation that is done for a session. -/
inductive Operation where
  | logout
  | currentUser
  | users
  | createUser (lfId : String)
  | roles
  | user (userId : String)
  | updateUser (userId : String) (update : UserUpdate)
  | removeUser (userId : String)
  | addRole (userId : String) (group : Group)
  | removeRole (userId groupId : String)
  | managedProjects
  | projects
  | project (projectId : String)
  | projectMembers (projectId : String)
  | projectSignatures (projectId : String) (filter : PageQuery) (sort : Option SortSpec)
  | createCompany (company : NewCompany)
  | requestInvite (companyId : String)
  | companyProject (companyId projectId : String)
  | editAllowList (edit : Edit) (companyId projectId kind : String) (values : List String)
  | addManager (companyId projectId lfId : String)
  | removeManager (companyId projectId lfId : String)
deriving Repr, DecidableEq

/-! ## Bodies -/

def Login.codec : Codec Login :=
  (Codec.record (.required "lfId" [] .text <| .nullable "idToken" [] .text .nil)).map
    (fun (lfId, token, ()) => ⟨lfId, token⟩) (fun l => (l.lfId, l.idToken, ()))

def UserUpdate.codec : Codec UserUpdate :=
  (Codec.record
    (.nullable "userId" [] .text <| .nullable "email" [] .text <| .nullable "calendar" [] .text .nil)).map
    (fun (userId, email, calendar, ()) => ⟨userId, email, calendar⟩)
    (fun u => (u.userId, u.email, u.calendar, ()))

namespace Body

/-- A body of one field. -/
def single {α : Type} (name : String) (others : List String) (c : Codec α) : Codec α :=
  (Codec.record (.required name others c .nil)).map (fun (a, ()) => a) (fun a => (a, ()))

def newUser : Codec String := single "lfId" [] .text

def role : Codec Group := single "role" [] Group.codec

def values : Codec (List String) := single "values" [] Codec.text.list

def manager : Codec String := single "lfId" ["lfid"] .text

def newCompany : Codec NewCompany :=
  (Codec.record
    (.required "companyName" [] .text <|
     .nullable "companyManagerUserEmail" [] .text <|
     .nullable "companyManagerUserName" [] .text <|
     .nullable "companyManagerId" [] .text .nil)).map
    (fun (name, email, manager, id, ()) => ⟨name, email, manager, id⟩)
    (fun c => (c.name, c.managerEmail, c.managerName, c.managerId, ()))

/-- The body of a request; text behind its value does not count. -/
def read {α : Type} (c : Codec α) (i : Incoming) : Except Rejection α :=
  if i.contentType.any Media.isJson then
    (c.decode (Json.readText i.body).1).mapError Rejection.ofFault
  else .error .media

end Body

/-! ## Queries -/

namespace Query

/-- The field of a name, which may be given once, and has to be readable when it is. -/
def field {α : Type} (pairs : List (String × String)) (name : String) (read : String → Option α) :
    Except Rejection (Option α) :=
  match pairs.filter (·.1 == name) with
  | [] => .ok none
  | [(_, value)] => (read value).elim (.error .query) fun a => .ok (some a)
  | _ => .error .query

/-- A number of 32 bits; a plus sign may stand before it. -/
def word32? (s : String) : Option UInt32 :=
  let digits := match s.toList with
    | '+' :: rest => rest
    | cs => cs
  if digits.isEmpty || !digits.all Text.isAsciiDigit then none
  else
    let n := Instant.ofDigits digits
    if n < Nat.pow 2 32 then some (.ofNat n) else none

def flag? : String → Option Bool
  | "true" => some true
  | "false" => some false
  | _ => none

/-- What a listing is restricted to. -/
def filter (pairs : List (String × String)) : Except Rejection PageQuery := do
  return {
    pageSize := ← field pairs "pageSize" word32?
    nextKey := ← field pairs "nextKey" some
    claType := ← field pairs "claType" some
    searchTerm := ← field pairs "searchTerm" some
    searchField := ← field pairs "searchField" some
    fullMatch := ← field pairs "fullMatch" flag? }

/-- What a listing is sorted by; by text and ascending unless told otherwise. -/
def sort (pairs : List (String × String)) : Except Rejection (Option SortSpec) := do
  let name ← field pairs "sort" some
  let kind ← field pairs "kind" SortKind.ofName?
  let direction ← field pairs "direction" Direction.ofName?
  return name.map fun name => ⟨name, kind.getD .text, direction.getD .asc⟩

end Query

/-! ## Reading -/

/-- The verb that is served: the head of something is had by getting it. -/
def Verb.served : Verb → Verb
  | .head => .get
  | v => v

namespace FreeOperation

/-- What a request asks of a resource; none when the resource does not know the verb. -/
def read? (r : FreeResource) (i : Incoming) : Option (Except Rejection FreeOperation) :=
  match i.verb.served, r with
  | .get, .health => some (.ok .health)
  | .get, .status => some (.ok .status)
  | .post, .login => some ((Body.read Login.codec i).map login)
  | _, _ => none

end FreeOperation

namespace Operation

/-- What a request asks of a resource with decoded texts. -/
def ofDecoded? (r : Resource) (i : Incoming) : Option (Except Rejection Operation) :=
  match i.verb.served, r with
  | .post, .logout => some (.ok .logout)
  | .get, .currentUser => some (.ok .currentUser)
  | .get, .users => some (.ok .users)
  | .post, .users => some ((Body.read Body.newUser i).map createUser)
  | .get, .roles => some (.ok .roles)
  | .get, .user u => some (.ok (.user u))
  | .put, .user u => some ((Body.read UserUpdate.codec i).map (updateUser u))
  | .delete, .user u => some (.ok (.removeUser u))
  | .post, .userRoles u => some ((Body.read Body.role i).map (addRole u))
  | .delete, .userRole u r => some (.ok (.removeRole u r))
  | .get, .managedProjects => some (.ok .managedProjects)
  | .get, .projects => some (.ok .projects)
  | .get, .project p => some (.ok (.project p))
  | .get, .projectMembers p => some (.ok (.projectMembers p))
  | .get, .projectSignatures p => some do
    let filter ← Query.filter i.query
    let sort ← Query.sort i.query
    return .projectSignatures p filter sort
  | .post, .companies => some ((Body.read Body.newCompany i).map createCompany)
  | .post, .inviteRequests c => some (.ok (.requestInvite c))
  | .get, .companyProject c p => some (.ok (.companyProject c p))
  | .post, .allowList c p k => some ((Body.read Body.values i).map (editAllowList .add c p k))
  | .delete, .allowList c p k => some ((Body.read Body.values i).map (editAllowList .remove c p k))
  | .post, .managers c p => some ((Body.read Body.manager i).map (addManager c p))
  | .delete, .manager c p l => some (.ok (.removeManager c p l))
  | _, _ => none

/-- What a request asks of a resource; none when the resource does not know the
verb, whatever the texts in its path. -/
def read? (r : Resource) (i : Incoming) : Option (Except Rejection Operation) :=
  match r.decoded? with
  | some r => ofDecoded? r i
  | none => (ofDecoded? r i).map fun _ => .error .path

end Operation
end SignatureDesk
