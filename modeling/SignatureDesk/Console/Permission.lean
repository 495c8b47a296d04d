/-
What a session has to be to have an operation done.
-/
import SignatureDesk.Console.Operation
import SignatureDesk.Session.Guard

namespace SignatureDesk.Operation

/-- Why a session may not edit a user. -/
def editRefusal (s : Session) (userId : String) : Failure :=
  .forbidden (s.lfId ++ " may not edit user " ++ userId)

/-- Whether the session may have the operation done. -/
def permit (s : Session) : Operation → Except Failure Unit
  | currentUser | users | user _ | roles | managedProjects | projects | project _ | projectMembers _ =>
    Guard.adminOrProjectManager.check s
  | createUser _ | removeUser _ | addRole _ _ | removeRole _ _ => Guard.admin.check s
  | updateUser u _ => if s.canEdit u then .ok () else .error (editRefusal s u)
  | projectSignatures _ _ _ | createCompany _ | requestInvite _ | companyProject _ _
  | editAllowList _ _ _ _ _ | addManager _ _ _ | removeManager _ _ _ => Guard.authenticated.check s
  | logout => .ok ()

end SignatureDesk.Operation
