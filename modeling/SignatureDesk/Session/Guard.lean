/-
What a session may do: guards that ask for one of several capabilities, and the
rule for editing a user.
-/
import SignatureDesk.Session.Basic

namespace SignatureDesk

/-- Lets a session pass that has any of some capabilities. -/
structure Guard where
  anyOf : List Capability
deriving Repr, DecidableEq

namespace Guard

def authenticated : Guard := ⟨[.authenticated]⟩

def admin : Guard := ⟨[.admin]⟩

def adminOrProjectManager : Guard := ⟨[.admin, .projectManager]⟩

def allows (g : Guard) (s : Session) : Bool := g.anyOf.any s.has

def refusal (g : Guard) : Failure :=
  .forbidden ("requires one of [" ++ ", ".intercalate (g.anyOf.map Capability.title) ++ "]")

def check (g : Guard) (s : Session) : Except Failure Unit :=
  if g.allows s then .ok () else .error g.refusal

end Guard

/-- Administrators may edit any user, project managers only themselves. -/
def Session.canEdit (s : Session) (userId : String) : Bool :=
  s.has .admin || (s.has .projectManager && s.isSelf userId)

end SignatureDesk
