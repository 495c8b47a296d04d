/-
Records of the agreement service besides signatures: companies, projects, users
and the managers of a corporate agreement. Most of them keep members the console
has no use for, and hand them on.
-/
import SignatureDesk.Json.Codec

namespace SignatureDesk

structure Company where
  id : String
  name : String
  managerId : Option String
  extra : Members
deriving Repr

def Company.codec : Codec Company :=
  (Codec.recordKeeping
    (.required "company_id" ["companyID"] .text <|
     .defaulted "company_name" ["companyName"] .text "" <|
     .omitted "company_manager_id" ["companyManagerID"] .text .nil)).map
    (fun ((id, name, manager, ()), extra) => ⟨id, name, manager, extra⟩)
    (fun c => ((c.id, c.name, c.managerId, ()), c.extra))

structure Project where
  id : String
  name : String
  extra : Members
deriving Repr

def Project.codec : Codec Project :=
  (Codec.recordKeeping
    (.required "project_id" ["projectID"] .text <|
     .defaulted "project_name" ["projectName"] .text "" .nil)).map
    (fun ((id, name, ()), extra) => ⟨id, name, extra⟩)
    (fun p => ((p.id, p.name, ()), p.extra))

/-- A user of the agreement service. -/
structure User where
  id : String
  name : Option String
  lfUsername : Option String
  extra : Members
deriving Repr

def User.codec : Codec User :=
  (Codec.recordKeeping
    (.required "user_id" ["userID"] .text <|
     .omitted "user_name" ["userName"] .text <|
     .omitted "lf_username" ["lfUsername"] .text .nil)).map
    (fun ((id, name, username, ()), extra) => ⟨id, name, username, extra⟩)
    (fun u => ((u.id, u.name, u.lfUsername, ()), u.extra))

/-- A company to be created, and who is to manage its agreement first. -/
structure NewCompany where
  name : String
  managerEmail : Option String
  managerName : Option String
  managerId : Option String
deriving Repr, DecidableEq

def NewCompany.codec : Codec NewCompany :=
  (Codec.record
    (.required "company_name" [] .text <|
     .omitted "company_manager_user_email" [] .text <|
     .omitted "company_manager_user_name" [] .text <|
     .omitted "company_manager_id" [] .text .nil)).map
    (fun (name, email, manager, id, ()) => ⟨name, email, manager, id⟩)
    (fun c => (c.name, c.managerEmail, c.managerName, c.managerId, ()))

/-- What the service answers when a company of that name exists already. -/
structure CompanyConflict where
  id : String
  name : Option String
deriving Repr, DecidableEq

def CompanyConflict.codec : Codec CompanyConflict :=
  (Codec.record
    (.required "company_id" ["companyID"] .text <|
     .nullable "company_name" ["companyName"] .text .nil)).map
    (fun (id, name, ()) => ⟨id, name⟩)
    (fun c => (c.id, c.name, ()))

/-- A manager of a corporate agreement. -/
structure ClaManager where
  lfUsername : String
  userName : Option String
  userId : Option String
  extra : Members
deriving Repr

def ClaManager.codec : Codec ClaManager :=
  (Codec.recordKeeping
    (.required "lfUsername" ["lf_username"] .text <|
     .omitted "userName" ["user_name"] .text <|
     .omitted "userID" ["user_id"] .text .nil)).map
    (fun ((username, name, id, ()), extra) => ⟨username, name, id, extra⟩)
    (fun m => ((m.lfUsername, m.userName, m.userId, ()), m.extra))

end SignatureDesk
