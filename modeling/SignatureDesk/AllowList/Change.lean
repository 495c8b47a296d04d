/-
Changes to the approval lists of one corporate signature: what to add to and
what to remove from each list. Organizations on GitHub have no list here; they
are switched on and off one by one.
-/
import SignatureDesk.AllowList.Entries
import SignatureDesk.AllowList.Validate

namespace SignatureDesk

structure ApprovalChange where
  addEmails : List String
  removeEmails : List String
  addDomains : List String
  removeDomains : List String
  addGithubUsernames : List String
  removeGithubUsernames : List String
deriving Repr, DecidableEq

/-- Which way an entry goes. -/
inductive Edit where
  | add
  | remove
deriving Repr, DecidableEq

namespace ApprovalChange

def empty : ApprovalChange := ⟨[], [], [], [], [], []⟩

/-- The list of one kind and direction. -/
def list (c : ApprovalChange) : AllowListKind → Edit → List String
  | .email, .add => c.addEmails
  | .email, .remove => c.removeEmails
  | .domain, .add => c.addDomains
  | .domain, .remove => c.removeDomains
  | .githubUsername, .add => c.addGithubUsernames
  | .githubUsername, .remove => c.removeGithubUsernames
  | .githubOrg, _ => []

/-- Organizations are refused here. -/
def organizationRefusal : Failure :=
  .validation "GitHub organizations are managed through the organization allow-list"

/-- The change of a single list. -/
def single (kind : AllowListKind) (edit : Edit) (entries : List String) :
    Except Failure ApprovalChange :=
  match kind, edit with
  | .email, .add => .ok { empty with addEmails := entries }
  | .email, .remove => .ok { empty with removeEmails := entries }
  | .domain, .add => .ok { empty with addDomains := entries }
  | .domain, .remove => .ok { empty with removeDomains := entries }
  | .githubUsername, .add => .ok { empty with addGithubUsernames := entries }
  | .githubUsername, .remove => .ok { empty with removeGithubUsernames := entries }
  | .githubOrg, _ => .error organizationRefusal

/-- Adds valid values, in normal form. -/
def add (kind : AllowListKind) (values : List String) : Except Failure ApprovalChange := do
  let entries ← kind.validateAll values
  single kind .add (Entries.normalize entries)

/-- Removes values, which only have to be something: an entry that is not valid
any more can still be removed. -/
def remove (kind : AllowListKind) (values : List String) : Except Failure ApprovalChange :=
  let entries := Entries.normalize values
  if entries.any String.isEmpty then .error (.invalidEntry kind.name "")
  else single kind .remove entries

/-- The change that an edit of one list asks for. -/
def ofEdit (kind : AllowListKind) (edit : Edit) (values : List String) :
    Except Failure ApprovalChange :=
  match edit with
  | .add => add kind values
  | .remove => remove kind values

def isEmpty (c : ApprovalChange) : Bool :=
  AllowListKind.all.all fun k => (c.list k .add).isEmpty && (c.list k .remove).isEmpty

def Edit.verb : Edit → String
  | .add => "Added"
  | .remove => "Removed"

/-- One line for an entry. -/
def line (kind : AllowListKind) (edit : Edit) (entry : String) : String :=
  Edit.verb edit ++ " " ++ kind.label ++ ": " ++ entry

/-- One line for each entry, list by list. -/
def summary (c : ApprovalChange) : List String :=
  AllowListKind.all.flatMap fun k =>
    [Edit.add, Edit.remove].flatMap fun e => (c.list k e).map (line k e)

def codec : Codec ApprovalChange :=
  (Codec.record
    (.nonempty "addEmailApprovalList" [] .text <|
     .nonempty "removeEmailApprovalList" [] .text <|
     .nonempty "addDomainApprovalList" [] .text <|
     .nonempty "removeDomainApprovalList" [] .text <|
     .nonempty "addGithubUsernameApprovalList" [] .text <|
     .nonempty "removeGithubUsernameApprovalList" [] .text .nil)).map
    (fun (ae, re, ad, rd, ag, rg, ()) => ⟨ae, re, ad, rd, ag, rg⟩)
    (fun c => (c.addEmails, c.removeEmails, c.addDomains, c.removeDomains, c.addGithubUsernames,
      c.removeGithubUsernames, ()))

end ApprovalChange
end SignatureDesk
