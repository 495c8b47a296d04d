/-
The endpoints of the two services, each with the ids in its path. A path is made
of parts, words and ids, and of nothing else; its segments are the parts as they
are written, and from the segments the endpoint can be read back. So two calls
for the same segments are meant for the same endpoint, with ids that are written
alike, and those decode alike.
-/
import SignatureDesk.Remote.Cla
import SignatureDesk.Remote.Platform
import SignatureDesk.Proofs.Url.Parts

namespace SignatureDesk

inductive Endpoint (ι : Type) where
  | claUser (userId : ι)
  | company (companyId : ι)
  | claProject (projectId : ι)
  | companies
  | invite (companyId : ι)
  | corporate (companyId projectId : ι)
  | employees (companyId projectId : ι)
  | listing (projectId : ι)
  | approvals (projectId companyId : ι)
  | organizations (companyId projectId : ι)
  | managers (signatureId : ι)
  | manager (signatureId lfId : ι)
  | keys (lfId : ι)
  | version
  | users
  | user (userId : ι)
  | userGroups (userId : ι)
  | userGroup (userId groupId : ι)
  | groups
  | projects
  | managedProjects
  | project (projectId : ι)
  | projectMembers (projectId : ι)
deriving Repr, DecidableEq

namespace Endpoint

variable {ι κ : Type}

def map (f : ι → κ) : Endpoint ι → Endpoint κ
  | claUser u => claUser (f u)
  | company c => company (f c)
  | claProject p => claProject (f p)
  | companies => companies
  | invite c => invite (f c)
  | corporate c p => corporate (f c) (f p)
  | employees c p => employees (f c) (f p)
  | listing p => listing (f p)
  | approvals p c => approvals (f p) (f c)
  | organizations c p => organizations (f c) (f p)
  | managers s => managers (f s)
  | manager s l => manager (f s) (f l)
  | keys l => keys (f l)
  | version => version
  | users => users
  | user u => user (f u)
  | userGroups u => userGroups (f u)
  | userGroup u g => userGroup (f u) (f g)
  | groups => groups
  | projects => projects
  | managedProjects => managedProjects
  | project p => project (f p)
  | projectMembers p => projectMembers (f p)

def service : Endpoint ι → Service
  | claUser _ | company _ | claProject _ | companies | invite _ | corporate _ _ | employees _ _
  | listing _ | approvals _ _ | organizations _ _ | managers _ | manager _ _ => .cla
  | keys _ | version | users | user _ | userGroups _ | userGroup _ _ | groups | projects
  | managedProjects | project _ | projectMembers _ => .platform

/-- The path that the endpoint is called at. -/
def path : Endpoint String → String
  | claUser u => Cla.userPath u
  | company c => Cla.companyPath c
  | claProject p => Cla.projectPath p
  | companies => "/v1/company"
  | invite c => Cla.invitePath c
  | corporate c p => Cla.corporatePath c p
  | employees c p => Cla.employeePath c p
  | listing p => Cla.listingPath p
  | approvals p c => Cla.approvalPath p c
  | organizations c p => Cla.organizationPath c p
  | managers s => Cla.managerPath s
  | manager s l => Cla.managerPath s ++ "/" ++ l
  | keys l => Platform.keysPath l
  | version => "about/version"
  | users => Platform.usersPath
  | user u => Platform.userPath u
  | userGroups u => Platform.userGroupsPath u
  | userGroup u g => Platform.userGroupPath u g
  | groups => "usergroups/"
  | projects => Platform.projectsPath
  | managedProjects => "project/"
  | project p => Platform.projectPath p
  | projectMembers p => Platform.projectPath p ++ "/members"

/-- A part of a path: a word of the endpoint, or an id. -/
inductive Part (ι : Type) where
  | word (s : String)
  | id (i : ι)
deriving Repr, DecidableEq

/-- The parts of the path between slashes. -/
def parts : Endpoint ι → List (Part ι)
  | claUser u => [.word "v1", .word "user", .id u]
  | company c => [.word "v2", .word "company", .id c]
  | claProject p => [.word "v2", .word "project", .id p]
  | companies => [.word "v1", .word "company"]
  | invite c => [.word "v3", .word "company", .id c, .word "invite-request"]
  | corporate c p => [.word "v1", .word "signatures", .word "company", .id c, .word "project", .id p]
  | employees c p =>
    [.word "v1", .word "signatures", .word "company", .id c, .word "project", .id p, .word "employee"]
  | listing p => [.word "v3", .word "signatures", .word "project", .id p]
  | approvals p c =>
    [.word "v3", .word "signatures", .word "project", .id p, .word "company", .id c,
      .word "approval-list"]
  | organizations c p =>
    [.word "v3", .word "company", .id c, .word "cla", .id p, .word "whitelist", .word "githuborg"]
  | managers s => [.word "v1", .word "signature", .id s, .word "manager"]
  | manager s l => [.word "v1", .word "signature", .id s, .word "manager", .id l]
  | keys l => [.word "auth", .word "trusted", .word "cas", .id l]
  | version => [.word "about", .word "version"]
  | users => [.word "users", .word ""]
  | user u => [.word "users", .id u, .word ""]
  | userGroups u => [.word "users", .id u, .word "group", .word ""]
  | userGroup u g => [.word "users", .id u, .word "group", .id g, .word ""]
  | groups => [.word "usergroups", .word ""]
  | projects => [.word "projects", .word ""]
  | managedProjects => [.word "project", .word ""]
  | project p => [.word "projects", .id p]
  | projectMembers p => [.word "projects", .id p, .word "members"]

def Part.text : Part String → List Char
  | .word s => s.toList
  | .id i => i.toList

theorem path_eq (e : Endpoint String) :
    e.path.toList.dropWhile (· = '/') = ['/'].intercalate (e.parts.map Part.text) := by
  -- Unfolding by equations would evaluate the texts of the paths, so `delta` it is.
  cases e <;>
    (delta path Cla.userPath Cla.companyPath Cla.projectPath
      Cla.invitePath Cla.corporatePath Cla.employeePath Cla.listingPath Cla.approvalPath
      Cla.organizationPath Cla.managerPath Platform.keysPath Platform.usersPath Platform.userPath
      Platform.userGroupsPath Platform.userGroupPath Platform.projectsPath Platform.projectPath
     simp only [String.toList_append, List.append_assoc, parts, List.map_cons, List.map_nil, Part.text,
      List.intercalate, List.intersperse, List.flatten_cons, List.flatten_nil, List.append_nil]
     rfl)

theorem parts_ne_nil (e : Endpoint ι) : e.parts ≠ [] := by
  cases e <;> simp [parts]

/-- The segments of the path as they are written. -/
def segments (e : Endpoint String) : List String := e.parts.map fun part => Url.segment part.text

/-- The ids in the path. -/
def ids (e : Endpoint ι) : List ι :=
  e.parts.filterMap fun
    | .id i => some i
    | .word _ => none

theorem mem_ids {e : Endpoint ι} {i : ι} (h : .id i ∈ e.parts) : i ∈ e.ids :=
  List.mem_filterMap.2 ⟨_, h, rfl⟩

/-! ## Words -/

/-- A word that stays as it is. -/
def isPlainWord (s : String) : Bool :=
  !s.toList.any Url.special && Url.segment s.toList == s && !Url.isSingleDot s && !Url.isDoubleDot s

/-- A part that stays as it is, if it is a word. -/
def Part.isPlain : Part ι → Bool
  | .word s => isPlainWord s
  | .id _ => true

theorem parts_isPlain (e : Endpoint ι) : e.parts.all Part.isPlain = true := by
  cases e <;> rfl

theorem plainPart_of_isPlainWord {s : String} (h : isPlainWord s = true) : Url.PlainPart s.toList := by
  simp only [isPlainWord, Bool.and_eq_true, Bool.not_eq_true', List.any_eq_false, beq_iff_eq] at h
  obtain ⟨⟨⟨hplain, hsegment⟩, hdot⟩, hdots⟩ := h
  refine ⟨fun c hc => by simpa using hplain c hc, ?_, ?_⟩ <;> rwa [hsegment]

/-! ## Reading segments -/

/-- The parts of a path with its ids as they are written. -/
def Part.written : Part String → String
  | .word s => s
  | .id i => Url.segment i.toList

/-- Words are written as they are. -/
theorem segments_eq (e : Endpoint String) : e.segments = e.parts.map Part.written := by
  refine List.map_congr_left fun part hp => ?_
  cases part with
  | id i => rfl
  | word s =>
    have hplain := List.all_eq_true.1 (parts_isPlain e) _ hp
    simp only [Part.isPlain, isPlainWord, Bool.and_eq_true, beq_iff_eq] at hplain
    exact hplain.1.1.2

def ofCla? : List String → Option (Endpoint String)
  | ["v1", "user", u] => some (claUser u)
  | ["v2", "company", c] => some (company c)
  | ["v2", "project", p] => some (claProject p)
  | ["v1", "company"] => some companies
  | ["v3", "company", c, "invite-request"] => some (invite c)
  | ["v1", "signatures", "company", c, "project", p] => some (corporate c p)
  | ["v1", "signatures", "company", c, "project", p, "employee"] => some (employees c p)
  | ["v3", "signatures", "project", p] => some (listing p)
  | ["v3", "signatures", "project", p, "company", c, "approval-list"] => some (approvals p c)
  | ["v3", "company", c, "cla", p, "whitelist", "githuborg"] => some (organizations c p)
  | ["v1", "signature", s, "manager"] => some (managers s)
  | ["v1", "signature", s, "manager", l] => some (manager s l)
  | _ => none

def ofPlatform? : List String → Option (Endpoint String)
  | ["auth", "trusted", "cas", l] => some (keys l)
  | ["about", "version"] => some version
  | ["users", ""] => some users
  | ["users", u, ""] => some (user u)
  | ["users", u, "group", ""] => some (userGroups u)
  | ["users", u, "group", g, ""] => some (userGroup u g)
  | ["usergroups", ""] => some groups
  | ["projects", ""] => some projects
  | ["project", ""] => some managedProjects
  | ["projects", p] => some (project p)
  | ["projects", p, "members"] => some (projectMembers p)
  | _ => none

/-- The endpoint of a service that segments lead to. -/
def ofSegments? : Service → List String → Option (Endpoint String)
  | .cla => ofCla?
  | .platform => ofPlatform?

/-- The segments of an endpoint lead back to it. -/
theorem ofSegments?_segments {e : Endpoint String} (h : ∀ id ∈ e.ids, id ≠ "") :
    ofSegments? e.service e.segments = some (e.map fun id => Url.segment id.toList) := by
  rw [segments_eq]
  cases e with
  | project p =>
    have hp : Url.segment p.toList ≠ "" :=
      Url.segment_ne_empty (by simpa using h p (mem_ids (by simp [parts])))
    simp [ofSegments?, ofPlatform?, service, parts, Part.written, map]
  | user | userGroups | userGroup | projectMembers =>
    simp [ofSegments?, ofPlatform?, service, parts, Part.written, map]
  | _ => rfl

theorem map_map {μ : Type} (f : ι → κ) (g : κ → μ) (e : Endpoint ι) : (e.map f).map g = e.map (g ∘ f) := by
  cases e <;> rfl

/-- Endpoints with the same segments are the same up to what their ids decode to. -/
theorem eq_of_segments {e e' : Endpoint String} (h : ∀ id ∈ e.ids, id ≠ "") (h' : ∀ id ∈ e'.ids, id ≠ "")
    (hservice : e.service = e'.service) (hsegments : e.segments = e'.segments) :
    (e.map fun id => Url.percentDecode id.toList) = e'.map fun id => Url.percentDecode id.toList := by
  have hwritten : (e.map fun id => Url.segment id.toList) = e'.map fun id => Url.segment id.toList := by
    rw [← Option.some_inj, ← ofSegments?_segments h, ← ofSegments?_segments h', hservice, hsegments]
  have hdecode : ∀ e : Endpoint String, (e.map fun id => Url.percentDecode id.toList) =
      (e.map fun id => Url.segment id.toList).map fun id => Url.percentDecode id.toList := by
    intro e
    rw [map_map]
    refine congrArg (fun f => e.map f) (funext fun id => ?_)
    rw [Function.comp_apply, Url.segment, String.toList_ofList,
      Url.percentDecode_percentEncode Url.keepsCodes_path]
  rw [hdecode e, hdecode e', hwritten]

end Endpoint
end SignatureDesk
