/-
What comes of a service's failures. `Operation.Accepts` is the table: the replies
that each operation goes on with, by their status and by what it reads from their
body. Every part of the work is strict about its own row, so an operation ends
with the first call that goes wrong and is answered with what is told of it.
The view of a company in a project is no such operation: its sections fail on
their own.
-/
import SignatureDesk.Proofs.Console.Addressing
import SignatureDesk.Proofs.Remote.Addressed
import SignatureDesk.Proofs.Remote.Strict

namespace SignatureDesk

open Dialogue

/-! ## The table -/

namespace Operation

/-- The statuses that an operation goes on with: those of success, and for a new user that of one
created or of one there already. -/
def Welcomes : Operation → Reply → Prop
  | createUser _, r => r.status = 201 ∨ r.status = 409
  | _, r => r.isSuccess = true

/-- What an operation reads from the body of a reply to a call can be read. -/
def Reads : Operation → Call → Reply → Prop
  | logout, _, _ | createUser _, _, _ | removeUser _, _, _ | removeRole _ _, _, _
  | requestInvite _, _, _ => True
  | currentUser, _, r | user _, _, r | updateUser _ _, _, r => r.Holds PlatformUser.codec
  | users, _, r => r.Holds PlatformUser.codec.list
  | roles, _, r => r.Holds Group.codec.list
  | addRole _ _, _, r => r.status = 204 ∨ r.Holds PlatformUser.codec
  | managedProjects, _, r | projects, _, r => r.Holds PlatformProject.codec.list
  | project _, _, r => r.Holds PlatformProject.codec
  | projectMembers _, _, r => r.Holds Codec.any.list
  | projectSignatures _ _ _, _, r => r.Holds SignaturePage.codec
  | createCompany _, _, r => r.Holds Company.codec
  | editAllowList _ _ _ _ _, c, r =>
    match c.method with
    | .get => r.Holds SignaturePage.codec
    | .put => r.Holds Signature.codec
    | .post | .delete => r.Holds GithubOrg.codec.list
  | addManager companyId projectId _, c, r | removeManager companyId projectId _, c, r =>
    match c.method with
    | .get =>
      if c.path = Cla.corporatePath companyId projectId then r.Holds SignaturePage.codec
      else r.Holds ClaManager.codec.list
    | _ => True
  | companyProject _ _, _, _ => False

/-- The replies to a call that an operation goes on with. -/
def Accepts (o : Operation) (c : Call) (r : Reply) : Prop := o.Welcomes r ∧ o.Reads c r

end Operation

/-! ## The parts of the work -/

section

variable {α : Type} {accepts : Call → Reply → Prop} {creds : Credentials} {companyId projectId : String}

theorem Strict.createUser {lfId : String}
    (h : ∀ c reply, accepts c reply ↔ reply.status = 201 ∨ reply.status = 409) :
    Strict accepts (Platform.createUser creds lfId) := by
  refine .call (fun reply b hb => ?_) fun reply f hf => ?_
  · rw [h]
    unfold Platform.createdUser at hb
    split at hb
    next h201 => exact .inl h201
    next h409 => exact .inr h409
    · cases hb
  · rw [h]
    unfold Platform.createdUser at hf
    split at hf
    · cases hf
    · cases hf
    next h201 h409 =>
      cases hf
      exact ⟨fun hr => hr.elim h201 h409, Failure.ofStatus_status _ _ _⟩

theorem Strict.addGroup {userId : String} {g : Group}
    (h : ∀ c reply, accepts c reply ↔
      reply.isSuccess = true ∧ (reply.status = 204 ∨ reply.Holds PlatformUser.codec)) :
    Strict accepts (Platform.addGroup creds userId g) := by
  refine .call (fun reply u hu => ?_) fun reply f hf => ?_
  · rw [h]
    unfold Platform.addedGroup at hu
    split at hu
    next h204 => exact ⟨by simp [Reply.isSuccess, h204], .inl h204⟩
    next =>
      obtain ⟨r, hchecked, hread⟩ := except_bind_ok_iff.1 hu
      obtain ⟨a, hread, -⟩ := except_map_ok_iff.1 hread
      obtain ⟨hsuccess, rfl⟩ := Reply.checked_ok_iff.1 hchecked
      exact ⟨hsuccess, .inr ⟨a, hread⟩⟩
  · rw [h]
    unfold Platform.addedGroup at hf
    split at hf
    · cases hf
    next h204 =>
      have hread : (reply.checked (Platform.aboutUser userId "could not have group added") >>=
          (·.read PlatformUser.codec)) = .error f := by
        simpa only [except_bind_error_iff, except_map_error_iff] using hf
      obtain ⟨hwrong, hstatus⟩ := Strict.read_wrong hread
      exact ⟨fun hr => hwrong ⟨hr.1, hr.2.resolve_left h204⟩, hstatus⟩

theorem Strict.createCompany {n : NewCompany}
    (h : ∀ c, AcceptsShape accepts c Company.codec) : Strict accepts (Cla.createCompany creds n) := by
  refine .call (fun reply a ha => ?_) fun reply f hf => ?_
  · rw [h]
    unfold Cla.createdCompany at ha
    split at ha
    · cases ha
    · exact Strict.read_ok ha
  · rw [h]
    unfold Cla.createdCompany at hf
    split at hf
    next conflict hconflict =>
      -- Only a conflict is told as a company that exists.
      have h409 : reply.status = 409 := by
        by_contra hne
        simp [hne] at hconflict
      cases hf
      exact ⟨by simp [Reply.isSuccess, h409], by rw [h409]; rfl⟩
    next => exact Strict.read_wrong hf

theorem Strict.page {query : PageQuery} (h : ∀ c, AcceptsShape accepts c SignaturePage.codec) :
    Strict accepts (Cla.page creds projectId query) :=
  .found fun _ _ => .fetch (h _)

theorem Strict.walk {more : Nat} {query : PageQuery} (h : ∀ c, AcceptsShape accepts c SignaturePage.codec) :
    Strict accepts (Search.remote creds (ProjectListing.walk projectId more query)) := by
  induction more generalizing query with
  | zero =>
    rw [ProjectListing.walk, Search.remote_bind, Search.remote_need]
    exact (Strict.page h).bind fun _ => .pure
  | succ more ih =>
    rw [ProjectListing.walk, Search.remote_bind, Search.remote_need]
    refine (Strict.page h).bind fun page => ?_
    simp only
    split
    · exact .pure
    · rw [Search.remote_bind]
      exact ih.bind fun _ => .pure

theorem Strict.listing {pageSize : UInt32} {maxPages : Nat} {filter : PageQuery}
    (h : ∀ c, AcceptsShape accepts c SignaturePage.codec) :
    Strict accepts (Search.remote creds (ProjectListing.load pageSize maxPages projectId filter)) := by
  rw [ProjectListing.load, Search.remote_bind]
  exact (Strict.walk h).bind fun _ => .pure

theorem Strict.current
    (h : AcceptsShape accepts (Cla.get creds (Cla.corporatePath companyId projectId)) SignaturePage.codec) :
    Strict accepts (Corporate.current creds companyId projectId) := by
  rw [Corporate.current, Corporate.remote_currentCorporate]
  refine ((Strict.fetch h).bind fun _ => .pure).bind fun found => ?_
  split
  · exact .pure
  · exact .throw

/-- Organizations are switched one by one. -/
theorem Strict.switchAll {e : Edit} {last : List GithubOrg} {values : List String}
    (h : ∀ entry, AcceptsShape accepts (Corporate.switchCall creds e companyId projectId entry)
      GithubOrg.codec.list) :
    Strict accepts (Corporate.switchAll creds e companyId projectId last values) := by
  induction values generalizing last with
  | nil => exact .pure
  | cons value rest ih =>
    rw [Corporate.switchAll]
    refine .found fun entry _ => ?_
    obtain ⟨context, hswitch⟩ := Corporate.switch_eq creds e companyId projectId entry
    rw [hswitch]
    exact (Strict.fetch (h entry)).bind fun _ => ih

/-- Managers are edited, and then listed, for the current corporate signature. -/
theorem Strict.manage {f : Signature → Remote Unit}
    (hlisting : AcceptsShape accepts (Cla.get creds (Cla.corporatePath companyId projectId)) SignaturePage.codec)
    (hmanagers : ∀ id, AcceptsShape accepts (Cla.get creds (Cla.managerPath id)) ClaManager.codec.list)
    (hf : ∀ s, Strict accepts (f s)) :
    Strict accepts (do
      let s ← Corporate.current creds companyId projectId
      f s
      Cla.managers creds s.id) :=
  (Strict.current hlisting).bind fun s => (hf s).bind fun _ => .fetch (hmanagers s.id)

theorem Strict.editList {e : Edit} {kind : AllowListKind} {values : List String}
    (hput : ∀ body, AcceptsShape accepts
      (Cla.call creds .put (Cla.approvalPath projectId companyId) (some body)) Signature.codec)
    (hswitch : ∀ entry, AcceptsShape accepts (Corporate.switchCall creds e companyId projectId entry)
      GithubOrg.codec.list) :
    Strict accepts (Corporate.editList creds e companyId projectId kind values) := by
  rw [Corporate.editList]
  split
  · exact (Strict.switchAll hswitch).bind fun _ => .pure
  · exact .found fun change _ => (Strict.fetch (hput _)).bind fun _ => .pure

end

/-! ## Operations -/

/-- Texts that part at a character of their beginnings are different, whatever follows. -/
theorem ne_of_beginnings {a b x y : String} (k : Nat) (ha : k < a.toList.length) (hb : k < b.toList.length)
    (hne : a.toList[k]? ≠ b.toList[k]?) : a ++ x ≠ b ++ y := by
  intro h
  have hchars : a.toList ++ x.toList = b.toList ++ y.toList := by
    rw [← String.toList_append, ← String.toList_append, h]
  have hchar := congrArg (·[k]?) hchars
  simp only [List.getElem?_append_left ha, List.getElem?_append_left hb] at hchar
  exact hne hchar

namespace Operation

variable {limits : Config.Limits} {s : Session} {o : Operation}

theorem managerPath_ne_corporatePath (signatureId companyId projectId : String) :
    Cla.managerPath signatureId ≠ Cla.corporatePath companyId projectId := by
  have hmanager : Cla.managerPath signatureId = "/v1/signature/" ++ (signatureId ++ "/manager") :=
    String.append_assoc
  have hcorporate : Cla.corporatePath companyId projectId =
      "/v1/signatures/company/" ++ (companyId ++ ("/project/" ++ projectId)) :=
    String.append_assoc.trans String.append_assoc
  rw [hmanager, hcorporate]
  exact ne_of_beginnings 13 (by decide) (by decide) (by decide)

/-- What is read of the replies about managers, whether one is added or removed. -/
theorem acceptsShape_managers {creds : Credentials} {c p lfId : String}
    (ho : o = .addManager c p lfId ∨ o = .removeManager c p lfId) :
    AcceptsShape o.Accepts (Cla.get creds (Cla.corporatePath c p)) SignaturePage.codec ∧
      ∀ id, AcceptsShape o.Accepts (Cla.get creds (Cla.managerPath id)) ClaManager.codec.list := by
  rcases ho with rfl | rfl <;>
    simp [AcceptsShape, Accepts, Welcomes, Reads, Cla.get, Cla.call, managerPath_ne_corporatePath]

theorem edit_strict {e : Edit} {c p word : String} {values : List String} :
    Strict (editAllowList e c p word values).Accepts (Corporate.edit s.claCredentials e c p word values) := by
  refine .found fun kind _ => ?_
  split
  · exact .throw
  · refine (Strict.current fun _ => Iff.rfl).bind fun _ => Strict.editList (fun _ _ => Iff.rfl) fun _ => ?_
    cases e <;> exact fun _ => Iff.rfl

/-- An operation is strict about its own row of the table. -/
theorem execute_strict (view : ∀ companyId projectId, o ≠ .companyProject companyId projectId) :
    Strict o.Accepts (o.execute limits s) := by
  cases o with
  | logout => exact .pure
  | currentUser | user | updateUser | roles | managedProjects | projects | project | projectMembers =>
    exact (Strict.fetch fun _ => Iff.rfl).bind fun _ => .pure
  | users => exact ((Strict.fetch fun _ => Iff.rfl).bind fun _ => .pure).bind fun _ => .pure
  | createUser => exact (Strict.createUser fun _ _ => and_iff_left trivial).bind fun _ => .pure
  | removeUser | removeRole | requestInvite =>
    exact (Strict.succeed_unit fun _ => and_iff_left trivial).bind fun _ => .pure
  | addRole => exact (Strict.addGroup fun _ _ => Iff.rfl).bind fun _ => .pure
  | projectSignatures => exact (Strict.listing fun _ _ => Iff.rfl).bind fun _ => .pure
  | createCompany =>
    refine Strict.bind ?_ fun _ => .pure
    rw [makeCompany]
    split
    · exact .throw
    · exact Strict.createCompany fun _ _ => Iff.rfl
  | companyProject c p => exact absurd rfl (view c p)
  | editAllowList => exact edit_strict.bind fun _ => .pure
  | addManager c p lfId =>
    refine Strict.bind ?_ fun _ => .pure
    rw [Corporate.addManager]
    split
    · exact .throw
    · obtain ⟨hlisting, hmanagers⟩ := acceptsShape_managers (.inl rfl)
      exact .manage hlisting hmanagers fun _ => .succeed_unit fun _ => and_iff_left trivial
  | removeManager c p lfId =>
    obtain ⟨hlisting, hmanagers⟩ := acceptsShape_managers (.inr rfl)
    refine Strict.bind ?_ fun _ => .pure
    exact .manage hlisting hmanagers fun _ => .succeed_unit fun _ => and_iff_left trivial

end Operation

/-! ## Requests -/

/-- The status that is told of what a call came back with. -/
def failureStatus : Except Failure Reply → Nat
  | .ok reply => toldStatus reply.status
  | .error _ => 502

namespace Console

variable {c : Console} {m : Moment} {store : SessionStore} {i : Incoming} {r : Resource} {o : Operation}

/-- The work of a request ends with the first call that goes wrong, whose failure is its answer. -/
theorem handle_strict (path : Target.ofPath? i.path = some (.guarded r))
    (read : Operation.read? r i = some (.ok o))
    (view : ∀ companyId projectId, o ≠ .companyProject companyId projectId) {u h}
    (run : (c.handle m store i).Transcript u h) :
    (∀ x ∈ u, Met o.Accepts x) ∨
      ∃ before x f, u = before ++ [x] ∧ (∀ y ∈ before, Met o.Accepts y) ∧ ¬ Met o.Accepts x ∧
        h.answer.status = Failure.status f ∧ f.TellsOf x.2 := by
  rcases handle_guarded_cases path run with ⟨_, -, rfl, -⟩ | ⟨s, h', -, served, hstatus, -⟩
  · exact .inl (by simp)
  rcases serveGuarded_cases served with ⟨unread, -⟩ | ⟨o', y, read', performed, hanswer, -⟩
  · exact absurd read (unread o)
  rw [read] at read'
  cases read'
  rcases Operation.perform_cases performed with ⟨_, -, rfl, -⟩ | ⟨-, executed⟩
  · exact .inl (by simp)
  rcases Operation.execute_strict view u y executed with hmet | ⟨before, x, f, hu, hmet, hwrong, rfl, htells⟩
  · exact .inl hmet
  · exact .inr ⟨before, x, f, hu, hmet, hwrong, by rw [hstatus, hanswer]; rfl, htells⟩

/-- **Failures of the services are neither swallowed nor continued past.** An operation other than
the view of a company in a project ends with the first call that comes back with anything but a reply
that the operation goes on with. The answer then has the status of that reply, if it is 401, 403, 404
or 409, and 502 for any other and for a call that came back with none. Only a call that has no address is
told as 500, for which its base has to have none either, unless it is for a page of a listing and the
base has no host. So an answer of success means that every call came back with a reply to go on with. -/
theorem failures_end_the_work (c : Console) (m : Moment) (store : SessionStore) (i : Incoming)
    {r : Resource} {o : Operation} (path : Target.ofPath? i.path = some (.guarded r))
    (read : Operation.read? r i = some (.ok o))
    (view : ∀ companyId projectId, o ≠ .companyProject companyId projectId) {t h}
    (run : ((c.link m.now).run (c.handle m store i)).Transcript t h) :
    ∃ u, (c.handle m store i).Transcript u h ∧ Tells (c.link m.now).carry t u ∧
      (200 ≤ h.answer.status ∧ h.answer.status < 300 → ∀ x ∈ u, Met o.Accepts x) ∧
      ((∀ x ∈ u, Met o.Accepts x) ∨
        ∃ before x, u = before ++ [x] ∧ (∀ y ∈ before, Met o.Accepts y) ∧ ¬ Met o.Accepts x ∧
          (h.answer.status = failureStatus x.2 ∨
            h.answer.status = 500 ∧ (c.link m.now).Unsendable x.1)) := by
  obtain ⟨u, run, tells⟩ := Link.run_transcript_iff.1 run
  refine ⟨u, run, tells, ?_⟩
  rcases handle_strict path read view run with hmet | ⟨before, ⟨call, a⟩, f, rfl, hmet, hwrong, hstatus, htells⟩
  · exact ⟨fun _ => hmet, .inl hmet⟩
  refine ⟨fun hsuccess => ?_, .inr ⟨before, ⟨call, a⟩, rfl, hmet, hwrong, ?_⟩⟩
  · have h400 := f.le_status
    omega
  · cases a with
    | ok reply => exact .inl (hstatus.trans htells)
    | error e =>
      obtain rfl : f = e := htells
      have hmem : (⟨call, .error f⟩ : (_ : Call) × Except Failure Reply) ∈ before ++ [⟨call, .error f⟩] := by
        simp
      rcases tells_carry_error tells hmem with rfl | ⟨⟨d, rfl⟩, unaddressed⟩
      · exact .inl hstatus
      · obtain ⟨e, pairs, -, -, hat⟩ := asks_handle.of_transcript run _ hmem
        exact .inr ⟨hstatus, unaddressed.unsendable hat⟩

end Console

namespace Sample

/-- The users are to be listed. -/
def usersRequest : Incoming := request .get "/users" ""

/-- A platform that is out of order is told as such, and no further call is made. -/
theorem outage_ends_the_work :
    ∃ t h, ((console.link moment.now).run (console.handle moment store usersRequest)).Transcript t h ∧
      h.answer.status = 502 ∧ t.length = 1 ∧
      ∃ u, (console.handle moment store usersRequest).Transcript u h ∧
        Tells (console.link moment.now).carry t u ∧
        (200 ≤ h.answer.status ∧ h.answer.status < 300 → ∀ x ∈ u, Met Operation.users.Accepts x) ∧
        ((∀ x ∈ u, Met Operation.users.Accepts x) ∨
          ∃ before x, u = before ++ [x] ∧ (∀ y ∈ before, Met Operation.users.Accepts y) ∧
            ¬ Met Operation.users.Accepts x ∧
            (h.answer.status = failureStatus x.2 ∨
              h.answer.status = 500 ∧ (console.link moment.now).Unsendable x.1)) := by
  let world := fun (_ : List Request) (_ : Request) => some (Reply.mk 500 "out of order")
  let handled := (console.link moment.now).run (console.handle moment store usersRequest)
  have hrun : (handled.result world []).answer.status = 502 ∧ (handled.questions world []).length = 1 := by
    decide +kernel
  have path : Target.ofPath? usersRequest.path = some (.guarded .users) := by decide +kernel
  obtain ⟨t, run, asked⟩ := exists_transcript world handled []
  refine ⟨t, _, run, hrun.1, ?_, Console.failures_end_the_work console moment store usersRequest path rfl
    (fun _ _ h => by cases h) run⟩
  rw [← hrun.2, ← asked]
  simp

end Sample
end SignatureDesk
