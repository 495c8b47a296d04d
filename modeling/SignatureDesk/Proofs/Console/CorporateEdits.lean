/-
The course of a corporate edit. Every edit of an allow-list or of the managers
begins with the corporate listing of the company in the project, and goes on only if
that could be had and holds a corporate record: `Course` has one case for each
way it can come out. So whatever the service replies, nothing is changed without
a current corporate signature.
-/
import SignatureDesk.Proofs.Console.Authorization
import SignatureDesk.Proofs.Console.Corporate
import SignatureDesk.Proofs.Reconcile.Sections

namespace SignatureDesk

open Dialogue

namespace Corporate

variable {creds : Credentials} {companyId projectId id : String} {u : Calls} {α β : Type}

/-- The call that fetches the corporate listing. -/
def listingCall (creds : Credentials) (companyId projectId : String) : Call :=
  Cla.get creds (Cla.corporatePath companyId projectId)

/-- What the call for the listing comes to. -/
def listed (a : Except Failure Reply) : Except Failure SignaturePage :=
  (a >>= (·.checked "Unable to load company project signatures")) >>= (·.read SignaturePage.codec)

/-- An edit fetches the listing. It fails as the fetch does, it fails for want of a corporate record,
or it goes on for the first such record. -/
inductive Course (creds : Credentials) (companyId projectId : String)
    (follows : Signature → Calls → Except Failure α → Prop) : Calls → Except Failure α → Prop
  | unlisted {a : Except Failure Reply} {e : Failure} : listed a = .error e →
      Course creds companyId projectId follows [⟨listingCall creds companyId projectId, a⟩] (.error e)
  | missing {a : Except Failure Reply} {page : SignaturePage} : listed a = .ok page →
      page.firstCorporate? = none →
      Course creds companyId projectId follows [⟨listingCall creds companyId projectId, a⟩]
        (.error (.missingCorporate companyId projectId))
  | found {a : Except Failure Reply} {page : SignaturePage} {record : Signature} {rest : Calls}
      {r : Except Failure α} : listed a = .ok page → page.firstCorporate? = some record →
      follows record rest r →
      Course creds companyId projectId follows (⟨listingCall creds companyId projectId, a⟩ :: rest) r

theorem Course.map {follows : Signature → Calls → Except Failure α → Prop}
    {follows' : Signature → Calls → Except Failure β → Prop} {r : Except Failure α} (f : α → β)
    (course : Course creds companyId projectId follows u r)
    (himp : ∀ record rest r, follows record rest r → follows' record rest (r.map f)) :
    Course creds companyId projectId follows' u (r.map f) := by
  cases course with
  | unlisted h => exact .unlisted h
  | missing h hnone => exact .missing h hnone
  | found h hsome hf => exact .found h hsome (himp _ _ _ hf)

/-- What changes something comes behind a listing with a corporate record. -/
theorem Course.preceded {follows : Signature → Calls → Except Failure α → Prop} {r : Except Failure α}
    (course : Course creds companyId projectId follows u r) {before after : Calls}
    {x : (_ : Call) × Except Failure Reply} (hu : u = before ++ x :: after) (mutates : x.1.mutates = true) :
    ∃ a page record, ⟨listingCall creds companyId projectId, a⟩ ∈ before ∧ listed a = .ok page ∧
      page.firstCorporate? = some record := by
  cases before with
  | nil =>
    -- The first call only reads.
    have hx : x.1 = listingCall creds companyId projectId := by
      cases course <;> cases hu <;> rfl
    rw [hx] at mutates
    cases mutates
  | cons y before =>
    cases course with
    | unlisted => simp at hu
    | missing => simp at hu
    | found h hsome =>
      obtain ⟨rfl, -⟩ := List.cons.inj hu
      exact ⟨_, _, _, by simp, h, hsome⟩

/-- An edit that goes on from the current corporate signature takes this course. -/
theorem current_bind_course {f : Signature → Remote α} {r : Except Failure α}
    (run : (current creds companyId projectId >>= f).run.Transcript u r) :
    Course creds companyId projectId (fun record rest r => (f record.normalize).run.Transcript rest r) u r := by
  have fetched : ∀ {v y}, (current creds companyId projectId).run.Transcript v y →
      ∃ a, v = [⟨listingCall creds companyId projectId, a⟩] ∧
        y = listed a >>= fun page =>
          page.firstCorporate?.elim (.error (.missingCorporate companyId projectId)) fun record =>
            .ok record.normalize := by
    intro v y h
    obtain ⟨_, hy, rfl⟩ := current_transcript h
    obtain ⟨a, rfl, rfl⟩ := Remote.fetch_transcript_iff.1 hy
    refine ⟨a, rfl, congrArg _ (funext fun page => ?_)⟩
    rw [SignaturePage.corporate?_eq]
    cases page.firstCorporate? <;> rfl
  rcases transcript_attempt_bind_iff.1 run with ⟨e, rfl, h⟩ | ⟨v, rest, s, rfl, h, hf⟩
  · obtain ⟨a, rfl, he⟩ := fetched h
    rcases except_bind_error_iff.1 he.symm with he | ⟨page, hpage, he⟩
    · exact .unlisted he
    · cases hfirst : page.firstCorporate? with
      | none =>
        rw [hfirst] at he
        cases he
        exact .missing hpage hfirst
      | some record =>
        rw [hfirst] at he
        cases he
  · obtain ⟨a, rfl, hs⟩ := fetched h
    obtain ⟨page, hpage, hs⟩ := except_bind_ok_iff.1 hs.symm
    cases hfirst : page.firstCorporate? with
    | none =>
      rw [hfirst] at hs
      cases hs
    | some record =>
      rw [hfirst] at hs
      cases hs
      exact .found hpage hfirst hf

/-! ## Allow-lists -/

/-- A call that changes an allow-list of the company in the project. -/
def IsListChange (creds : Credentials) (e : Edit) (companyId projectId : String) (c : Call) : Prop :=
  (∃ body, c = Cla.call creds .put (Cla.approvalPath projectId companyId) (some body)) ∨
    ∃ entry, c = switchCall creds e companyId projectId entry

theorem asks_listChange {e : Edit} {kind : AllowListKind} {values : List String} :
    Asks (IsListChange creds e companyId projectId) (editList creds e companyId projectId kind values).run :=
  asks_editList (fun body => .inl ⟨body, rfl⟩) fun entry => .inr ⟨entry, rfl⟩

/-! ## Managers -/

/-- The managers of a signature are edited by one call and, where it succeeds, fetched by another. -/
inductive ManagerCourse (creds : Credentials) (id : String) (edit : Call) :
    Calls → Except Failure (List ClaManager) → Prop
  | failed {a : Except Failure Reply} {context : String} {e : Failure} :
      (a >>= (·.checked context)) = .error e → ManagerCourse creds id edit [⟨edit, a⟩] (.error e)
  | listed {reply : Reply} {b : Except Failure Reply} {context : String} : reply.isSuccess = true →
      ManagerCourse creds id edit [⟨edit, .ok reply⟩, ⟨Cla.get creds (Cla.managerPath id), b⟩]
        ((b >>= (·.checked context)) >>= (·.read ClaManager.codec.list))

theorem manager_course {edit : Call} {context : String} {r : Except Failure (List ClaManager)}
    (run : ((do let _ ← Remote.succeed edit context : Remote Unit) >>= fun _ =>
      Cla.managers creds id).run.Transcript u r) :
    ManagerCourse creds id edit u r := by
  rcases transcript_attempt_bind_iff.1 run with ⟨e, rfl, h⟩ | ⟨_, _, _, rfl, h, hm⟩
  · obtain ⟨a, rfl, he⟩ := Remote.succeed_unit_transcript_iff.1 h
    cases hc : a >>= (·.checked context) with
    | error e' =>
      rw [hc] at he
      cases he
      exact .failed hc
    | ok reply =>
      rw [hc] at he
      cases he
  · obtain ⟨a, rfl, ha⟩ := Remote.succeed_unit_transcript_iff.1 h
    obtain ⟨b, rfl, rfl⟩ := Remote.fetch_transcript_iff.1 hm
    obtain ⟨_, hc, -⟩ := except_map_ok_iff.1 ha.symm
    obtain ⟨reply, rfl, hc⟩ := except_bind_ok_iff.1 hc
    exact .listed (Reply.checked_ok_iff.1 hc).1

/-- The word names no kind of allow-list, or there are no values. -/
def SaysNothing (word : String) (values : List String) : Prop :=
  (∀ kind, AllowListKind.ofWord word ≠ .ok kind) ∨ values = []

theorem edit_course {e : Edit} {word : String} {values : List String} {r : Except Failure Update}
    (run : (edit creds e companyId projectId word values).run.Transcript u r) :
    (SaysNothing word values ∧ u = [] ∧ ∃ m, r = .error (.validation m)) ∨
      (¬ SaysNothing word values ∧ ∃ kind, Course creds companyId projectId
        (fun _ rest r => (editList creds e companyId projectId kind values).run.Transcript rest r) u r) := by
  rw [edit] at run
  rcases transcript_attempt_found_iff.1 run with ⟨f, hk, rfl, rfl⟩ | ⟨kind, hk, run⟩
  · obtain ⟨m, hk, rfl⟩ := except_mapError_error_iff.1 hk
    refine .inl ⟨.inl fun kind h => ?_, rfl, m, rfl⟩
    rw [h] at hk
    cases hk
  have hk := except_mapError_ok_iff.1 hk
  split at run
  next hv =>
    obtain ⟨rfl, rfl⟩ := transcript_attempt_throw_iff.1 run
    exact .inl ⟨.inr (List.isEmpty_iff.1 hv), rfl, _, rfl⟩
  next hv =>
    refine .inr ⟨?_, kind, current_bind_course run⟩
    rintro (h | rfl)
    · exact h kind hk
    · exact hv rfl

end Corporate

namespace Operation

variable {s : Session} {o : Operation} {companyId projectId : String} {u : Calls} {r : Except Failure Answer}

/-- The company and the project whose corporate signature an operation edits. -/
def edited? : Operation → Option (String × String)
  | editAllowList _ companyId projectId _ _
  | addManager companyId projectId _
  | removeManager companyId projectId _ => some (companyId, projectId)
  | _ => none

/-- There is nothing to edit, or nothing to edit it by. -/
def SaysNothing : Operation → Prop
  | editAllowList _ _ _ word values => Corporate.SaysNothing word values
  | addManager _ _ lfId => (Text.trim lfId).isEmpty = true
  | _ => False

/-- The answer that managers are listed by. -/
def managersAnswer (ms : List ClaManager) : Answer := .ok (ClaManager.codec.list.encode ms)

/-- What an edit does once it has a corporate record: changes of the allow-list, or one edit of the
managers of that record and then their listing. -/
def Follows (creds : Credentials) (o : Operation) (record : Signature) (rest : Calls)
    (r : Except Failure Answer) : Prop :=
  match o with
  | editAllowList e companyId projectId _ _ =>
    ∀ x ∈ rest, Corporate.IsListChange creds e companyId projectId x.1
  | addManager _ _ lfId => ∃ ms, r = Except.map managersAnswer ms ∧
    Corporate.ManagerCourse creds record.id
      (Cla.call creds .post (Cla.managerPath record.id) (some (.obj [("lfid", .str (Text.trim lfId))])))
      rest ms
  | removeManager _ _ lfId => ∃ ms, r = Except.map managersAnswer ms ∧
    Corporate.ManagerCourse creds record.id
      (Cla.call creds .delete (Cla.managerPath record.id ++ "/" ++ lfId) none) rest ms
  | _ => False

/-- An edit that says nothing is refused at once, and any other takes its course. -/
theorem execute_course {limits : Config.Limits} (edits : o.edited? = some (companyId, projectId))
    (run : (o.execute limits s).run.Transcript u r) :
    (o.SaysNothing ∧ u = [] ∧ ∃ m, r = .error (.validation m)) ∨
      (¬ o.SaysNothing ∧ Corporate.Course s.claCredentials companyId projectId
        (o.Follows s.claCredentials) u r) := by
  cases o with
  | editAllowList e _ _ word values =>
    cases edits
    obtain ⟨y, h, rfl⟩ := transcript_attempt_settled_iff.1 run
    rcases Corporate.edit_course h with ⟨hn, rfl, m, rfl⟩ | ⟨hn, kind, course⟩
    · exact .inl ⟨hn, rfl, m, rfl⟩
    · exact .inr ⟨hn, course.map _ fun _ _ _ h => Corporate.asks_listChange.of_transcript h⟩
  | addManager _ _ lfId =>
    cases edits
    obtain ⟨y, h, rfl⟩ := transcript_attempt_settled_iff.1 run
    rw [Corporate.addManager] at h
    split at h
    next hn =>
      obtain ⟨rfl, rfl⟩ := transcript_attempt_throw_iff.1 h
      exact .inl ⟨hn, rfl, _, rfl⟩
    next hn =>
      exact .inr ⟨hn, (Corporate.current_bind_course h).map _ fun _ _ ms h =>
        ⟨ms, rfl, Corporate.manager_course h⟩⟩
  | removeManager _ _ lfId =>
    cases edits
    obtain ⟨y, h, rfl⟩ := transcript_attempt_settled_iff.1 run
    exact .inr ⟨id, (Corporate.current_bind_course h).map _ fun _ _ ms h =>
      ⟨ms, rfl, Corporate.manager_course h⟩⟩
  | _ => cases edits

/-- Whoever is authenticated may edit. -/
theorem permit_edit (edits : o.edited? = some (companyId, projectId)) (h : s.has .authenticated = true) :
    o.permit s = .ok () := by
  have hcheck : Guard.authenticated.check s = .ok () :=
    Guard.check_ok_iff.2 ⟨.authenticated, by simp [Guard.authenticated], h⟩
  cases o <;> first | exact hcheck | cases edits

end Operation

/-- The company and the project whose corporate signature a resource belongs to. -/
def Resource.edited? : Resource → Option (String × String)
  | allowList companyId projectId _
  | managers companyId projectId
  | manager companyId projectId _ => some (companyId, projectId)
  | _ => none

theorem Operation.edited?_asked (o : Operation) : o.asked.2.edited? = o.edited? := by
  cases o with
  | editAllowList e => cases e <;> rfl
  | _ => rfl

theorem Operation.asked_ne_get {o : Operation} (edits : o.edited?.isSome = true) : o.asked.1 ≠ .get := by
  cases o with
  | editAllowList e => cases e <;> simp [asked]
  | addManager => simp [asked]
  | removeManager => simp [asked]
  | _ => cases edits

theorem Resource.edited?_decoded {r d : Resource} (h : r.decoded? = some d) :
    d.edited?.isSome = r.edited?.isSome := by
  cases r <;> simp [decoded?, mapTexts?, Option.bind_eq_some_iff] at h <;> grind [edited?]

namespace Console

variable {c : Console} {m : Moment} {store : SessionStore} {i : Incoming} {r : Resource}

/-- How a request to edit comes out: it is turned away without a call, or its edit takes its course. -/
theorem handle_edit_cases (path : Target.ofPath? i.path = some (.guarded r))
    (edits : r.edited?.isSome = true) {t h} (run : (c.handle m store i).Transcript t h) :
    (t = [] ∧ 400 ≤ h.answer.status ∧
      ∀ s o, sessionOf store i = .ok s → s.has .authenticated = true →
        Operation.read? r i = some (.ok o) → o.SaysNothing ∧ h.answer.status = 400) ∨
    ∃ s o d companyId projectId x, sessionOf store i = .ok s ∧ Operation.read? r i = some (.ok o) ∧
      r.decoded? = some d ∧ d.edited? = some (companyId, projectId) ∧ ¬ o.SaysNothing ∧
      Corporate.Course s.claCredentials companyId projectId (o.Follows s.claCredentials) t x ∧
      h.answer = .ofExcept x := by
  rcases handle_guarded_cases path run with ⟨e, hl, rfl, hstatus, -⟩ | ⟨s, h', live, served, hstatus, heq⟩
  · exact .inl ⟨rfl, hstatus ▸ e.le_status, fun s o live => by simp [hl] at live⟩
  rcases serveGuarded_cases served with ⟨unread, rfl, -, h400⟩ | ⟨o, x, read, performed, hanswer, -⟩
  · exact .inl ⟨rfl, hstatus ▸ h400, fun s o _ _ read => absurd read (unread o)⟩
  obtain ⟨d, hd, hasked⟩ := Operation.asked_of_read? read
  have hedits : o.edited?.isSome = true := by
    rw [← o.edited?_asked, hasked, Resource.edited?_decoded hd, edits]
  obtain ⟨⟨companyId, projectId⟩, hids⟩ := Option.isSome_iff_exists.1 hedits
  have hverb : i.verb ≠ .head := by
    intro hhead
    refine Operation.asked_ne_get hedits ?_
    rw [hasked, hhead]
    rfl
  obtain rfl := heq hverb
  rcases Operation.perform_cases performed with ⟨f, hp, rfl, rfl⟩ | ⟨-, executed⟩
  · refine .inl ⟨rfl, by rw [hanswer]; exact f.le_status, fun s' o' live' auth read' => ?_⟩
    rw [live] at live'
    rw [read] at read'
    cases live'
    cases read'
    rw [Operation.permit_edit hids auth] at hp
    cases hp
  rcases Operation.execute_course hids executed with ⟨hn, rfl, msg, rfl⟩ | ⟨hn, course⟩
  · refine .inl ⟨rfl, by rw [hanswer]; exact (Failure.validation msg).le_status, fun s' o' _ _ read' => ?_⟩
    rw [read] at read'
    cases read'
    exact ⟨hn, by rw [hanswer]; rfl⟩
  · refine .inr ⟨s, o, d, companyId, projectId, x, live, read, hd, ?_, hn, course, hanswer⟩
    rw [← hids, ← o.edited?_asked, hasked]

/-- **No edit without a current corporate signature.** A request to edit an allow-list or the managers is
turned away without a call, or it fetches the corporate listing of the company in the project. If the
fetch fails, that is the answer, and if the listing holds no corporate record, the answer says so (404);
otherwise the edit goes on for the first one. So every call that changes something comes behind a
listing that could be had and holds a corporate record. -/
theorem edits_follow_corporate_record (c : Console) (m : Moment) (store : SessionStore) (i : Incoming)
    {r : Resource} (path : Target.ofPath? i.path = some (.guarded r)) (edits : r.edited?.isSome = true)
    {t h} (run : (c.handle m store i).Transcript t h) :
    ((t = [] ∧ 400 ≤ h.answer.status ∧
        ∀ s o, sessionOf store i = .ok s → s.has .authenticated = true →
          Operation.read? r i = some (.ok o) → o.SaysNothing ∧ h.answer.status = 400) ∨
      ∃ s o d companyId projectId x, sessionOf store i = .ok s ∧ Operation.read? r i = some (.ok o) ∧
        r.decoded? = some d ∧ d.edited? = some (companyId, projectId) ∧ ¬ o.SaysNothing ∧
        Corporate.Course s.claCredentials companyId projectId (o.Follows s.claCredentials) t x ∧
        h.answer = .ofExcept x) ∧
    ∀ before x after, t = before ++ x :: after → x.1.mutates = true →
      ∃ s d companyId projectId a page record, sessionOf store i = .ok s ∧
        r.decoded? = some d ∧ d.edited? = some (companyId, projectId) ∧
        ⟨Corporate.listingCall s.claCredentials companyId projectId, a⟩ ∈ before ∧
        Corporate.listed a = .ok page ∧ page.firstCorporate? = some record := by
  have cases := handle_edit_cases path edits run
  refine ⟨cases, fun before x after ht mutates => ?_⟩
  rcases cases with ⟨rfl, -⟩ | ⟨s, o, d, companyId, projectId, y, live, -, hd, hids, -, course, -⟩
  · simp at ht
  · obtain ⟨a, page, record, hmem, hpage, hrecord⟩ := course.preceded ht mutates
    exact ⟨s, d, companyId, projectId, a, page, record, live, hd, hids, hmem, hpage, hrecord⟩

end Console
namespace Sample

/-- Someone is to become a manager. -/
def newManager : Incoming :=
  request .post "/company/c-1/project/p-1/managers" "\x7b\"lfId\": \"grace\"\x7d"

/-- The manager is added, and the call for it comes behind the listing of the company in the project. -/
theorem newManager_follows_record :
    ∃ t h, (console.handle moment store newManager).Transcript t h ∧ h.answer.status = 200 ∧
      t.map (·.1.path) =
        [Cla.corporatePath "c-1" "p-1", Cla.managerPath "s-1", Cla.managerPath "s-1"] ∧
      ∀ before x after, t = before ++ x :: after → x.1.mutates = true →
        ∃ s d companyId projectId a page record, Console.sessionOf store newManager = .ok s ∧
          (Resource.managers "c-1" "p-1").decoded? = some d ∧ d.edited? = some (companyId, projectId) ∧
          ⟨Corporate.listingCall s.claCredentials companyId projectId, a⟩ ∈ before ∧
          Corporate.listed a = .ok page ∧ page.firstCorporate? = some record := by
  let world := fun (_ : List Call) (c : Call) =>
    (.ok (if c.path = Cla.managerPath "s-1" then ⟨200, "[]"⟩ else reply c) : Except Failure Reply)
  let handled := console.handle moment store newManager
  have hrun : (handled.result world []).answer.status = 200 ∧
      (handled.questions world []).map (·.path) =
        [Cla.corporatePath "c-1" "p-1", Cla.managerPath "s-1", Cla.managerPath "s-1"] := by decide +kernel
  have path : Target.ofPath? newManager.path = some (.guarded (.managers "c-1" "p-1")) := by
    decide +kernel
  obtain ⟨t, run, asked⟩ := exists_transcript world handled []
  refine ⟨t, _, run, hrun.1, ?_,
    (Console.edits_follow_corporate_record console moment store newManager path rfl run).2⟩
  rw [← hrun.2, ← asked]
  simp

end Sample
end SignatureDesk
