/-
Edits of an allow-list that are refused. A refusal is an answer that blames the
caller (400). Lists with an approval change are checked as a whole before anything is
sent; organizations are checked and switched one by one, so those before the
first bad value have been switched when the edit is refused.
-/
import SignatureDesk.Proofs.Console.Sample
import SignatureDesk.Proofs.Remote.Call

namespace SignatureDesk

open Dialogue

namespace Corporate

variable {creds : Credentials} {e : Edit} {companyId projectId : String} {u}

/-- The organizations that the values at the start of a list name. -/
def named (e : Edit) : List String → List String
  | [] => []
  | value :: rest =>
    match organization e value with
    | .ok entry => entry :: named e rest
    | .error _ => []

/-- The call that switches an organization. -/
def switchCall (creds : Credentials) (e : Edit) (companyId projectId entry : String) : Call :=
  Cla.call creds (match e with | .add => .post | .remove => .delete)
    (Cla.organizationPath companyId projectId) (some (Cla.organizationBody entry))

/-- What has been sent when an edit is refused. -/
def sentBeforeRefusal (creds : Credentials) (e : Edit) (companyId projectId word : String)
    (values : List String) : List Call :=
  match AllowListKind.ofWord word with
  | .ok .githubOrg => (named e values).map (switchCall creds e companyId projectId)
  | _ => []

theorem switchCall_mutates (entry : String) :
    (switchCall creds e companyId projectId entry).mutates = true := by
  cases e <;> rfl

theorem switch_eq (creds : Credentials) (e : Edit) (companyId projectId entry : String) :
    ∃ context, switch creds e companyId projectId entry =
      .fetch (switchCall creds e companyId projectId entry) context GithubOrg.codec.list := by
  cases e <;> exact ⟨_, rfl⟩

theorem asks_switchAll {p : Call → Prop} {last : List GithubOrg} {values : List String}
    (h : ∀ entry, p (switchCall creds e companyId projectId entry)) :
    Asks p (switchAll creds e companyId projectId last values).run := by
  induction values generalizing last with
  | nil => exact .attempt_pure
  | cons value rest ih =>
    rw [switchAll]
    refine Asks.attempt_bind .attempt_ofExcept fun entry => ?_
    obtain ⟨context, hswitch⟩ := switch_eq creds e companyId projectId entry
    rw [hswitch]
    exact (Remote.asks_fetch (h entry)).attempt_bind fun _ => ih

/-- A list is edited by approval changes or by switching organizations. -/
theorem asks_editList {p : Call → Prop} {kind : AllowListKind} {values : List String}
    (hput : ∀ body, p (Cla.call creds .put (Cla.approvalPath projectId companyId) (some body)))
    (hswitch : ∀ entry, p (switchCall creds e companyId projectId entry)) :
    Asks p (editList creds e companyId projectId kind values).run := by
  rw [editList]
  split
  · exact (asks_switchAll hswitch).attempt_bind fun _ => .attempt_pure
  · refine Asks.attempt_bind .attempt_ofExcept fun change => ?_
    exact (Remote.asks_fetch (hput _)).attempt_bind fun _ => .attempt_pure

theorem remote_currentCorporate :
    Search.remote creds (currentCorporate companyId projectId) =
      (do let page ← Cla.corporateSignatures creds companyId projectId
          return page.corporate? : Remote (Option Signature)) := by
  rw [currentCorporate, Search.remote_bind, Search.remote_need]
  rfl

/-! What the edits call, for any property of calls. -/

section

variable {p : Call → Prop} {l : String} (listing : p (Cla.get creds (Cla.corporatePath companyId projectId)))

include listing

theorem asks_current : Asks p (current creds companyId projectId).run := by
  rw [current, remote_currentCorporate]
  refine Asks.attempt_bind ((Remote.asks_fetch listing).attempt_bind fun _ => .attempt_pure) fun found => ?_
  cases found with
  | some s => exact .attempt_pure
  | none => exact .attempt_throw

theorem asks_edit {word : String} {values : List String}
    (hput : ∀ body, p (Cla.call creds .put (Cla.approvalPath projectId companyId) (some body)))
    (hswitch : ∀ entry, p (switchCall creds e companyId projectId entry)) :
    Asks p (edit creds e companyId projectId word values).run := by
  refine Asks.attempt_bind .attempt_ofExcept fun kind => ?_
  split
  · exact .attempt_throw
  · exact (asks_current listing).attempt_bind fun _ => asks_editList hput hswitch

theorem asks_addManager
    (hadd : ∀ id l, p (Cla.call creds .post (Cla.managerPath id) (some (.obj [("lfid", .str l)]))))
    (hmanagers : ∀ id, p (Cla.get creds (Cla.managerPath id))) :
    Asks p (addManager creds companyId projectId l).run := by
  rw [addManager]
  split
  · exact .attempt_throw
  · refine (asks_current listing).attempt_bind fun s => ?_
    refine Asks.attempt_bind ?_ fun _ => Remote.asks_fetch (hmanagers s.id)
    exact (Remote.asks_succeed (hadd s.id _)).attempt_bind fun _ => .attempt_pure

theorem asks_removeManager
    (hremove : ∀ id, p (Cla.call creds .delete (Cla.managerPath id ++ "/" ++ l) none))
    (hmanagers : ∀ id, p (Cla.get creds (Cla.managerPath id))) :
    Asks p (removeManager creds companyId projectId l).run := by
  refine (asks_current listing).attempt_bind fun s => ?_
  refine Asks.attempt_bind ?_ fun _ => Remote.asks_fetch (hmanagers s.id)
  exact (Remote.asks_succeed (hremove s.id)).attempt_bind fun _ => .attempt_pure

end

/-- The corporate signature is looked for by one call. -/
theorem current_transcript {r : Except Failure Signature}
    (h : (current creds companyId projectId).run.Transcript u r) :
    ∃ y, (Cla.corporateSignatures creds companyId projectId).run.Transcript u y ∧
      r = y >>= fun page => match page.corporate? with
        | some s => .ok s
        | none => .error (.missingCorporate companyId projectId) := by
  rw [current, remote_currentCorporate] at h
  rcases transcript_attempt_bind_iff.1 h with ⟨e, rfl, hf⟩ | ⟨u₁, u₂, found, rfl, hf, hm⟩
  · obtain ⟨y, hy, he⟩ := transcript_attempt_settled_iff.1 hf
    cases y with
    | error e' =>
      cases he
      exact ⟨_, hy, rfl⟩
    | ok page => cases he
  · obtain ⟨y, hy, hfound⟩ := transcript_attempt_settled_iff.1 hf
    cases y with
    | error e => cases hfound
    | ok page =>
      cases hfound
      refine ⟨.ok page, ?_⟩
      simp only [except_ok_bind]
      cases hp : page.corporate? with
      | some s =>
        rw [hp] at hm
        obtain ⟨rfl, rfl⟩ := transcript_attempt_pure_iff.1 hm
        exact ⟨by simpa using hy, rfl⟩
      | none =>
        rw [hp] at hm
        obtain ⟨rfl, rfl⟩ := transcript_attempt_throw_iff.1 hm
        exact ⟨by simpa using hy, rfl⟩

theorem current_ok {s : Signature} (h : (current creds companyId projectId).run.Transcript u (.ok s)) :
    ∃ reply, u = [⟨Cla.get creds (Cla.corporatePath companyId projectId), .ok reply⟩] := by
  obtain ⟨y, hy, hs⟩ := current_transcript h
  cases y with
  | error e => cases hs
  | ok page => exact Remote.fetch_ok hy

theorem current_error_status {f : Failure}
    (h : (current creds companyId projectId).run.Transcript u (.error f)) (fair : Blameless u) :
    f.status ≠ 400 := by
  obtain ⟨y, hy, hs⟩ := current_transcript h
  rcases except_bind_error_iff.1 hs.symm with rfl | ⟨page, -, hm⟩
  · exact Remote.fetch_error_status hy fair
  · split at hm <;> cases hm
    simp [Failure.missingCorporate, Failure.status]

/-- Organizations are switched up to the first value that names none. -/
theorem switchAll_refused {last : List GithubOrg} {values : List String} {f : Failure}
    (h : (switchAll creds e companyId projectId last values).run.Transcript u (.error f))
    (fair : Blameless u) (refused : f.status = 400) :
    (∀ x ∈ u, ∃ reply, x.2 = .ok reply) ∧
      u.map (·.1) = (named e values).map (switchCall creds e companyId projectId) := by
  induction values generalizing last u with
  | nil => cases (transcript_attempt_pure_iff.1 h).2
  | cons value rest ih =>
    rw [switchAll] at h
    rcases transcript_attempt_found_iff.1 h with ⟨_, ho, rfl, -⟩ | ⟨entry, ho, h⟩
    · simp [named, ho]
    obtain ⟨context, hswitch⟩ := switch_eq creds e companyId projectId entry
    rw [hswitch] at h
    rcases transcript_attempt_bind_iff.1 h with ⟨f', he, h⟩ | ⟨u₁, u₂, orgs, rfl, hs, hr⟩
    · cases he
      exact absurd refused (Remote.fetch_error_status h fair)
    obtain ⟨reply, rfl⟩ := Remote.fetch_ok hs
    obtain ⟨replied, calls⟩ := ih hr (blameless_append_iff.1 fair).2
    refine ⟨List.forall_mem_cons.2 ⟨⟨reply, rfl⟩, replied⟩, ?_⟩
    simp [named, ho, calls]

/-- Nothing is sent for a list with an approval change that is refused. -/
theorem editList_refused {kind : AllowListKind} {values : List String} {f : Failure}
    (h : (editList creds e companyId projectId kind values).run.Transcript u (.error f))
    (fair : Blameless u) (refused : f.status = 400) :
    (∀ x ∈ u, ∃ reply, x.2 = .ok reply) ∧
      u.map (·.1) = if kind = .githubOrg then (named e values).map (switchCall creds e companyId projectId)
        else [] := by
  rw [editList] at h
  split at h
  next hk =>
    rw [if_pos hk]
    rcases transcript_attempt_bind_iff.1 h with ⟨_, he, h⟩ | ⟨_, _, _, rfl, -, h⟩
    · cases he
      exact switchAll_refused h fair refused
    · cases (transcript_attempt_pure_iff.1 h).2
  next hk =>
    rw [if_neg hk]
    rcases transcript_attempt_found_iff.1 h with ⟨_, -, rfl, -⟩ | ⟨change, -, h⟩
    · simp
    rcases transcript_attempt_bind_iff.1 h with ⟨_, he, h⟩ | ⟨_, _, _, rfl, -, h⟩
    · cases he
      exact absurd refused (Remote.fetch_error_status h fair)
    · cases (transcript_attempt_pure_iff.1 h).2

theorem edit_refused {word : String} {values : List String} {f : Failure}
    (h : (edit creds e companyId projectId word values).run.Transcript u (.error f))
    (fair : Blameless u) (refused : f.status = 400) :
    (∀ x ∈ u, ∃ reply, x.2 = .ok reply) ∧
      (u.map (·.1)).filter Call.mutates = sentBeforeRefusal creds e companyId projectId word values := by
  rw [edit] at h
  rcases transcript_attempt_found_iff.1 h with ⟨_, hk, rfl, -⟩ | ⟨kind, hk, h⟩
  · obtain ⟨_, hk, -⟩ := except_mapError_error_iff.1 hk
    simp [sentBeforeRefusal, hk]
  have hk := except_mapError_ok_iff.1 hk
  split at h
  next hv =>
    obtain ⟨rfl, -⟩ := transcript_attempt_throw_iff.1 h
    rw [List.isEmpty_iff] at hv
    subst hv
    cases kind <;> simp [sentBeforeRefusal, hk, named]
  next =>
    rcases transcript_attempt_bind_iff.1 h with ⟨_, he, h⟩ | ⟨u₁, u₂, _, rfl, hs, hl⟩
    · cases he
      exact absurd refused (current_error_status h fair)
    obtain ⟨reply, rfl⟩ := current_ok hs
    obtain ⟨replied, calls⟩ := editList_refused hl (blameless_append_iff.1 fair).2 refused
    refine ⟨List.forall_mem_cons.2 ⟨⟨reply, rfl⟩, replied⟩, ?_⟩
    rw [List.map_append, List.filter_append, calls, sentBeforeRefusal, hk]
    have hget : [Cla.get creds (Cla.corporatePath companyId projectId)].filter Call.mutates = [] := rfl
    cases kind <;> simp [hget, switchCall_mutates]

/-- Something has been sent if the first value names an organization. -/
theorem sentBeforeRefusal_ne_nil_iff {word : String} {values : List String} :
    sentBeforeRefusal creds e companyId projectId word values ≠ [] ↔
      AllowListKind.ofWord word = .ok .githubOrg ∧
        ∃ value rest entry, values = value :: rest ∧ organization e value = .ok entry := by
  rw [sentBeforeRefusal]
  split
  next hw =>
    cases values with
    | nil => simp [named]
    | cons value rest => cases ho : organization e value <;> simp [named, ho, hw]
  next hw => simpa using fun h => absurd h hw

end Corporate

theorem Guard.check_error_status {g : Guard} {s : Session} {f : Failure} (h : g.check s = .error f) :
    f.status = 403 := by
  rw [Guard.check] at h
  split at h <;> cases h
  rfl

/-- What is not permitted is not the fault of what the request says. -/
theorem Operation.permit_error_status {o : Operation} {s : Session} {f : Failure}
    (h : o.permit s = .error f) : f.status ≠ 400 := by
  cases o with
  | logout => cases h
  | updateUser u update =>
    rw [permit] at h
    split at h <;> cases h
    simp [editRefusal, Failure.status]
  | _ => simp [Guard.check_error_status h]

/-- A request to a list is read as an edit of a list. -/
theorem Operation.eq_editAllowList_of_read? {companyId projectId kind : String} {i : Incoming} {o : Operation}
    (read : Operation.read? (.allowList companyId projectId kind) i = some (.ok o)) :
    ∃ e companyId projectId word values, o = .editAllowList e companyId projectId word values := by
  obtain ⟨d, hd, hasked⟩ := Operation.asked_of_read? read
  simp only [Resource.decoded?, Resource.mapTexts?, Option.bind_eq_bind, Option.bind_eq_some_iff] at hd
  obtain ⟨_, -, _, -, _, -, hd⟩ := hd
  cases hd
  cases o <;> simp_all [Operation.asked]

namespace Console

variable {c : Console} {m : Moment} {store : SessionStore} {i : Incoming}
  {companyId projectId kind : String}

/-- What is sent while an edit is refused, with the replies to all of it. -/
theorem refused_edit_calls {u h}
    (path : Target.ofPath? i.path = some (.guarded (.allowList companyId projectId kind)))
    (run : (c.handle m store i).Transcript u h) (fair : Blameless u) (refused : h.answer.status = 400) :
    ((∀ o, Operation.read? (.allowList companyId projectId kind) i ≠ some (.ok o)) ∧ u = []) ∨
      ∃ s e cid pid word values, sessionOf store i = .ok s ∧
        Operation.read? (.allowList companyId projectId kind) i =
          some (.ok (.editAllowList e cid pid word values)) ∧
        (∀ x ∈ u, ∃ reply, x.2 = .ok reply) ∧
        (u.map (·.1)).filter Call.mutates =
          Corporate.sentBeforeRefusal s.claCredentials e cid pid word values := by
  rcases handle_guarded_cases path run with ⟨f, hl, -, hstatus, -⟩ | ⟨s, h', live, served, hstatus, -⟩
  · rw [refused, sessionOf_error_status hl] at hstatus
    cases hstatus
  rcases serveGuarded_cases served with ⟨unread, hu, -⟩ | ⟨o, x, read, performed, hanswer, -⟩
  · exact .inl ⟨unread, hu⟩
  rw [refused, hanswer] at hstatus
  rcases Operation.perform_cases performed with ⟨f, hp, -, rfl⟩ | ⟨-, executed⟩
  · exact absurd hstatus.symm (Operation.permit_error_status hp)
  obtain ⟨e, cid, pid, word, values, rfl⟩ := Operation.eq_editAllowList_of_read? read
  refine .inr ⟨s, e, cid, pid, word, values, live, read, ?_⟩
  obtain ⟨y, edited, rfl⟩ := transcript_attempt_settled_iff.1 executed
  cases y with
  | ok update => cases hstatus
  | error f => exact Corporate.edit_refused edited fair hstatus.symm

/-- **What a refused edit has changed.** While an edit of an allow-list is answered 400, calls
that change something are sent just when organizations are edited and the first value is
good: a bad value behind it is only found once the ones before it have been sent. -/
theorem refused_edit_mutates_iff (c : Console) (m : Moment) (store : SessionStore) (i : Incoming)
    (path : Target.ofPath? i.path = some (.guarded (.allowList companyId projectId kind))) {t h}
    (run : ((c.link m.now).run (c.handle m store i)).Transcript t h)
    (refused : h.answer.status = 400) :
    (∃ x ∈ t, x.1.call.mutates = true) ↔
      ∃ e cid pid word value rest entry,
        Operation.read? (.allowList companyId projectId kind) i =
          some (.ok (.editAllowList e cid pid word (value :: rest))) ∧
        AllowListKind.ofWord word = .ok .githubOrg ∧ Corporate.organization e value = .ok entry := by
  obtain ⟨u, run, tells⟩ := Link.run_transcript_iff.1 run
  rcases refused_edit_calls path run (tells_carry_blameless tells) refused with
    ⟨unread, rfl⟩ | ⟨s, e, cid, pid, word, values, -, read, replied, calls⟩
  · cases tells
    constructor
    · rintro ⟨_, hx, -⟩
      cases hx
    · rintro ⟨_, _, _, _, _, _, _, read, -⟩
      exact absurd read (unread _)
  · have hsent : (∃ x ∈ t, x.1.call.mutates = true) ↔
        Corporate.sentBeforeRefusal s.claCredentials e cid pid word values ≠ [] := by
      rw [← calls, ← tells_carry_calls tells replied]
      simp [List.filter_eq_nil_iff]
    rw [hsent, Corporate.sentBeforeRefusal_ne_nil_iff]
    constructor
    · rintro ⟨hw, value, rest, entry, rfl, ho⟩
      exact ⟨e, cid, pid, word, value, rest, entry, read, hw, ho⟩
    · rintro ⟨_, _, _, _, value, rest, entry, read', hw, ho⟩
      rw [read] at read'
      cases read'
      exact ⟨hw, value, rest, entry, rfl, ho⟩

end Console

namespace Sample

/-- Two organizations are to be added, and the second value names none. -/
def halfBadEdit : Incoming :=
  request .post "/company/c-1/project/p-1/allow-list/github_org" "\x7b\"values\": [\"good\", \"bad name\"]\x7d"

theorem halfBadEdit_path :
    Target.ofPath? halfBadEdit.path = some (.guarded (.allowList "c-1" "p-1" "github_org")) := by
  decide

/-- The edit is refused, and its first organization has been sent. -/
theorem halfBadEdit_transcript :
    ∃ t h, ((console.link moment.now).run (console.handle moment store halfBadEdit)).Transcript t h ∧
      h.answer.status = 400 ∧ ∃ x ∈ t, x.1.call.mutates = true := by
  let world := fun (_ : List Request) (r : Request) => some (reply r.call)
  let handled := (console.link moment.now).run (console.handle moment store halfBadEdit)
  have hrun : (handled.result world []).answer.status = 400 ∧
      (handled.questions world []).any (·.call.mutates) = true := by decide +kernel
  obtain ⟨t, run, asked⟩ := exists_transcript world handled []
  refine ⟨t, _, run, hrun.1, ?_⟩
  simpa [← asked] using hrun.2

theorem halfBadEdit_mutates_iff :
    ∃ t h, ((console.link moment.now).run (console.handle moment store halfBadEdit)).Transcript t h ∧
      h.answer.status = 400 ∧
      ((∃ x ∈ t, x.1.call.mutates = true) ↔
        ∃ e cid pid word value rest entry,
          Operation.read? (.allowList "c-1" "p-1" "github_org") halfBadEdit =
            some (.ok (.editAllowList e cid pid word (value :: rest))) ∧
          AllowListKind.ofWord word = .ok .githubOrg ∧ Corporate.organization e value = .ok entry) := by
  obtain ⟨t, h, run, refused, -⟩ := halfBadEdit_transcript
  exact ⟨t, h, run, refused,
    Console.refused_edit_mutates_iff console moment store halfBadEdit halfBadEdit_path run refused⟩

/-- Not every refused edit has changed nothing. -/
theorem refused_edit_may_mutate :
    ¬ ∀ (c : Console) (store : SessionStore) (m : Moment) (i : Incoming) (companyId projectId kind : String),
      c.Reachable store → Target.ofPath? i.path = some (.guarded (.allowList companyId projectId kind)) →
      ∀ t h, ((c.link m.now).run (c.handle m store i)).Transcript t h → h.answer.status = 400 →
        ∀ x ∈ t, x.1.call.mutates = false := by
  intro claim
  obtain ⟨t, h, run, refused, x, hx, hm⟩ := halfBadEdit_transcript
  rw [claim console store moment halfBadEdit _ _ _ store_reachable halfBadEdit_path t h run refused x hx] at hm
  cases hm

end Sample
end SignatureDesk
