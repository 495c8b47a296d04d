/-
What can come of a request, and what the sessions can become over any number of
them. Handling is taken apart once, into the cases that later statements need:
a guarded request is turned away without a call, or an operation is performed
for a live session; a free one leaves the sessions alone, or is a login.

`Console.Reachable` are the sessions after any requests, whatever the services
reply; every session among them is authenticated.
-/
import SignatureDesk.Console.Basic
import SignatureDesk.Proofs.Dialogue.Transcript
import SignatureDesk.Proofs.Outcome

namespace SignatureDesk

open Dialogue

/-! ## Operations and logins -/

namespace Operation

/-- The verb and the resource by which an operation is asked for. -/
def asked : Operation → Verb × Resource
  | logout => (.post, .logout)
  | currentUser => (.get, .currentUser)
  | users => (.get, .users)
  | createUser _ => (.post, .users)
  | roles => (.get, .roles)
  | user u => (.get, .user u)
  | updateUser u _ => (.put, .user u)
  | removeUser u => (.delete, .user u)
  | addRole u _ => (.post, .userRoles u)
  | removeRole u g => (.delete, .userRole u g)
  | managedProjects => (.get, .managedProjects)
  | projects => (.get, .projects)
  | project p => (.get, .project p)
  | projectMembers p => (.get, .projectMembers p)
  | projectSignatures p _ _ => (.get, .projectSignatures p)
  | createCompany _ => (.post, .companies)
  | requestInvite c => (.post, .inviteRequests c)
  | companyProject c p => (.get, .companyProject c p)
  | editAllowList .add c p k _ => (.post, .allowList c p k)
  | editAllowList .remove c p k _ => (.delete, .allowList c p k)
  | addManager c p _ => (.post, .managers c p)
  | removeManager c p l => (.delete, .manager c p l)

theorem asked_of_ofDecoded? {r : Resource} {i : Incoming} {o : Operation}
    (read : ofDecoded? r i = some (.ok o)) : o.asked = (i.verb.served, r) := by
  unfold ofDecoded? at read
  split at read <;> rename_i hv <;>
    simp only [hv, reduceCtorEq, Option.some.injEq, Except.ok.injEq, except_map_ok_iff,
      except_bind_ok_iff] at read ⊢
  all_goals
    first
    | (subst read; rfl)
    | (obtain ⟨_, -, rfl⟩ := read; rfl)
    | (obtain ⟨_, -, _, -, h⟩ := read; cases h; rfl)

/-- What is read from a request is asked for by it. -/
theorem asked_of_read? {r : Resource} {i : Incoming} {o : Operation}
    (h : read? r i = some (.ok o)) : ∃ d, r.decoded? = some d ∧ o.asked = (i.verb.served, d) := by
  rw [read?] at h
  split at h
  next d hd => exact ⟨d, hd, asked_of_ofDecoded? h⟩
  next => simp at h

theorem eq_logout_of_asked {o : Operation} (h : o.asked.2 = .logout) : o = .logout := by
  cases o with
  | logout => rfl
  | editAllowList e => cases e <;> cases h
  | _ => cases h

/-- Only a logout changes the sessions. -/
theorem change_eq_keep {s : Session} {o : Operation} (h : o ≠ .logout) : o.change s = .keep := by
  cases o <;> first | rfl | exact absurd rfl h

/-- A logout succeeds without a call. -/
theorem perform_logout {limits : Config.Limits} {s : Session} :
    (logout.perform limits s).run = .done (.ok .done) := rfl

/-- An operation is done only for a session that may have it done. -/
theorem perform_cases {limits : Config.Limits} {s : Session} {o : Operation} {t r}
    (h : (o.perform limits s).run.Transcript t r) :
    (∃ e, o.permit s = .error e ∧ t = [] ∧ r = .error e) ∨
      (o.permit s = .ok () ∧ (o.execute limits s).run.Transcript t r) := by
  rw [perform] at h
  rcases transcript_attempt_found_iff.1 h with ⟨e, hp, rfl, rfl⟩ | ⟨_, hp, hx⟩
  · exact .inl ⟨e, hp, rfl, rfl⟩
  · exact .inr ⟨hp, hx⟩

end Operation

theorem Resource.decoded?_eq_logout {r : Resource} (h : r.decoded? = some .logout) : r = .logout := by
  cases r <;> simp_all [decoded?, mapTexts?, Option.bind_eq_some_iff]

/-- The verb and the resource by which a free operation is asked for. -/
def FreeOperation.asked : FreeOperation → Verb × FreeResource
  | health => (.get, .health)
  | status => (.get, .status)
  | login _ => (.post, .login)

theorem FreeOperation.asked_of_read? {r : FreeResource} {i : Incoming} {o : FreeOperation}
    (read : read? r i = some (.ok o)) : o.asked = (i.verb.served, r) := by
  unfold read? at read
  split at read <;> rename_i hv <;>
    simp only [hv, reduceCtorEq, Option.some.injEq, Except.ok.injEq, except_map_ok_iff] at read ⊢
  · subst read
    rfl
  · subst read
    rfl
  · obtain ⟨_, -, rfl⟩ := read
    rfl

/-- The session of a login has the id of the moment and belongs to the identity. -/
theorem Login.perform_ok {l : Login} {verifier account m t} {s : Session}
    (h : (l.perform verifier account m).run.Transcript t (.ok s)) :
    ∃ keys record proved, s = l.session m keys record proved := by
  rw [Login.perform] at h
  split at h
  · cases (transcript_attempt_throw_iff.1 h).2
  rcases transcript_attempt_bind_iff.1 h with ⟨e, he, -⟩ | ⟨_, _, proved, -, -, h⟩
  · cases he
  rcases transcript_attempt_bind_iff.1 h with ⟨e, he, -⟩ | ⟨_, _, keys, -, -, h⟩
  · cases he
  rcases transcript_attempt_bind_iff.1 h with ⟨e, he, -⟩ | ⟨_, _, record, -, -, h⟩
  · cases he
  have hs := (transcript_attempt_pure_iff.1 h).2
  simp only [Except.ok.injEq] at hs
  exact ⟨keys, record, proved, hs⟩

/-- What comes of a request when its operation comes to this. -/
def Operation.handled (o : Operation) (s : Session) : Except Failure Answer → Handled
  | .ok a => ⟨a, o.change s⟩
  | .error e => .only (.ofFailure e)

theorem Operation.handled_answer {o : Operation} {s : Session} {x : Except Failure Answer} :
    (o.handled s x).answer = .ofExcept x := by
  cases x <;> rfl

theorem Session.opened_has_authenticated {id lfId userId keys idToken cs created} :
    (Session.opened id lfId userId keys idToken cs created).has .authenticated = true := by
  simp [Session.opened, Session.has, Capability.set, Capability.all]

/-! ## Answers to what goes wrong -/

theorem Failure.le_status (f : Failure) : 400 ≤ f.status := by
  cases f <;> simp [status]

theorem Rejection.le_status (r : Rejection) : 400 ≤ r.answer.status := by
  cases r <;> decide

namespace Console

variable {c : Console} {m : Moment} {store : SessionStore} {i : Incoming}

/-! ## Sessions of requests -/

theorem sessionOf_ok_iff {s : Session} :
    sessionOf store i = .ok s ↔
      ∃ id, bearerSession i.authorization = .ok id ∧ store.get? id = some s := by
  rw [sessionOf, except_bind_ok_iff]
  refine exists_congr fun id => and_congr_right fun _ => ?_
  cases store.get? id with
  | none => simp [throw, throwThe, MonadExceptOf.throw]
  | some s' => simp [pure, Except.pure]

theorem bearerSession_error_status {header : Option (List UInt8)} {e : Failure}
    (h : bearerSession header = .error e) : e.status = 401 := by
  rw [bearerSession] at h
  split at h
  · cases h; rfl
  · split at h
    · cases h; rfl
    · split at h
      · cases h
      · cases h; rfl

/-- Without a live session a request is unauthorised. -/
theorem sessionOf_error_status {e : Failure} (h : sessionOf store i = .error e) : e.status = 401 := by
  rw [sessionOf, except_bind_error_iff] at h
  rcases h with h | ⟨id, -, h⟩
  · exact bearerSession_error_status h
  · split at h
    · cases h
    · cases h; rfl

/-! ## Requests -/

theorem handle_transcript_iff {t h} :
    (c.handle m store i).Transcript t h ↔
      ∃ h', (c.serve m store i).Transcript t h' ∧
        h = if i.verb = .head then h'.withoutContent else h' := by
  rw [Console.handle, bind_eq, transcript_bind_iff]
  constructor
  · rintro ⟨t₁, t₂, h', rfl, hs, hd⟩
    obtain ⟨rfl, rfl⟩ := transcript_done_iff.1 hd
    exact ⟨h', by simpa using hs, rfl⟩
  · rintro ⟨h', hs, rfl⟩
    exact ⟨t, [], h', by simp, hs, .done⟩

/-- A session's request comes to an operation performed for it, or to nothing. -/
theorem serveGuarded_cases {s : Session} {r : Resource} {t h}
    (run : (c.serveGuarded s r i).Transcript t h) :
    ((∀ o, Operation.read? r i ≠ some (.ok o)) ∧ t = [] ∧ h.change = .keep ∧ 400 ≤ h.answer.status) ∨
      ∃ o x, Operation.read? r i = some (.ok o) ∧
        (o.perform c.config.limits s).run.Transcript t x ∧
        h.answer = Answer.ofExcept x ∧ h.change = if x.isOk then o.change s else .keep := by
  rw [Console.serveGuarded] at run
  split at run
  next hr =>
    obtain ⟨rfl, rfl⟩ := transcript_done_iff.1 run
    exact .inl ⟨by simp [hr], rfl, rfl, by decide⟩
  next e hr =>
    obtain ⟨rfl, rfl⟩ := transcript_done_iff.1 run
    exact .inl ⟨by simp [hr], rfl, rfl, e.le_status⟩
  next o hr =>
    rw [bind_eq, transcript_bind_iff] at run
    obtain ⟨t₁, t₂, x, rfl, hx, hd⟩ := run
    refine .inr ⟨o, x, hr, ?_⟩
    cases x <;> obtain ⟨rfl, rfl⟩ := transcript_done_iff.1 hd <;>
      exact ⟨by simpa using hx, rfl, rfl⟩

/-- What comes of a guarded request: it is turned away for want of a live
session, or it is served to one. -/
theorem handle_guarded_cases {r : Resource} {t h} (path : Target.ofPath? i.path = some (.guarded r))
    (run : (c.handle m store i).Transcript t h) :
    (∃ e, sessionOf store i = .error e ∧ t = [] ∧ h.answer.status = e.status ∧ h.change = .keep) ∨
      ∃ s h', sessionOf store i = .ok s ∧ (c.serveGuarded s r i).Transcript t h' ∧
        h.answer.status = h'.answer.status ∧ (i.verb ≠ .head → h = h') := by
  obtain ⟨h', hs, rfl⟩ := handle_transcript_iff.1 run
  rw [Console.serve, path] at hs
  simp only at hs
  split at hs
  next e he =>
    obtain ⟨rfl, rfl⟩ := transcript_done_iff.1 hs
    exact .inl ⟨e, he, rfl, by split <;> rfl, by split <;> rfl⟩
  next s hl => exact .inr ⟨s, h', hl, hs, by split <;> rfl, fun hv => if_neg hv⟩

/-- An operation that the session may have done is done, and the request comes to what it comes to. -/
theorem handle_permitted {r : Resource} {s : Session} {o : Operation}
    (path : Target.ofPath? i.path = some (.guarded r)) (live : sessionOf store i = .ok s)
    (read : Operation.read? r i = some (.ok o)) (verb : i.verb ≠ .head) (permitted : o.permit s = .ok ()) :
    c.handle m store i = (o.execute c.config.limits s).run.bind fun x => .done (o.handled s x) := by
  have hperform : o.perform c.config.limits s = o.execute c.config.limits s := by
    rw [Operation.perform, permitted]
    rfl
  rw [handle, serve, path]
  simp only [live, serveGuarded, read, hperform, bind_eq, bind_assoc]
  refine congrArg (Dialogue.bind _) (funext fun x => ?_)
  cases x <;> simp [verb, Operation.handled]

/-- Of the free operations only a login that succeeds changes the sessions. -/
theorem serveFree_cases {r : FreeResource} {t h} (run : (c.serveFree m store r i).Transcript t h) :
    (h.change = .keep ∧ (r = .login → 400 ≤ h.answer.status)) ∨
      ∃ l s, r = .login ∧ FreeOperation.read? r i = some (.ok (.login l)) ∧
        (l.perform c.verifier c.account m).run.Transcript t (.ok s) ∧ h = ⟨.ok s.grant, .opens s⟩ := by
  rw [Console.serveFree] at run
  split at run
  · rw [(transcript_done_iff.1 run).2]
    exact .inl ⟨rfl, fun _ => by decide⟩
  next e _ =>
    rw [(transcript_done_iff.1 run).2]
    exact .inl ⟨rfl, fun _ => e.le_status⟩
  next o hr =>
    have hasked := FreeOperation.asked_of_read? hr
    cases o with
    | health =>
      obtain ⟨-, rfl⟩ := Prod.mk.inj hasked
      rw [(transcript_done_iff.1 run).2]
      exact .inl ⟨rfl, fun h => by cases h⟩
    | status =>
      obtain ⟨-, rfl⟩ := Prod.mk.inj hasked
      rw [Console.performFree, bind_eq, transcript_bind_iff] at run
      obtain ⟨_, _, _, -, -, hd⟩ := run
      rw [(transcript_done_iff.1 hd).2]
      exact .inl ⟨rfl, fun h => by cases h⟩
    | login l =>
      obtain ⟨-, rfl⟩ := Prod.mk.inj hasked
      rw [Console.performFree, bind_eq, transcript_bind_iff] at run
      obtain ⟨t₁, t₂, x, rfl, hx, hd⟩ := run
      cases x with
      | error e =>
        obtain ⟨rfl, rfl⟩ := transcript_done_iff.1 hd
        exact .inl ⟨rfl, fun _ => e.le_status⟩
      | ok s =>
        obtain ⟨rfl, rfl⟩ := transcript_done_iff.1 hd
        exact .inr ⟨l, s, rfl, hr, by simpa using hx, rfl⟩

/-- Of the operations of a session only a logout changes the sessions. -/
theorem serveGuarded_change_cases {s : Session} {r : Resource} {t h}
    (run : (c.serveGuarded s r i).Transcript t h) :
    (h.change = .keep ∧ (r = .logout → 400 ≤ h.answer.status)) ∨
      (r = .logout ∧ i.verb.served = .post ∧ h = ⟨.done, .closes s.id⟩) := by
  rcases serveGuarded_cases run with ⟨-, -, hk, hstatus⟩ | ⟨o, x, read, performed, hanswer, hchange⟩
  · exact .inl ⟨hk, fun _ => hstatus⟩
  obtain ⟨d, hd, hasked⟩ := Operation.asked_of_read? read
  by_cases ho : o = .logout
  · subst ho
    obtain ⟨hverb, rfl⟩ := Prod.mk.inj hasked
    rw [Operation.perform_logout] at performed
    obtain ⟨-, rfl⟩ := transcript_done_iff.1 performed
    obtain ⟨answer, change⟩ := h
    cases hanswer
    cases hchange
    exact .inr ⟨Resource.decoded?_eq_logout hd, hverb.symm, rfl⟩
  · rw [Operation.change_eq_keep ho, ite_self] at hchange
    refine .inl ⟨hchange, ?_⟩
    rintro rfl
    cases hd
    exact absurd (Operation.eq_logout_of_asked (Prod.mk.inj hasked).2) ho

/-- What a request does to the sessions, and how it is answered: a login that is answered 200
opens one, a logout that is answered 204 closes the one it is made for, and any other request
leaves them alone. -/
theorem handle_change_cases {t h} (run : (c.handle m store i).Transcript t h) :
    (h.change = .keep ∧ (Target.ofPath? i.path = some (.free .login) → 400 ≤ h.answer.status) ∧
        (Target.ofPath? i.path = some (.guarded .logout) → 400 ≤ h.answer.status)) ∨
      (∃ (l : Login) (s : Session), Target.ofPath? i.path = some (.free .login) ∧
        (l.perform c.verifier c.account m).run.Transcript t (.ok s) ∧ h = ⟨.ok s.grant, .opens s⟩) ∨
      ∃ s, Target.ofPath? i.path = some (.guarded .logout) ∧ sessionOf store i = .ok s ∧
        h = ⟨.done, .closes s.id⟩ := by
  obtain ⟨h', served, rfl⟩ := handle_transcript_iff.1 run
  have hstatus : (if i.verb = .head then h'.withoutContent else h').answer.status = h'.answer.status := by
    split <;> rfl
  have hchange : (if i.verb = .head then h'.withoutContent else h').change = h'.change := by
    split <;> rfl
  have hposted : i.verb.served = .post → (if i.verb = .head then h'.withoutContent else h') = h' := by
    intro hverb
    refine if_neg fun hhead => ?_
    rw [hhead] at hverb
    cases hverb
  rw [hstatus, hchange]
  rw [Console.serve] at served
  split at served
  next hp =>
    rw [(transcript_done_iff.1 served).2]
    exact .inl ⟨rfl, by simp [hp], by simp [hp]⟩
  next r hp =>
    rcases serveFree_cases served with ⟨hk, hl⟩ | ⟨l, s, rfl, hr, performed, rfl⟩
    · exact .inl ⟨hk, by simpa [hp] using hl, by simp [hp]⟩
    · have hverb := (Prod.mk.inj (FreeOperation.asked_of_read? hr)).1
      exact .inr (.inl ⟨l, s, hp, performed, hposted hverb.symm⟩)
  next r hp =>
    split at served
    next e _ =>
      rw [(transcript_done_iff.1 served).2]
      exact .inl ⟨rfl, by simp [hp], fun _ => e.le_status⟩
    next s live =>
      rcases serveGuarded_change_cases served with ⟨hk, hl⟩ | ⟨rfl, hverb, rfl⟩
      · exact .inl ⟨hk, by simp [hp], by simpa [hp] using hl⟩
      · exact .inr (.inr ⟨s, hp, live, hposted hverb⟩)

/-! ## Any number of requests -/

/-- The sessions there can be after any requests, whatever the services reply. -/
inductive Reachable (c : Console) : SessionStore → Prop
  | empty : Reachable c .empty
  | handle {store m i t h} : Reachable c store → (c.handle m store i).Transcript t h →
      Reachable c (store.apply h.change)

/-- Whoever has a session is authenticated. -/
theorem Reachable.authenticated (reach : Reachable c store) {id : SessionId} {s : Session}
    (live : store.get? id = some s) : s.has .authenticated = true := by
  induction reach generalizing id s with
  | empty => cases live
  | handle _ run ih =>
    rcases handle_change_cases run with ⟨hk, -, -⟩ | ⟨l, s', -, hl, rfl⟩ | ⟨s', -, -, rfl⟩
    · rw [hk, SessionStore.apply] at live
      exact ih live
    · obtain ⟨keys, record, proved, rfl⟩ := Login.perform_ok hl
      rw [SessionStore.apply, SessionStore.get?_insert] at live
      split at live
      · cases live
        exact Session.opened_has_authenticated
      · exact ih live
    · rw [SessionStore.apply, SessionStore.get?_remove] at live
      split at live
      · cases live
      · exact ih live

end Console
end SignatureDesk
