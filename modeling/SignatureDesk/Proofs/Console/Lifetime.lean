/-
The life of a session. A run is any number of requests one after the other,
whatever the services reply; it is told by its exchanges, the requests with
their moments and answers. An id is granted by a login that is answered 200 and
ended by a logout that is answered 204. Where no id is granted twice, the
sessions after a run are those of the ids that were granted and not ended, each
as its login made it.
-/
import SignatureDesk.Proofs.Console.Authorization
import SignatureDesk.Proofs.Session.Spelling

namespace SignatureDesk

open Dialogue

/-- A request that was handled at a moment, and its answer. -/
structure Exchange where
  moment : Moment
  request : Incoming
  answer : Answer

namespace Exchange

variable {x : Exchange} {id other : SessionId}

/-- A login that is answered 200 grants the id of its moment. -/
structure Grants (x : Exchange) (id : SessionId) : Prop where
  path : Target.ofPath? x.request.path = some (.free .login)
  status : x.answer.status = 200
  fresh : x.moment.freshId = id

/-- A logout that is answered 204 ends the id that its header names. -/
structure Ends (x : Exchange) (id : SessionId) : Prop where
  path : Target.ofPath? x.request.path = some (.guarded .logout)
  status : x.answer.status = 204
  names : Names x.request.authorization id

theorem Grants.not_ends (h : x.Grants id) : ¬ x.Ends other := by
  intro h'
  have hpath := h.path.symm.trans h'.path
  cases hpath

/-- A header names one id at most. -/
theorem Ends.unique (h : x.Ends id) (h' : x.Ends other) : id = other := by
  have hread := bearerSession_eq_ok_iff.2 h.names
  rw [bearerSession_eq_ok_iff.2 h'.names] at hread
  exact (Except.ok.inj hread).symm

end Exchange

/-- The id was granted and has not been ended. -/
def LiveId (xs : List Exchange) (id : SessionId) : Prop :=
  (∃ x ∈ xs, x.Grants id) ∧ ∀ x ∈ xs, ¬ x.Ends id

/-! ## Sessions and their ids -/

namespace SessionStore

variable {store store' : SessionStore} {s : Session} {id : SessionId}

/-- Every session is kept under its own id, and under no other. -/
structure Keyed (store : SessionStore) : Prop where
  own : ∀ p ∈ store.sessions, p.2.id = p.1
  nodup : (store.sessions.map (·.1)).Nodup

/-- There is one session more, and the others are as they were. -/
structure Gains (store : SessionStore) (s : Session) (store' : SessionStore) : Prop where
  absent : store.get? s.id = none
  size : store'.size = store.size + 1
  get? : ∀ id, store'.get? id = if id = s.id then some s else store.get? id

/-- The session of an id is gone, and the others are as they were. -/
structure Loses (store : SessionStore) (id : SessionId) (store' : SessionStore) : Prop where
  present : (store.get? id).isSome
  size : store'.size + 1 = store.size
  get? : ∀ other, store'.get? other = if other = id then none else store.get? other

theorem Keyed.empty : empty.Keyed := ⟨by simp [SessionStore.empty], by simp [SessionStore.empty]⟩

theorem mem_of_get? (h : store.get? id = some s) : (id, s) ∈ store.sessions := by
  obtain ⟨before, after, heq, -⟩ := List.lookup_eq_some_iff.1 h
  simp [heq]

theorem not_mem_of_get? (h : store.get? id = none) : id ∉ store.sessions.map (·.1) := by
  intro hmem
  obtain ⟨p, hp, rfl⟩ := List.mem_map.1 hmem
  simpa using List.lookup_eq_none_iff.1 h p hp

theorem Keyed.get?_id (keyed : store.Keyed) (h : store.get? id = some s) : s.id = id :=
  keyed.own _ (mem_of_get? h)

theorem keys_remove (store : SessionStore) (id : SessionId) :
    (store.remove id).sessions.map (·.1) = (store.sessions.map (·.1)).filter (· ≠ id) := by
  rw [remove, List.filter_map]
  rfl

theorem Keyed.remove (keyed : store.Keyed) (id : SessionId) : (store.remove id).Keyed where
  own p hp := keyed.own p (List.mem_filter.1 hp).1
  nodup := by
    rw [keys_remove]
    exact keyed.nodup.filter _

theorem Keyed.insert (keyed : store.Keyed) (s : Session) : (store.insert s).Keyed where
  own p hp := by
    rcases List.mem_cons.1 hp with rfl | hp
    · rfl
    · exact (keyed.remove s.id).own p hp
  nodup := by
    refine List.nodup_cons.2 ⟨?_, (keyed.remove s.id).nodup⟩
    rw [keys_remove]
    simp

theorem gains_insert (absent : store.get? s.id = none) : store.Gains s (store.insert s) where
  absent := absent
  size := by
    have hkeep : (store.remove s.id).sessions = store.sessions := by
      refine List.filter_eq_self.2 fun p hp => ?_
      have hne : p.1 ≠ s.id := fun h => not_mem_of_get? absent (h ▸ List.mem_map_of_mem hp)
      simpa using hne
    rw [size, insert, hkeep, List.length_cons]
    rfl
  get? := get?_insert store s

theorem loses_remove (keyed : store.Keyed) (present : store.get? id = some s) :
    store.Loses id (store.remove id) where
  present := by simp [present]
  size := by
    have hmem : id ∈ store.sessions.map (·.1) := List.mem_map_of_mem (mem_of_get? present)
    have hlength := List.length_erase_of_mem hmem
    have hpos := List.length_pos_of_mem hmem
    have hkeys := congrArg List.length (keys_remove store id)
    have herase : (store.sessions.map (·.1)).erase id = (store.sessions.map (·.1)).filter (· ≠ id) :=
      (keyed.nodup.erase_eq_filter id).trans (List.filter_congr fun _ _ => by simp [bne, beq_eq_decide])
    rw [herase] at hlength
    simp only [List.length_map] at hlength hpos hkeys
    rw [size, size]
    omega
  get? := get?_remove store id

end SessionStore

namespace Console

variable {c : Console} {m : Moment} {store store' : SessionStore} {i : Incoming} {x : Exchange}
  {xs : List Exchange} {id : SessionId} {s : Session}

/-! ## One exchange -/

/-- The exchange can happen, with these sessions before and behind it. -/
def Step (c : Console) (store : SessionStore) (x : Exchange) (store' : SessionStore) : Prop :=
  ∃ t h, (c.handle x.moment store x.request).Transcript t h ∧ x.answer = h.answer ∧
    store' = store.apply h.change

/-- Any request can be handled, however the services reply. -/
theorem step_result (c : Console) (m : Moment) (store : SessionStore) (i : Incoming)
    (world : List Call → Call → Except Failure Reply) :
    c.Step store ⟨m, i, ((c.handle m store i).result world []).answer⟩
      (store.apply ((c.handle m store i).result world []).change) := by
  obtain ⟨t, run, -⟩ := exists_transcript world (c.handle m store i) []
  exact ⟨t, _, run, rfl, rfl⟩

/-- What an exchange does to the sessions: nothing, unless it grants or ends an id. -/
theorem Step.cases (keyed : store.Keyed) (step : c.Step store x store') :
    (store' = store ∧ (∀ id, ¬ x.Grants id) ∧ ∀ id, ¬ x.Ends id) ∨
      (∃ s, x.Grants s.id ∧ x.answer = .ok s.grant ∧ store' = store.insert s) ∨
      ∃ s, x.Ends s.id ∧ store.get? s.id = some s ∧ store' = store.remove s.id := by
  obtain ⟨t, h, run, hanswer, rfl⟩ := step
  rcases handle_change_cases run with ⟨hk, hlogin, hlogout⟩ | ⟨l, s, path, performed, rfl⟩ |
    ⟨s, path, live, rfl⟩
  · refine .inl ⟨by rw [hk]; rfl, fun id hg => ?_, fun id he => ?_⟩
    · have h400 := hlogin hg.path
      have h200 := hanswer ▸ hg.status
      omega
    · have h400 := hlogout he.path
      have h204 := hanswer ▸ he.status
      omega
  · obtain ⟨keys, record, proved, rfl⟩ := Login.perform_ok performed
    exact .inr (.inl ⟨_, ⟨path, by rw [hanswer]; rfl, rfl⟩, hanswer, rfl⟩)
  · obtain ⟨id, hid, hget⟩ := sessionOf_ok_iff.1 live
    obtain rfl := keyed.get?_id hget
    exact .inr (.inr ⟨s, ⟨path, by rw [hanswer]; rfl, bearerSession_eq_ok_iff.1 hid⟩, hget, rfl⟩)

theorem Step.keyed (keyed : store.Keyed) (step : c.Step store x store') : store'.Keyed := by
  rcases step.cases keyed with ⟨rfl, -⟩ | ⟨s, -, -, rfl⟩ | ⟨s, -, -, rfl⟩
  · exact keyed
  · exact keyed.insert s
  · exact keyed.remove s.id

/-- What an exchange does to the session of an id. -/
theorem Step.get?_cases (keyed : store.Keyed) (step : c.Step store x store') (id : SessionId) :
    (x.Grants id ∧ ∃ s, store'.get? id = some s) ∨
      (x.Ends id ∧ (store.get? id).isSome ∧ store'.get? id = none) ∨
      (¬ x.Grants id ∧ ¬ x.Ends id ∧ store'.get? id = store.get? id) := by
  rcases step.cases keyed with ⟨rfl, hg, he⟩ | ⟨s, hg, -, rfl⟩ | ⟨s, he, hs, rfl⟩
  · exact .inr (.inr ⟨hg id, he id, rfl⟩)
  · rw [SessionStore.get?_insert]
    by_cases hid : id = s.id
    · subst hid
      exact .inl ⟨hg, s, if_pos rfl⟩
    · exact .inr (.inr ⟨fun h => hid (h.fresh.symm.trans hg.fresh), hg.not_ends, if_neg hid⟩)
  · rw [SessionStore.get?_remove]
    by_cases hid : id = s.id
    · subst hid
      exact .inr (.inl ⟨he, by simp [hs], if_pos rfl⟩)
    · exact .inr (.inr ⟨fun h => h.not_ends he, fun h => hid (h.unique he), if_neg hid⟩)

/-! ## Runs -/

/-- The exchanges can happen one after the other, with these sessions before and behind them. -/
inductive Run (c : Console) : SessionStore → List Exchange → SessionStore → Prop
  | nil {store : SessionStore} : Run c store [] store
  | cons {store store' store'' : SessionStore} {x : Exchange} {xs : List Exchange} :
      c.Step store x store' → Run c store' xs store'' → Run c store (x :: xs) store''

theorem run_singleton_iff : c.Run store [x] store' ↔ c.Step store x store' := by
  constructor
  · rintro (_ | ⟨step, rest⟩)
    cases rest
    exact step
  · exact fun step => .cons step .nil

/-- No id is granted twice. -/
def GrantsOnce (xs : List Exchange) : Prop := xs.Pairwise fun x y => ∀ id, x.Grants id → ¬ y.Grants id

theorem Run.keyed (keyed : store.Keyed) (run : c.Run store xs store') : store'.Keyed := by
  induction run with
  | nil => exact keyed
  | cons step _ ih => exact ih (step.keyed keyed)

/-- An id that is not granted has no session, and none of it is ended. -/
theorem Run.get?_eq_none (keyed : store.Keyed) (run : c.Run store xs store')
    (absent : store.get? id = none) (ungranted : ∀ x ∈ xs, ¬ x.Grants id) :
    store'.get? id = none ∧ ∀ x ∈ xs, ¬ x.Ends id := by
  induction run with
  | nil => exact ⟨absent, fun x hx => by cases hx⟩
  | cons step _ ih =>
    rcases step.get?_cases keyed id with ⟨hg, -⟩ | ⟨-, hs, -⟩ | ⟨-, he, hget⟩
    · exact absurd hg (ungranted _ (by simp))
    · simp [absent] at hs
    · obtain ⟨hnone, hends⟩ := ih (step.keyed keyed) (hget.trans absent) fun y hy => ungranted y (by simp [hy])
      exact ⟨hnone, List.forall_mem_cons.2 ⟨he, hends⟩⟩

/-- A session stays as it is until its id is ended. -/
theorem Run.get?_of_some (keyed : store.Keyed) (run : c.Run store xs store')
    (live : store.get? id = some s) (ungranted : ∀ x ∈ xs, ¬ x.Grants id) :
    ((∀ x ∈ xs, ¬ x.Ends id) ∧ store'.get? id = some s) ∨
      ((∃ x ∈ xs, x.Ends id) ∧ store'.get? id = none) := by
  induction run with
  | nil => exact .inl ⟨fun x hx => by (cases hx), live⟩
  | @cons store store₁ store' x xs step run ih =>
    have hrest : ∀ y ∈ xs, ¬ y.Grants id := fun y hy => ungranted y (by simp [hy])
    rcases step.get?_cases keyed id with ⟨hg, -⟩ | ⟨he, -, hnone⟩ | ⟨-, he, hget⟩
    · exact absurd hg (ungranted _ (by simp))
    · exact .inr ⟨⟨x, by simp, he⟩, (run.get?_eq_none (step.keyed keyed) hnone hrest).1⟩
    · rcases ih (step.keyed keyed) (hget.trans live) hrest with ⟨hends, hs⟩ | ⟨⟨y, hy, hends⟩, hnone⟩
      · exact .inl ⟨List.forall_mem_cons.2 ⟨he, hends⟩, hs⟩
      · exact .inr ⟨⟨y, by simp [hy], hends⟩, hnone⟩

/-- The ids that have a session are those that live. -/
theorem Run.live_iff (keyed : store.Keyed) (run : c.Run store xs store') (absent : store.get? id = none)
    (once : GrantsOnce xs) : (∃ s, store'.get? id = some s) ↔ LiveId xs id := by
  induction run with
  | nil => simp [absent, LiveId]
  | @cons store store₁ store' x xs step run ih =>
    obtain ⟨hfirst, honce⟩ := List.pairwise_cons.1 once
    rcases step.get?_cases keyed id with ⟨hg, s, hs⟩ | ⟨-, hs, -⟩ | ⟨hg, he, hget⟩
    · have hlive : LiveId (x :: xs) id ↔ ∀ y ∈ xs, ¬ y.Ends id := by
        simp only [LiveId, List.forall_mem_cons, hg.not_ends, not_false_eq_true, true_and]
        exact and_iff_right ⟨x, by simp, hg⟩
      rw [hlive]
      rcases run.get?_of_some (step.keyed keyed) hs fun y hy => hfirst y hy id hg with
        ⟨hends, hs'⟩ | ⟨⟨y, hy, hends⟩, hnone⟩
      · exact iff_of_true ⟨s, hs'⟩ hends
      · exact iff_of_false (by simp [hnone]) fun h => h y hy hends
    · simp [absent] at hs
    · rw [ih (step.keyed keyed) (hget.trans absent) honce]
      simp [LiveId, hg, he]

/-- Where no id is granted twice, an exchange adds one session, takes one away, or changes nothing. -/
theorem Run.step_cases (run : c.Run .empty xs store) (step : c.Step store x store')
    (once : GrantsOnce (xs ++ [x])) :
    (store' = store ∧ (∀ id, ¬ x.Grants id) ∧ ∀ id, ¬ x.Ends id) ∨
      (∃ s : Session, x.Grants s.id ∧ x.answer = .ok s.grant ∧ store.Gains s store') ∨
      ∃ s : Session, x.Ends s.id ∧ store.Loses s.id store' := by
  have keyed := run.keyed .empty
  rcases step.cases keyed with h | ⟨s, hg, hanswer, rfl⟩ | ⟨s, he, hs, rfl⟩
  · exact .inl h
  · -- An id that had a session would have been granted before.
    refine .inr (.inl ⟨s, hg, hanswer, SessionStore.gains_insert ?_⟩)
    obtain ⟨honce, -, hfresh⟩ := List.pairwise_append.1 once
    rw [Option.eq_none_iff_forall_ne_some]
    intro s' hs'
    obtain ⟨⟨y, hy, hgranted⟩, -⟩ := (run.live_iff .empty rfl honce).1 ⟨s', hs'⟩
    exact hfresh y hy x (by simp) s.id hgranted hg
  · exact .inr (.inr ⟨s, he, SessionStore.loses_remove keyed hs⟩)

/-- A logout that names a live session is answered 204. -/
theorem handle_logout (path : Target.ofPath? i.path = some (.guarded .logout)) (verb : i.verb = .post)
    (live : sessionOf store i = .ok s) : c.handle m store i = .done ⟨.done, .closes s.id⟩ := by
  have hs : c.serve m store i = c.serveGuarded s .logout i := by
    rw [Console.serve, path]
    simp only [live]
  have hread : Operation.read? .logout i = some (.ok .logout) := by
    simp only [Operation.read?, Resource.decoded?, Resource.mapTexts?, Operation.ofDecoded?, verb, Verb.served]
  rw [Console.handle, hs, Console.serveGuarded, hread, verb]
  rfl

/-- A request that names a live id is served to its session. -/
theorem Run.serve_live (run : c.Run .empty xs store) (once : GrantsOnce xs) {r : Resource}
    (path : Target.ofPath? i.path = some (.guarded r)) (names : Names i.authorization id)
    (live : LiveId xs id) :
    ∃ s, s.id = id ∧ store.get? id = some s ∧ c.serve m store i = c.serveGuarded s r i ∧
      (r = .logout → i.verb = .post → c.handle m store i = .done ⟨.done, .closes id⟩) := by
  obtain ⟨s, hs⟩ := (run.live_iff .empty rfl once).2 live
  have hlive := sessionOf_ok_iff.2 ⟨id, bearerSession_eq_ok_iff.2 names, hs⟩
  obtain rfl := (run.keyed .empty).get?_id hs
  refine ⟨s, rfl, hs, ?_, fun hr verb => handle_logout (hr ▸ path) verb hlive⟩
  rw [Console.serve, path]
  simp only [hlive]

/-- A request that names no live id is turned away. -/
theorem Run.turned_away (run : c.Run .empty xs store) (once : GrantsOnce xs) {r : Resource}
    (path : Target.ofPath? i.path = some (.guarded r))
    (unnamed : ∀ id, Names i.authorization id → ¬ LiveId xs id) :
    ∃ h, c.handle m store i = .done h ∧ h.answer.status = 401 ∧ h.change = .keep := by
  cases hlive : sessionOf store i with
  | ok s =>
    obtain ⟨id, hid, hs⟩ := sessionOf_ok_iff.1 hlive
    exact absurd ((run.live_iff .empty rfl once).1 ⟨s, hs⟩) (unnamed id (bearerSession_eq_ok_iff.1 hid))
  | error e =>
    obtain ⟨h, hh, hstatus, hchange⟩ := handle_without_session (c := c) (m := m) path hlive
    exact ⟨h, hh, hstatus.trans (sessionOf_error_status hlive), hchange⟩

/-- Behind a run, a session stays as it is until its id is ended; it is not granted again. -/
theorem Run.session_stays (run : c.Run .empty xs store) {ys : List Exchange} (later : c.Run store ys store')
    (once : GrantsOnce (xs ++ ys)) (hs : store.get? id = some s) :
    ((∀ y ∈ ys, ¬ y.Ends id) → store'.get? id = some s) ∧
      ((∃ y ∈ ys, y.Ends id) → store'.get? id = none) := by
  obtain ⟨honce, -, hfresh⟩ := List.pairwise_append.1 once
  obtain ⟨⟨x, hx, hgranted⟩, -⟩ := (run.live_iff .empty rfl honce).1 ⟨s, hs⟩
  rcases later.get?_of_some (run.keyed .empty) hs fun y hy => hfresh x hx y hy id hgranted with
    ⟨hends, hkept⟩ | ⟨⟨y, hy, hends⟩, hnone⟩
  · refine ⟨fun _ => hkept, ?_⟩
    rintro ⟨y, hy, h⟩
    exact absurd h (hends y hy)
  · exact ⟨fun h => absurd hends (h y hy), fun _ => hnone⟩

/-- **The life of a session.** After a run from no sessions in which no id is granted twice, a
guarded request is served to a session just when its header names an id that has been granted and
not been ended. A login that is answered 200 adds one session, and the token it returns names the id
of it; a logout that is answered 204 takes away the one that its header names, no other exchange
changes the sessions, and a session stays as it is until its id is ended. -/
theorem sessions_live_until_logout (run : c.Run .empty xs store) (once : GrantsOnce xs) :
    (∀ m i r, Target.ofPath? i.path = some (.guarded r) →
      (∀ id, Names i.authorization id → LiveId xs id →
        ∃ s, s.id = id ∧ store.get? id = some s ∧ c.serve m store i = c.serveGuarded s r i ∧
          (r = .logout → i.verb = .post → c.handle m store i = .done ⟨.done, .closes id⟩)) ∧
      ((∀ id, Names i.authorization id → ¬ LiveId xs id) →
        ∃ h, c.handle m store i = .done h ∧ h.answer.status = 401 ∧ h.change = .keep)) ∧
    (∀ x store', c.Step store x store' → GrantsOnce (xs ++ [x]) →
      ((∀ id, ¬ x.Grants id) → (∀ id, ¬ x.Ends id) → store' = store) ∧
      (∀ id, x.Grants id → ∃ s, s.id = id ∧ x.answer = .ok s.grant ∧ store.Gains s store' ∧
        ∃ token, s.grant.get? "token" = some (.str token) ∧
          (id.number < 2 ^ 128 → Names (some (Text.utf8 ("Bearer " ++ token))) id)) ∧
      ∀ id, x.Ends id → store.Loses id store') ∧
    ∀ ys store', c.Run store ys store' → GrantsOnce (xs ++ ys) → ∀ id s, store.get? id = some s →
      ((∀ y ∈ ys, ¬ y.Ends id) → store'.get? id = some s) ∧
      ((∃ y ∈ ys, y.Ends id) → store'.get? id = none) := by
  refine ⟨fun m i r path => ⟨fun id names live => run.serve_live once path names live,
    fun unnamed => run.turned_away once path unnamed⟩, fun x store' step honce => ?_,
    fun ys store' later honce id s hs => run.session_stays later honce hs⟩
  rcases run.step_cases step honce with ⟨hkeep, hg, he⟩ | ⟨s, hg, hanswer, hgains⟩ | ⟨s, he, hloses⟩
  · exact ⟨fun _ _ => hkeep, fun id h => absurd h (hg id), fun id h => absurd h (he id)⟩
  · refine ⟨fun h => absurd hg (h _), fun id h => ?_, fun id h => absurd h hg.not_ends⟩
    obtain rfl : s.id = id := hg.fresh.symm.trans h.fresh
    exact ⟨s, rfl, hanswer, hgains, s.id.write, rfl, names_write⟩
  · refine ⟨fun _ h => absurd he (h _), fun id h => absurd he h.not_ends, fun id h => ?_⟩
    rwa [he.unique h] at hloses

end Console
namespace Sample

/-- The user has signed in, and has done nothing else. -/
def signedIn : Exchange :=
  ⟨moment, signIn, ((console.handle moment .empty signIn).result (fun _ c => .ok (reply c)) []).answer⟩

/-- The user signs out, with the id spelled without hyphens. -/
def signOut : Incoming :=
  ⟨.post, "/logout", some (Text.utf8 "Bearer 00000000000000000000000000000007 "), none, ""⟩

def signedOut : Exchange := ⟨moment, signOut, .done⟩

theorem signedIn_run : console.Run .empty [signedIn] store :=
  Console.run_singleton_iff.2 (console.step_result moment .empty signIn fun _ c => .ok (reply c))

theorem signedIn_grants : signedIn.Grants moment.freshId :=
  ⟨by decide +kernel, by decide +kernel, rfl⟩

theorem signOut_names : Names signOut.authorization moment.freshId :=
  bearerSession_eq_ok_iff.1 (by decide)

theorem signedOut_ends : signedOut.Ends moment.freshId :=
  ⟨by decide, rfl, signOut_names⟩

/-- Once signed in, the user has a session and can sign out with another spelling of its id; then
the session is gone. -/
theorem session_lives_until_signOut :
    console.Run .empty [signedIn] store ∧ Console.GrantsOnce [signedIn, signedOut] ∧
    console.handle moment store signOut = .done ⟨.done, .closes moment.freshId⟩ ∧
    ∀ store', console.Run store [signedOut] store' →
      store.Loses moment.freshId store' ∧ store'.get? moment.freshId = none := by
  have once : Console.GrantsOnce [signedIn] := List.pairwise_singleton _ _
  have once' : Console.GrantsOnce [signedIn, signedOut] :=
    List.pairwise_pair.2 fun _ _ h => h.not_ends signedOut_ends
  have live : LiveId [signedIn] moment.freshId :=
    ⟨⟨_, by simp, signedIn_grants⟩, fun x hx => by
      obtain rfl := List.mem_singleton.1 hx
      exact signedIn_grants.not_ends⟩
  obtain ⟨guarded, change, stays⟩ := Console.sessions_live_until_logout signedIn_run once
  obtain ⟨s, -, hs, -, out⟩ := (guarded moment signOut _ signedOut_ends.path).1 _ signOut_names live
  refine ⟨signedIn_run, once', out rfl rfl, fun store' later => ⟨?_, ?_⟩⟩
  · exact (change signedOut _ (Console.run_singleton_iff.1 later) once').2.2 _ signedOut_ends
  · exact (stays [signedOut] _ later once' _ s hs).2 ⟨signedOut, by simp, signedOut_ends⟩

end Sample
end SignatureDesk
