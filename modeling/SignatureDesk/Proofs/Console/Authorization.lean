/-
Who may have what done. `Resource.openTo` is the table of the guarded resources:
the sessions that each verb of each of them is open to. The main statement says
that a request makes calls for such a session only, which its authorization
header names and which is live, and that a request without one is turned away
before anything happens.
-/
import SignatureDesk.Proofs.Console.Sample

namespace SignatureDesk

open Dialogue

/-- The sessions that a verb of a resource with decoded texts is open to. Verbs
that the resource does not know are open to none. -/
def Resource.openTo (r : Resource) (v : Verb) (s : Session) : Prop :=
  match v, r with
  | .get, .currentUser | .get, .users | .get, .roles | .get, .user _
  | .get, .managedProjects | .get, .projects | .get, .project _ | .get, .projectMembers _ =>
    s.has .admin = true ∨ s.has .projectManager = true
  | .post, .users | .delete, .user _ | .post, .userRoles _ | .delete, .userRole _ _ =>
    s.has .admin = true
  | .put, .user u =>
    s.has .admin = true ∨ (s.has .projectManager = true ∧ (s.userId = some u ∨ s.lfId = u))
  | .get, .projectSignatures _ | .post, .companies | .post, .inviteRequests _
  | .get, .companyProject _ _ | .post, .allowList _ _ _ | .delete, .allowList _ _ _
  | .post, .managers _ _ | .delete, .manager _ _ _ | .post, .logout => True
  | _, _ => False

theorem Guard.check_ok_iff {g : Guard} {s : Session} :
    g.check s = .ok () ↔ ∃ c ∈ g.anyOf, s.has c = true := by
  rw [Guard.check, Guard.allows]
  split
  next h => simpa using h
  next h => simpa using h

theorem Guard.admin_check_ok_iff {s : Session} :
    Guard.admin.check s = .ok () ↔ s.has .admin = true := by
  simp [Guard.check_ok_iff, Guard.admin]

theorem Guard.adminOrProjectManager_check_ok_iff {s : Session} :
    Guard.adminOrProjectManager.check s = .ok () ↔
      s.has .admin = true ∨ s.has .projectManager = true := by
  simp [Guard.check_ok_iff, Guard.adminOrProjectManager]

theorem Session.canEdit_iff {s : Session} {u : String} :
    s.canEdit u = true ↔
      s.has .admin = true ∨ (s.has .projectManager = true ∧ (s.userId = some u ∨ s.lfId = u)) := by
  simp [Session.canEdit, Session.isSelf]

namespace Operation

theorem permit_updateUser_ok_iff {s : Session} {u : String} {update : UserUpdate} :
    permit s (.updateUser u update) = .ok () ↔ s.canEdit u = true := by
  rw [permit]
  split <;> simp_all

/-- An operation is permitted only to a session that it is open to where it is
asked for. -/
theorem openTo_of_permit {o : Operation} {s : Session} (h : o.permit s = .ok ()) :
    o.asked.2.openTo o.asked.1 s := by
  cases o with
  | currentUser | users | roles | user | managedProjects | projects | project | projectMembers =>
    exact Guard.adminOrProjectManager_check_ok_iff.1 h
  | createUser | removeUser | addRole | removeRole => exact Guard.admin_check_ok_iff.1 h
  | updateUser => exact Session.canEdit_iff.1 (permit_updateUser_ok_iff.1 h)
  | editAllowList edit => cases edit <;> trivial
  | _ => trivial

end Operation

namespace Console

variable {c : Console} {m : Moment} {store : SessionStore} {i : Incoming} {r : Resource}

/-- A guarded request that makes a call makes it for a live session that the
resource is open to. -/
theorem openTo_of_call {t h} (path : Target.ofPath? i.path = some (.guarded r))
    (run : (c.handle m store i).Transcript t h) (calls : t ≠ []) :
    ∃ s d, sessionOf store i = .ok s ∧ r.decoded? = some d ∧ d.openTo i.verb.served s := by
  rcases handle_guarded_cases path run with ⟨_, -, ht, -⟩ | ⟨s, h', live, served, -⟩
  · exact absurd ht calls
  rcases serveGuarded_cases served with ⟨-, ht, -⟩ | ⟨o, x, read, performed, -⟩
  · exact absurd ht calls
  rcases Operation.perform_cases performed with ⟨_, -, ht, -⟩ | ⟨permitted, -⟩
  · exact absurd ht calls
  obtain ⟨d, hd, hasked⟩ := Operation.asked_of_read? read
  have hopen := Operation.openTo_of_permit permitted
  rw [hasked] at hopen
  exact ⟨s, d, live, hd, hopen⟩

theorem handle_without_session {e : Failure} (path : Target.ofPath? i.path = some (.guarded r))
    (h : sessionOf store i = .error e) :
    ∃ x, c.handle m store i = .done x ∧ x.answer.status = e.status ∧ x.change = .keep := by
  have hs : c.serve m store i = .done (.only (.ofFailure e)) := by
    rw [Console.serve, path]
    simp only [h]
    rfl
  rw [Console.handle, hs]
  refine ⟨_, rfl, ?_, ?_⟩ <;> split <;> rfl

/-- **The gate of the guarded resources.** Among the sessions there can be, every
one is authenticated; a request makes calls only for one of them, which its
header names and which its resource is open to; and a request that names none is
answered 401 without a call and without a change. -/
theorem guarded_request_authorised (c : Console) {store : SessionStore} (reach : c.Reachable store)
    (m : Moment) (i : Incoming) {r : Resource} (path : Target.ofPath? i.path = some (.guarded r)) :
    (∀ id s, store.get? id = some s → s.has .authenticated = true) ∧
    (∀ t h, (c.handle m store i).Transcript t h → t ≠ [] →
      ∃ id s d, bearerSession i.authorization = .ok id ∧ store.get? id = some s ∧
        r.decoded? = some d ∧ d.openTo i.verb.served s) ∧
    ((∀ id s, bearerSession i.authorization = .ok id → store.get? id ≠ some s) →
      ∃ h, c.handle m store i = .done h ∧ h.answer.status = 401 ∧ store.apply h.change = store) := by
  refine ⟨fun id s live => reach.authenticated live, fun t h run calls => ?_, fun none => ?_⟩
  · obtain ⟨s, d, live, hd, hopen⟩ := openTo_of_call path run calls
    obtain ⟨id, hid, hs⟩ := sessionOf_ok_iff.1 live
    exact ⟨id, s, d, hid, hs, hd, hopen⟩
  · cases hs : sessionOf store i with
    | ok s =>
      obtain ⟨id, hid, hs⟩ := sessionOf_ok_iff.1 hs
      exact absurd hs (none id s hid)
    | error e =>
      obtain ⟨h, hh, hstatus, hchange⟩ := handle_without_session (c := c) (m := m) path hs
      exact ⟨h, hh, hstatus.trans (sessionOf_error_status hs), by rw [hchange]; rfl⟩

end Console

/-- An administrator lists the users: a call is made, and nobody else could have had it made. -/
theorem Sample.listUsers_authorised :
    Target.ofPath? (request .get "/users" "").path = some (.guarded .users) ∧
    ((console.handle moment store (request .get "/users" "")).questions
      (fun _ c => .ok (reply c)) []).length = 1 ∧
    ∀ t h, (console.handle moment store (request .get "/users" "")).Transcript t h → t ≠ [] →
      ∃ id s d, bearerSession (request .get "/users" "").authorization = .ok id ∧
        store.get? id = some s ∧ Resource.users.decoded? = some d ∧ d.openTo .get s :=
  have path : Target.ofPath? (request .get "/users" "").path = some (.guarded .users) := by
    decide +kernel
  ⟨path, by decide +kernel,
    (Console.guarded_request_authorised console store_reachable moment _ path).2.1⟩

end SignatureDesk
