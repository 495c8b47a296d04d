/-
Single calls and searches at the agreement service. A call that has to succeed
is the only one its part of the work makes; and if no call failed by fault of the
caller, the work does not either, whatever the service replied.
-/
import SignatureDesk.Reconcile.Lookup
import SignatureDesk.Proofs.Dialogue.Transcript
import SignatureDesk.Proofs.Outcome
import SignatureDesk.Proofs.Remote.Wire

namespace SignatureDesk

open Dialogue

/-- The status that a service's status is told as, when it is no success. -/
def toldStatus (n : Nat) : Nat := if n ∈ [401, 403, 404, 409] then n else 502

/-- What a service answers is never told as a fault of the caller. -/
theorem toldStatus_ne (n : Nat) : toldStatus n ≠ 400 := by
  unfold toldStatus
  split
  next h =>
    rintro rfl
    revert h
    decide
  next => decide

theorem toldStatus_of_isSuccess {reply : Reply} (h : reply.isSuccess = true) :
    toldStatus reply.status = 502 := by
  simp only [Reply.isSuccess, Bool.and_eq_true, decide_eq_true_eq] at h
  refine if_neg ?_
  simp only [List.mem_cons, List.not_mem_nil, or_false]
  omega

theorem Failure.ofStatus_status (n : Nat) (context body : String) :
    (ofStatus n context body).status = toldStatus n := by
  unfold ofStatus
  generalize (if body.isEmpty then _ else _) = message
  simp only
  split
  · rfl
  · rfl
  · rfl
  · rfl
  next h404 h409 h401 h403 =>
    have hn : n ∉ [401, 403, 404, 409] := by
      simp only [List.mem_cons, List.not_mem_nil, or_false]
      rintro (h | h | h | h)
      · exact h401 h
      · exact h403 h
      · exact h404 h
      · exact h409 h
    exact (if_neg hn).symm

namespace Reply

variable {α : Type} {r r' : Reply} {context : String} {codec : Codec α} {f : Failure}

/-- The body can be read. -/
def Holds (r : Reply) (codec : Codec α) : Prop := ∃ a, r.read codec = .ok a

theorem checked_ok_iff : r.checked context = .ok r' ↔ r.isSuccess = true ∧ r' = r := by
  rw [checked]
  cases r.isSuccess <;> simp [eq_comm]

theorem checked_error_iff :
    r.checked context = .error f ↔ r.isSuccess = false ∧ f = .ofStatus r.status context r.body := by
  rw [checked]
  cases r.isSuccess <;> simp [eq_comm]

theorem read_error (h : r.read codec = .error f) : f = .unexpectedShape ∧ ¬ r.Holds codec := by
  refine ⟨?_, fun ⟨a, ha⟩ => by rw [h] at ha; cases ha⟩
  obtain ⟨-, -, rfl⟩ := except_mapError_error_iff.1 h
  rfl

theorem decode_of_read {a : α} (h : r.read codec = .ok a) : ∃ v, codec.decode v = .ok a := by
  obtain ⟨b, hdecode, hend⟩ := except_bind_ok_iff.1 (except_mapError_ok_iff.1 h)
  split at hend
  · cases hend
    exact ⟨_, hdecode⟩
  · cases hend

end Reply

/-- Calls with what they came back with. -/
abbrev Calls := List ((_ : Call) × Except Failure Reply)

/-- A call came back with a success that holds a value. -/
def Yields {α : Type} (codec : Codec α) (x : Except Failure Reply) (a : α) : Prop :=
  ∃ reply, x = .ok reply ∧ reply.isSuccess = true ∧ reply.read codec = .ok a

/-! ## Calls that have to succeed -/

namespace Remote

variable {α β : Type} {c : Call} {codec : Codec α} {context : String} {x : Except Failure Reply}

/-- What a call that has to succeed comes to. -/
def fetched (codec : Codec α) (context : String) (x : Except Failure Reply) : Except Failure α :=
  (x >>= (·.checked context)) >>= (·.read codec)

theorem ofExcept_ok_bind {a : α} {f : α → Remote β} : (Remote.ofExcept (.ok a) >>= f) = f a := rfl

theorem run_bind_ofExcept {y : Remote α} {f : α → Except Failure β} :
    (y >>= fun a => Remote.ofExcept (f a)).run = y.run.bind fun r => .done (r >>= f) := by
  refine congrArg (Dialogue.bind y.run) (funext fun r => ?_)
  cases r <;> rfl

theorem fetch_run : (fetch c context codec).run = .ask c fun x => .done (fetched codec context x) := by
  rw [fetch, run_bind_ofExcept, succeed, run_bind_ofExcept]
  rfl

theorem fetch_bind_run {f : α → Remote β} :
    (fetch c context codec >>= f).run = .ask c fun x => (Remote.ofExcept (fetched codec context x) >>= f).run := by
  rw [ExceptT.run_bind, fetch_run]
  rfl

theorem fetched_ok_iff (context : String) {a : α} : fetched codec context x = .ok a ↔ Yields codec x a := by
  simp only [fetched, except_bind_ok_iff, Reply.checked_ok_iff]
  constructor
  · rintro ⟨_, ⟨reply, hx, hs, rfl⟩, hr⟩
    exact ⟨_, hx, hs, hr⟩
  · rintro ⟨reply, hx, hs, hr⟩
    exact ⟨reply, ⟨reply, hx, hs, rfl⟩, hr⟩

/-- What a call fails by that has to succeed and yields nothing. -/
def missed (context : String) : Except Failure Reply → Failure
  | .error f => f
  | .ok reply => if reply.isSuccess then .unexpectedShape else .ofStatus reply.status context reply.body

theorem fetched_of_missed (h : ∀ a, ¬ Yields codec x a) : fetched codec context x = .error (missed context x) := by
  cases hx : fetched codec context x with
  | ok a => exact absurd ((fetched_ok_iff context).1 hx) (h a)
  | error f =>
    rcases except_bind_error_iff.1 hx with hchecked | ⟨reply, hchecked, hread⟩
    · rcases except_bind_error_iff.1 hchecked with rfl | ⟨reply, rfl, hchecked⟩
      · rfl
      · obtain ⟨hrefused, rfl⟩ := Reply.checked_error_iff.1 hchecked
        simp [missed, hrefused]
    · obtain ⟨reply', rfl, hchecked⟩ := except_bind_ok_iff.1 hchecked
      obtain ⟨hsuccess, rfl⟩ := Reply.checked_ok_iff.1 hchecked
      simp [missed, hsuccess, (Reply.read_error hread).1]

end Remote

/-- No call failed by fault of the caller. -/
def Blameless (u : Calls) : Prop :=
  ∀ x ∈ u, ∀ e, x.2 = .error e → e.status ≠ 400

theorem blameless_append_iff {u v} : Blameless (u ++ v) ↔ Blameless u ∧ Blameless v := by
  simp only [Blameless, List.mem_append, or_imp, forall_and]

theorem tells_carry_blameless {l : Link} {t u} (h : Tells l.carry t u) : Blameless u := by
  rintro ⟨c, _⟩ hx e rfl
  rcases tells_carry_error h hx with rfl | ⟨⟨_, rfl⟩, -⟩ <;> simp [Failure.transport, Failure.status]

namespace Remote

variable {α : Type} {c : Call} {context : String} {codec : Codec α} {u}

theorem succeed_transcript_iff {r : Except Failure Reply} :
    (succeed c context).run.Transcript u r ↔ ∃ a, u = [⟨c, a⟩] ∧ r = a >>= (·.checked context) := by
  refine transcript_attempt_settled_iff.trans (exists_congr fun a => and_congr_left fun _ => ?_)
  exact transcript_question_iff

theorem fetch_transcript_iff {r : Except Failure α} :
    (fetch c context codec).run.Transcript u r ↔
      ∃ a, u = [⟨c, a⟩] ∧ r = (a >>= (·.checked context)) >>= (·.read codec) := by
  refine transcript_attempt_settled_iff.trans ?_
  constructor
  · rintro ⟨y, h, rfl⟩
    obtain ⟨a, rfl, rfl⟩ := succeed_transcript_iff.1 h
    exact ⟨a, rfl, rfl⟩
  · rintro ⟨a, rfl, rfl⟩
    exact ⟨_, succeed_transcript_iff.2 ⟨a, rfl, rfl⟩, rfl⟩

/-- A call that has to succeed, of whose reply nothing is kept. -/
theorem succeed_unit_transcript_iff {r : Except Failure Unit} :
    (do let _ ← succeed c context : Remote Unit).run.Transcript u r ↔
      ∃ a, u = [⟨c, a⟩] ∧ r = (a >>= (·.checked context)).map fun _ => () := by
  refine transcript_attempt_settled_iff.trans ?_
  constructor
  · rintro ⟨y, h, rfl⟩
    obtain ⟨a, rfl, rfl⟩ := succeed_transcript_iff.1 h
    exact ⟨a, rfl, by cases a >>= (·.checked context) <;> rfl⟩
  · rintro ⟨a, rfl, rfl⟩
    exact ⟨_, succeed_transcript_iff.2 ⟨a, rfl, rfl⟩, by cases a >>= (·.checked context) <;> rfl⟩

/-- A call that succeeds was replied to. -/
theorem fetch_ok {a : α} (h : (fetch c context codec).run.Transcript u (.ok a)) :
    ∃ reply, u = [⟨c, .ok reply⟩] := by
  obtain ⟨r, rfl, hr⟩ := fetch_transcript_iff.1 h
  cases r with
  | error e => cases hr
  | ok reply => exact ⟨reply, rfl⟩

theorem fetch_error_status {e : Failure} (h : (fetch c context codec).run.Transcript u (.error e))
    (fair : Blameless u) : e.status ≠ 400 := by
  obtain ⟨r, rfl, hr⟩ := fetch_transcript_iff.1 h
  rcases except_bind_error_iff.1 hr.symm with hr | ⟨reply, -, hr⟩
  · rcases except_bind_error_iff.1 hr with hr | ⟨reply, -, hr⟩
    · exact fair ⟨c, r⟩ (by simp) e hr
    · obtain ⟨-, rfl⟩ := Reply.checked_error_iff.1 hr
      exact Failure.ofStatus_status _ _ _ ▸ toldStatus_ne _
  · obtain ⟨rfl, -⟩ := Reply.read_error hr
    simp [Failure.unexpectedShape, Failure.status]

end Remote

/-! ## What is called -/

namespace Remote

variable {α : Type} {c : Call} {context : String} {codec : Codec α} {p : Call → Prop}

theorem asks_call (h : p c) : Asks p (Remote.call c).run := .question h

theorem asks_succeed (h : p c) : Asks p (succeed c context).run :=
  (asks_call h).attempt_bind fun _ => .attempt_ofExcept

theorem asks_fetch (h : p c) : Asks p (fetch c context codec).run :=
  (asks_succeed h).attempt_bind fun _ => .attempt_ofExcept

theorem asks_orNotFound {r : Remote α} (h : Asks p r.run) : Asks p (orNotFound r).run := by
  refine h.bind fun x => ?_
  split <;> exact .done

end Remote

/-! ## Searches -/

namespace Search

variable {α β : Type} {creds : Credentials}

theorem remote_need (q : Lookup) : remote creds (need q) = q.ask creds :=
  bind_pure (q.ask creds).run

theorem remote_bind (x : ExceptT Failure Search α) (f : α → ExceptT Failure Search β) :
    remote creds (x >>= f) = remote creds x >>= fun a => remote creds (f a) := by
  refine (interpret_bind _ x.run _).trans ?_
  refine congrArg (Dialogue.bind _) (funext fun r => ?_)
  cases r <;> rfl

end Search
end SignatureDesk
