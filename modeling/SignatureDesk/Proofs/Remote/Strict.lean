/-
Work that ends with the first call that goes wrong. What a call may come back
with is given by `accepts`; a call goes wrong when it comes back with anything
else. `Strict` says that nothing is called after a call that went wrong, and
that the work then fails with what is told of it. It is put together as work is.
-/
import SignatureDesk.Proofs.Remote.Call

namespace SignatureDesk

open Dialogue

/-- The failure is what is told of what a call came back with. -/
def Failure.TellsOf (f : Failure) : Except Failure Reply → Prop
  | .ok reply => f.status = toldStatus reply.status
  | .error e => f = e

/-- The replies are accepted that are a success with a body of the shape. -/
def AcceptsShape {α : Type} (accepts : Call → Reply → Prop) (c : Call) (codec : Codec α) : Prop :=
  ∀ reply, accepts c reply ↔ reply.isSuccess = true ∧ reply.Holds codec

/-- A call that came back with something acceptable. -/
def Met (accepts : Call → Reply → Prop) (x : (_ : Call) × Except Failure Reply) : Prop :=
  ∃ reply, x.2 = .ok reply ∧ accepts x.1 reply

variable {α β : Type} {accepts : Call → Reply → Prop} {c : Call} {context : String} {x : Remote α}

/-- Nothing is called after a call that went wrong, and the work fails with what is told of that. -/
def Strict (accepts : Call → Reply → Prop) (x : Remote α) : Prop :=
  ∀ u r, x.run.Transcript u r → (∀ y ∈ u, Met accepts y) ∨
    ∃ before y f, u = before ++ [y] ∧ (∀ z ∈ before, Met accepts z) ∧ ¬ Met accepts y ∧
      r = .error f ∧ f.TellsOf y.2

namespace Strict

/-! ## Work without calls -/

theorem pure {a : α} : Strict accepts (Pure.pure a) := by
  intro u r run
  obtain ⟨rfl, -⟩ := transcript_attempt_pure_iff.1 run
  exact .inl (by simp)

theorem throw {f : Failure} : Strict accepts (MonadExcept.throw f : Remote α) := by
  intro u r run
  obtain ⟨rfl, -⟩ := transcript_attempt_throw_iff.1 run
  exact .inl (by simp)

/-! ## One call -/

/-- Work of one call, whose failures tell of what it came back with. -/
theorem single {g : Except Failure Reply → Except Failure α}
    (calls : ∀ u r, x.run.Transcript u r → ∃ a, u = [⟨c, a⟩] ∧ r = g a)
    (lost : ∀ e, g (.error e) = .error e)
    (ok : ∀ reply a, g (.ok reply) = .ok a → accepts c reply)
    (wrong : ∀ reply f, g (.ok reply) = .error f → ¬ accepts c reply ∧ f.status = toldStatus reply.status) :
    Strict accepts x := by
  intro u r run
  obtain ⟨a, rfl, rfl⟩ := calls u r run
  cases a with
  | error e =>
    refine .inr ⟨[], ⟨c, .error e⟩, e, rfl, by simp, ?_, lost e, rfl⟩
    rintro ⟨_, h, -⟩
    cases h
  | ok reply =>
    cases hg : g (.ok reply) with
    | ok a => exact .inl (by simpa [Met] using ok reply a hg)
    | error f =>
      obtain ⟨hwrong, hstatus⟩ := wrong reply f hg
      refine .inr ⟨[], ⟨c, .ok reply⟩, f, rfl, by simp, ?_, rfl, hstatus⟩
      rintro ⟨_, h, haccepts⟩
      cases h
      exact hwrong haccepts

/-- A call whose reply is looked at by a rule of its own. -/
theorem call {g : Reply → Except Failure α} (ok : ∀ reply a, g reply = .ok a → accepts c reply)
    (wrong : ∀ reply f, g reply = .error f → ¬ accepts c reply ∧ f.status = toldStatus reply.status) :
    Strict accepts (do let reply ← Remote.call c; Remote.ofExcept (g reply)) := by
  refine single (g := (· >>= g)) (fun u r run => ?_) (fun _ => rfl) ok wrong
  obtain ⟨a, h, rfl⟩ := transcript_attempt_settled_iff.1 run
  exact ⟨a, transcript_question_iff.1 h, rfl⟩

theorem succeed (h : ∀ reply, accepts c reply ↔ reply.isSuccess = true) :
    Strict accepts (Remote.succeed c context) := by
  refine call (fun reply _ hr => (h reply).2 (Reply.checked_ok_iff.1 hr).1) fun reply f hr => ?_
  obtain ⟨hfails, rfl⟩ := Reply.checked_error_iff.1 hr
  exact ⟨by simp [h, hfails], Failure.ofStatus_status _ _ _⟩

/-- What is wrong with a reply that has to be a success with a body of some shape. -/
theorem read_wrong {codec : Codec α} {reply : Reply} {f : Failure}
    (h : (reply.checked context >>= (·.read codec)) = .error f) :
    ¬ (reply.isSuccess = true ∧ reply.Holds codec) ∧ f.status = toldStatus reply.status := by
  rcases except_bind_error_iff.1 h with h | ⟨_, h, hread⟩
  · obtain ⟨hfails, rfl⟩ := Reply.checked_error_iff.1 h
    exact ⟨by simp [hfails], Failure.ofStatus_status _ _ _⟩
  · obtain ⟨hsuccess, rfl⟩ := Reply.checked_ok_iff.1 h
    obtain ⟨rfl, hshape⟩ := Reply.read_error hread
    exact ⟨fun hr => hshape hr.2, (toldStatus_of_isSuccess hsuccess).symm⟩

theorem read_ok {codec : Codec α} {reply : Reply} {a : α}
    (h : (reply.checked context >>= (·.read codec)) = .ok a) :
    reply.isSuccess = true ∧ reply.Holds codec := by
  obtain ⟨_, hchecked, hread⟩ := except_bind_ok_iff.1 h
  obtain ⟨hsuccess, rfl⟩ := Reply.checked_ok_iff.1 hchecked
  exact ⟨hsuccess, a, hread⟩

theorem fetch {codec : Codec α} (h : AcceptsShape accepts c codec) : Strict accepts (Remote.fetch c context codec) := by
  refine single (g := fun a => (a >>= (·.checked context)) >>= (·.read codec))
    (fun u r run => Remote.fetch_transcript_iff.1 run) (fun _ => rfl)
    (fun reply _ hr => (h reply).2 (read_ok hr)) fun reply f hr => ?_
  rw [h]
  exact read_wrong hr

/-! ## More than one call -/

theorem bind {f : α → Remote β} (hx : Strict accepts x) (hf : ∀ a, Strict accepts (f a)) :
    Strict accepts (x >>= f) := by
  intro u r run
  rcases transcript_attempt_bind_iff.1 run with ⟨e, rfl, h⟩ | ⟨u₁, u₂, a, rfl, h, hnext⟩
  · rcases hx u _ h with hmet | ⟨before, y, f, hu, hmet, hwrong, he, htells⟩
    · exact .inl hmet
    · cases he
      exact .inr ⟨before, y, e, hu, hmet, hwrong, rfl, htells⟩
  · rcases hx u₁ _ h with hmet | ⟨_, _, _, -, -, -, he, -⟩
    · rcases hf a u₂ r hnext with hrest | ⟨before, y, f, rfl, hrest, hwrong, hr, htells⟩
      · exact .inl fun y hy => (List.mem_append.1 hy).elim (hmet y) (hrest y)
      · refine .inr ⟨u₁ ++ before, y, f, by simp, fun z hz => ?_, hwrong, hr, htells⟩
        exact (List.mem_append.1 hz).elim (hmet z) (hrest z)
    · cases he

/-- A call that has to succeed, of whose reply nothing is kept. -/
theorem succeed_unit (h : ∀ reply, accepts c reply ↔ reply.isSuccess = true) :
    Strict accepts (do let _ ← Remote.succeed c context : Remote Unit) :=
  (succeed h).bind fun _ => .pure

theorem found {y : Except Failure α} {f : α → Remote β} (hf : ∀ a, y = .ok a → Strict accepts (f a)) :
    Strict accepts (Remote.ofExcept y >>= f) := by
  cases y with
  | error e => exact throw
  | ok a => exact hf a rfl

end Strict

end SignatureDesk
