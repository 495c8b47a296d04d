/-
What a dialogue may ask. `Asks p` says that every question it can come to has
the property, whatever the ones before were answered. It is put together as
dialogues are, and every transcript has it (`Asks.of_transcript`).
-/
import SignatureDesk.Proofs.Dialogue.Transcript

namespace SignatureDesk.Dialogue

variable {Q : Type} {A : Q → Type} {P : Type} {B : P → Type} {E α β : Type}
  {p r : Q → Prop} {p' : P → Prop}

/-- Every question that the dialogue can come to has the property. -/
inductive Asks (p : Q → Prop) : Dialogue Q A α → Prop
  | done {a} : Asks p (.done a)
  | ask {q next} : p q → (∀ r, Asks p (next r)) → Asks p (.ask q next)

theorem Asks.of_transcript {d : Dialogue Q A α} (h : Asks p d) {t a} (run : d.Transcript t a) :
    ∀ x ∈ t, p x.1 := by
  induction run with
  | done => exact fun x hx => by cases hx
  | ask _ ih =>
    cases h with
    | ask hq hnext =>
      intro x hx
      rcases List.mem_cons.1 hx with rfl | hx
      · exact hq
      · exact ih (hnext _) x hx

theorem Asks.mono {d : Dialogue Q A α} (h : Asks p d) (himp : ∀ q, p q → r q) : Asks r d := by
  induction h with
  | done => exact .done
  | ask hq _ ih => exact .ask (himp _ hq) ih

theorem Asks.trivial (d : Dialogue Q A α) : Asks (fun _ => True) d := by
  induction d with
  | done => exact .done
  | ask q next ih => exact .ask True.intro ih

theorem Asks.question {q : Q} (h : p q) : Asks p (Dialogue.question (A := A) q) :=
  .ask h fun _ => .done

theorem Asks.bind {d : Dialogue Q A α} {f : α → Dialogue Q A β} (h : Asks p d)
    (hf : ∀ a, Asks p (f a)) : Asks p (d.bind f) := by
  induction h with
  | done => exact hf _
  | ask hq _ ih => exact .ask hq ih

/-- A dialogue told in terms of another asks what answers its questions. -/
theorem Asks.interpret {answer : (q : Q) → Dialogue P B (A q)} {d : Dialogue Q A α} (h : Asks p d)
    (hanswer : ∀ q, p q → Asks p' (answer q)) : Asks p' (d.interpret answer) := by
  induction h with
  | done => exact .done
  | ask hq _ ih => exact (hanswer _ hq).bind ih

/-! ## Attempts -/

theorem Asks.attempt_bind {x : Attempt Q A E α} {f : α → Attempt Q A E β} (h : Asks p x.run)
    (hf : ∀ a, Asks p (f a).run) : Asks p (x >>= f).run := by
  refine Asks.bind h fun y => ?_
  cases y with
  | error e => exact .done
  | ok a => exact hf a

theorem Asks.attempt_pure {a : α} : Asks p (pure a : Attempt Q A E α).run := .done

theorem Asks.attempt_throw {e : E} : Asks p (throw e : Attempt Q A E α).run := .done

theorem Asks.attempt_ofExcept {x : Except E α} : Asks p (Attempt.ofExcept x : Attempt Q A E α).run := .done

theorem Asks.attempt_found {x : Except E α} {f : α → Attempt Q A E β}
    (hf : ∀ a, x = .ok a → Asks p (f a).run) : Asks p ((Attempt.ofExcept x : Attempt Q A E α) >>= f).run := by
  cases x with
  | error e => exact .done
  | ok a => exact hf a rfl

end SignatureDesk.Dialogue
