/-
Computations that ask questions. A dialogue is either finished or asks one
question and goes on with its answer; who answers, and how, is left open, so a
statement about a dialogue is one about every way the world may behave.

One dialogue can be told in terms of another: `interpret` answers each question
of the first by a dialogue of the second. `run` answers them all.
-/
namespace SignatureDesk

inductive Dialogue (Q : Type) (A : Q → Type) (α : Type) where
  | done (a : α)
  | ask (q : Q) (next : A q → Dialogue Q A α)

namespace Dialogue

variable {Q : Type} {A : Q → Type} {P : Type} {B : P → Type} {α β : Type}

def bind : Dialogue Q A α → (α → Dialogue Q A β) → Dialogue Q A β
  | done a, f => f a
  | ask q next, f => ask q fun a => (next a).bind f

instance : Monad (Dialogue Q A) where
  pure := done
  bind := bind

/-- Asks one question for its answer. -/
def question (q : Q) : Dialogue Q A (A q) := ask q done

/-- Answers the questions of a dialogue by those of another. -/
def interpret (answer : (q : Q) → Dialogue P B (A q)) : Dialogue Q A α → Dialogue P B α
  | done a => done a
  | ask q next => (answer q).bind fun a => (next a).interpret answer

/-- Answers every question, with a state that changes from one to the next. -/
def run {σ : Type} (answer : (q : Q) → σ → A q × σ) : Dialogue Q A α → σ → α × σ
  | done a, s => (a, s)
  | ask q next, s =>
    let r := answer q s
    (next r.1).run answer r.2

/-- The questions that are asked when each is answered from the ones before it. -/
def questions (answer : List Q → (q : Q) → A q) (asked : List Q) : Dialogue Q A α → List Q
  | done _ => asked
  | ask q next => (next (answer asked q)).questions answer (asked ++ [q])

/-- What the dialogue comes to when it is answered like that. -/
def result (answer : List Q → (q : Q) → A q) (asked : List Q) : Dialogue Q A α → α
  | done a => a
  | ask q next => (next (answer asked q)).result answer (asked ++ [q])

@[simp] theorem pure_eq (a : α) : (pure a : Dialogue Q A α) = done a := rfl

@[simp] theorem bind_eq (d : Dialogue Q A α) (f : α → Dialogue Q A β) : d >>= f = d.bind f := rfl

@[simp] theorem bind_done (a : α) (f : α → Dialogue Q A β) : (done a).bind f = f a := rfl

@[simp] theorem bind_ask (q : Q) (next : A q → Dialogue Q A α) (f : α → Dialogue Q A β) :
    (ask q next).bind f = ask q fun a => (next a).bind f := rfl

theorem bind_pure (d : Dialogue Q A α) : d.bind done = d := by
  induction d with
  | done a => rfl
  | ask q next ih => simp [ih]

theorem bind_assoc {γ : Type} (d : Dialogue Q A α) (f : α → Dialogue Q A β)
    (g : β → Dialogue Q A γ) : (d.bind f).bind g = d.bind fun a => (f a).bind g := by
  induction d with
  | done a => rfl
  | ask q next ih => simp [ih]

theorem interpret_bind (answer : (q : Q) → Dialogue P B (A q)) (d : Dialogue Q A α)
    (f : α → Dialogue Q A β) :
    (d.bind f).interpret answer = (d.interpret answer).bind fun a => (f a).interpret answer := by
  induction d with
  | done a => rfl
  | ask q next ih => simp [interpret, ih, bind_assoc]

end Dialogue

/-- A dialogue that may fail. -/
abbrev Attempt (Q : Type) (A : Q → Type) (E α : Type) := ExceptT E (Dialogue Q A) α

namespace Attempt

variable {Q : Type} {A : Q → Type} {E α : Type}

/-- A question whose answer may be a failure. -/
def question {R : Q → Type} (q : Q) : Attempt Q (fun q => Except E (R q)) E (R q) :=
  ExceptT.mk (Dialogue.question q)

/-- What has been found without asking. -/
def ofExcept (r : Except E α) : Attempt Q A E α := ExceptT.mk (pure r)

end Attempt
end SignatureDesk
