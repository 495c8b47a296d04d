/-
How a dialogue can go. A transcript lists the questions that were asked with the
answers they got, in order, whoever gave them: a statement about every
transcript is one about every way the world may behave.

A dialogue that goes on with another one has the transcripts of the two put
together (`transcript_bind_iff`); an attempt either fails, and then nothing that was to
follow it is asked, or goes on (`transcript_attempt_bind_iff`). A dialogue told in
terms of another has the transcripts that tell one of its own
(`transcript_interpret_iff`).
-/
import SignatureDesk.Dialogue

namespace SignatureDesk.Dialogue

variable {Q : Type} {A : Q → Type} {P : Type} {B : P → Type} {E α β : Type}

/-- The dialogue can go like that and come to that end. -/
inductive Transcript : Dialogue Q A α → List ((q : Q) × A q) → α → Prop
  | done {a} : Transcript (.done a) [] a
  | ask {q next r t a} : Transcript (next r) t a → Transcript (.ask q next) (⟨q, r⟩ :: t) a

theorem transcript_done_iff {a b : α} {t} : (done a : Dialogue Q A α).Transcript t b ↔ t = [] ∧ b = a := by
  constructor
  · intro h
    cases h
    exact ⟨rfl, rfl⟩
  · rintro ⟨rfl, rfl⟩
    exact .done

theorem transcript_question_iff {q : Q} {r : A q} {t} :
    (Dialogue.question q).Transcript t r ↔ t = [⟨q, r⟩] := by
  constructor
  · intro h
    cases h with
    | ask h => rw [(transcript_done_iff.1 h).1, (transcript_done_iff.1 h).2]
  · rintro rfl
    exact .ask .done

theorem Transcript.bind {d : Dialogue Q A α} {f : α → Dialogue Q A β} {t u a b} (h : d.Transcript t a)
    (hf : (f a).Transcript u b) : (d.bind f).Transcript (t ++ u) b := by
  induction h with
  | done => exact hf
  | ask _ ih => exact .ask (ih hf)

theorem transcript_bind_iff {d : Dialogue Q A α} {f : α → Dialogue Q A β} {t b} :
    (d.bind f).Transcript t b ↔
      ∃ t₁ t₂ a, t = t₁ ++ t₂ ∧ d.Transcript t₁ a ∧ (f a).Transcript t₂ b := by
  constructor
  · intro h
    induction d generalizing t with
    | done a => exact ⟨[], t, a, rfl, .done, h⟩
    | ask q next ih =>
      cases h with
      | ask h =>
        obtain ⟨t₁, t₂, a, rfl, h₁, h₂⟩ := ih _ h
        exact ⟨_ :: t₁, t₂, a, rfl, .ask h₁, h₂⟩
  · rintro ⟨t₁, t₂, a, rfl, h₁, h₂⟩
    exact h₁.bind h₂

/-! ## Attempts -/

theorem transcript_attempt_pure_iff {a : α} {t} {r : Except E α} :
    (pure a : Attempt Q A E α).run.Transcript t r ↔ t = [] ∧ r = .ok a := transcript_done_iff

theorem transcript_attempt_throw_iff {e : E} {t} {r : Except E α} :
    (throw e : Attempt Q A E α).run.Transcript t r ↔ t = [] ∧ r = .error e := transcript_done_iff

theorem transcript_attempt_ofExcept_iff {x r : Except E α} {t} :
    (Attempt.ofExcept x : Attempt Q A E α).run.Transcript t r ↔ t = [] ∧ r = x := transcript_done_iff

/-- An attempt goes on with another one unless it fails. -/
theorem transcript_attempt_bind_iff {x : Attempt Q A E α} {f : α → Attempt Q A E β} {t r} :
    (x >>= f).run.Transcript t r ↔
      (∃ e, r = .error e ∧ x.run.Transcript t (.error e)) ∨
        ∃ t₁ t₂ a, t = t₁ ++ t₂ ∧ x.run.Transcript t₁ (.ok a) ∧ (f a).run.Transcript t₂ r := by
  have hrun : (x >>= f).run = x.run.bind fun y => match y with
      | .ok a => (f a).run
      | .error e => .done (.error e) := by
    rw [ExceptT.run_bind]
    refine congrArg x.run.bind (funext fun y => ?_)
    cases y <;> rfl
  rw [hrun, transcript_bind_iff]
  constructor
  · rintro ⟨t₁, t₂, y, rfl, h₁, h₂⟩
    cases y with
    | error e =>
      obtain ⟨rfl, rfl⟩ := transcript_done_iff.1 h₂
      exact .inl ⟨e, rfl, by simpa using h₁⟩
    | ok a => exact .inr ⟨t₁, t₂, a, rfl, h₁, h₂⟩
  · rintro (⟨e, rfl, h⟩ | ⟨t₁, t₂, a, rfl, h₁, h₂⟩)
    · exact ⟨t, [], .error e, by simp, h, .done⟩
    · exact ⟨t₁, t₂, .ok a, rfl, h₁, h₂⟩

/-- Nothing more is asked once what comes of an attempt is settled. -/
theorem transcript_attempt_settled_iff {x : Attempt Q A E α} {f : α → Except E β} {t r} :
    (x >>= fun a => Attempt.ofExcept (f a)).run.Transcript t r ↔
      ∃ y, x.run.Transcript t y ∧ r = y >>= f := by
  rw [transcript_attempt_bind_iff]
  constructor
  · rintro (⟨e, rfl, h⟩ | ⟨t₁, t₂, a, rfl, h, hf⟩)
    · exact ⟨_, h, rfl⟩
    · obtain ⟨rfl, rfl⟩ := transcript_attempt_ofExcept_iff.1 hf
      exact ⟨.ok a, by simpa using h, rfl⟩
  · rintro ⟨y, h, rfl⟩
    cases y with
    | error e => exact .inl ⟨e, rfl, h⟩
    | ok a => exact .inr ⟨t, [], a, by simp, h, transcript_attempt_ofExcept_iff.2 ⟨rfl, rfl⟩⟩

/-- What has been found without asking is a failure, or is gone on with. -/
theorem transcript_attempt_found_iff {x : Except E α} {f : α → Attempt Q A E β} {t r} :
    ((Attempt.ofExcept x : Attempt Q A E α) >>= f).run.Transcript t r ↔
      (∃ e, x = .error e ∧ t = [] ∧ r = .error e) ∨ ∃ a, x = .ok a ∧ (f a).run.Transcript t r := by
  cases x with
  | error e =>
    refine transcript_done_iff.trans ⟨fun h => .inl ⟨e, rfl, h⟩, ?_⟩
    rintro (⟨_, he, h⟩ | ⟨_, ha, -⟩)
    · cases he
      exact h
    · cases ha
  | ok a =>
    refine ⟨fun h => .inr ⟨a, rfl, h⟩, ?_⟩
    rintro (⟨_, he, -⟩ | ⟨_, ha, h⟩)
    · cases he
    · cases ha
      exact h

/-! ## One dialogue told in terms of another -/

/-- A transcript of questions, told by one of the questions that answer them. -/
inductive Tells (answer : (q : Q) → Dialogue P B (A q)) :
    List ((p : P) × B p) → List ((q : Q) × A q) → Prop
  | nil : Tells answer [] []
  | cons {q r t₁ t₂ u} : (answer q).Transcript t₁ r → Tells answer t₂ u →
      Tells answer (t₁ ++ t₂) (⟨q, r⟩ :: u)

theorem transcript_interpret_iff {answer : (q : Q) → Dialogue P B (A q)} {d : Dialogue Q A α} {t a} :
    (d.interpret answer).Transcript t a ↔ ∃ u, d.Transcript u a ∧ Tells answer t u := by
  induction d generalizing t with
  | done b =>
    constructor
    · intro h
      obtain ⟨rfl, rfl⟩ := transcript_done_iff.1 h
      exact ⟨[], .done, .nil⟩
    · rintro ⟨u, h, tells⟩
      obtain ⟨rfl, rfl⟩ := transcript_done_iff.1 h
      cases tells
      exact .done
  | ask q next ih =>
    rw [interpret, transcript_bind_iff]
    constructor
    · rintro ⟨t₁, t₂, r, rfl, hq, hn⟩
      obtain ⟨u, hu, tells⟩ := (ih r).1 hn
      exact ⟨⟨q, r⟩ :: u, .ask hu, .cons hq tells⟩
    · rintro ⟨u, h, tells⟩
      cases h with
      | ask h =>
        cases tells with
        | cons hq tells => exact ⟨_, _, _, rfl, hq, (ih _).2 ⟨_, h, tells⟩⟩

/-! ## Worlds that answer from what was asked before -/

theorem questions_bind (answer : List Q → (q : Q) → A q) (d : Dialogue Q A α)
    (f : α → Dialogue Q A β) (asked : List Q) :
    (d.bind f).questions answer asked =
      (f (d.result answer asked)).questions answer (d.questions answer asked) := by
  induction d generalizing asked with
  | done a => rfl
  | ask q next ih => exact ih _ _

theorem result_bind (answer : List Q → (q : Q) → A q) (d : Dialogue Q A α)
    (f : α → Dialogue Q A β) (asked : List Q) :
    (d.bind f).result answer asked =
      (f (d.result answer asked)).result answer (d.questions answer asked) := by
  induction d generalizing asked with
  | done a => rfl
  | ask q next ih => exact ih _ _

/-- Any way of answering gives a transcript, of the questions asked when answered so. -/
theorem exists_transcript (answer : List Q → (q : Q) → A q) (d : Dialogue Q A α) (asked : List Q) :
    ∃ t, d.Transcript t (d.result answer asked) ∧
      asked ++ t.map (·.1) = d.questions answer asked := by
  induction d generalizing asked with
  | done a => exact ⟨[], .done, by simp [questions]⟩
  | ask q next ih =>
    obtain ⟨t, ht, hq⟩ := ih (answer asked q) (asked ++ [q])
    exact ⟨⟨q, answer asked q⟩ :: t, .ask ht, by simpa [questions] using hq⟩

/-- When every question has one answer, the transcript has these answers. -/
theorem exists_transcript_answered (answer : (q : Q) → A q) (d : Dialogue Q A α) (asked : List Q) :
    ∃ t, d.Transcript t (d.result (fun _ => answer) asked) ∧
      asked ++ t.map (·.1) = d.questions (fun _ => answer) asked ∧ ∀ x ∈ t, x.2 = answer x.1 := by
  induction d generalizing asked with
  | done a => exact ⟨[], .done, by simp [questions], by simp⟩
  | ask q next ih =>
    obtain ⟨t, ht, hq, hanswers⟩ := ih (answer q) (asked ++ [q])
    refine ⟨⟨q, answer q⟩ :: t, .ask ht, by simpa [questions] using hq, ?_⟩
    simpa using hanswers

/-! ## Answers in turn -/

/-- Answers that come in this order, whatever is asked; what has been asked is kept. -/
def inTurn {A : Type} (answers : Nat → A) (q : Q) (asked : List Q) : A × List Q :=
  (answers asked.length, asked ++ [q])

theorem run_bind {σ : Type} (answer : (q : Q) → σ → A q × σ) (d : Dialogue Q A α) (f : α → Dialogue Q A β)
    (s : σ) : (d.bind f).run answer s = (f (d.run answer s).1).run answer (d.run answer s).2 := by
  induction d generalizing s with
  | done a => rfl
  | ask q next ih => exact ih _ _

/-! ## On the way -/

/-- The dialogue can have gone like that so far, with another still to come. -/
inductive Reaches : Dialogue Q A α → List ((q : Q) × A q) → Dialogue Q A α → Prop
  | start {d} : Reaches d [] d
  | ask {d t q next} (r : A q) : Reaches d t (.ask q next) → Reaches d (t ++ [⟨q, r⟩]) (next r)

theorem Reaches.transcript {d d' : Dialogue Q A α} {t u a} (h : d.Reaches t d') (run : d'.Transcript u a) :
    d.Transcript (t ++ u) a := by
  induction h generalizing u with
  | start => exact run
  | ask r _ ih =>
    rw [List.append_assoc]
    exact ih (.ask run)

/-- What a dialogue has asked so far is the beginning of a transcript, since it may go on somehow. -/
theorem Reaches.extends [∀ q, Inhabited (A q)] {d d' : Dialogue Q A α} {t} (h : d.Reaches t d') :
    ∃ u a, d.Transcript (t ++ u) a := by
  obtain ⟨u, hu, -⟩ := exists_transcript (fun _ _ => default) d' []
  exact ⟨u, _, h.transcript hu⟩

end SignatureDesk.Dialogue
