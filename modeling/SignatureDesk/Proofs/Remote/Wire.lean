/-
Calls over the wire. A call is carried by one request, or by none when there is
no address for it; what it comes back with is the reply, or a failure to reach
the service, which is never the caller's fault.
-/
import SignatureDesk.Remote.Wire
import SignatureDesk.Proofs.Dialogue.Asks
import SignatureDesk.Proofs.Outcome

namespace SignatureDesk

open Dialogue

/-- A call that is to change something. -/
def Call.mutates (c : Call) : Bool := c.method != .get

theorem Base.address_eq (b : Base) (path : String) :
    b.address path = String.ofList (b.text.toList ++ '/' :: path.toList.dropWhile (· = '/')) := by
  simp [Base.address, ← String.toList_inj]

namespace Link

/-! ## Messages -/

section

variable {b : Base} {credentials : Credentials} {method path : String} {body : Option Json} {now : Instant}

/-- A message asks the address of its path, and holds what its method, its body and its credentials
add to the address. -/
theorem message_ok {m : Message} (h : message b credentials method path body now = .ok m) :
    Url.parse (b.address path) = .ok (.web m.url) ∧ m.method = method ∧
      m.body = (body.map Json.compact).getD "" ∧
      m.headers = headersOfUrl m.url ++
        (if body.isSome then [("content-type", "application/json")] else []) ++
        headersOf credentials method m.url.target m.body now := by
  unfold message at h
  cases hp : Url.parse (b.address path) with
  | error e => simp [hp] at h
  | ok a =>
    cases a with
    | foreign => simp [hp] at h
    | web url =>
      simp only [hp] at h
      generalize (if body.isSome then _ else _) = typed at h ⊢
      split at h <;> cases h
      exact ⟨rfl, rfl, rfl, rfl⟩

/-- Nothing but the configuration or the transport keeps a message from being sent, and the
configuration only where the path has no address. -/
theorem message_error {e : Failure} (h : message b credentials method path body now = .error e) :
    e = .transport ∨ ((∃ d, e = .configuration d) ∧ ∃ e, Url.parse (b.address path) = .error e) := by
  unfold message at h
  cases hp : Url.parse (b.address path) with
  | error e' =>
    simp only [hp] at h
    cases h
    exact .inr ⟨⟨_, rfl⟩, e', rfl⟩
  | ok a =>
    cases a with
    | foreign =>
      simp only [hp] at h
      cases h
      exact .inl rfl
    | web url =>
      simp only [hp] at h
      generalize (if body.isSome then _ else _) = typed at h
      split at h <;> cases h
      exact .inl rfl

end

/-! ## Requests -/

variable {l : Link}

/-- A request is the message of its call. -/
theorem request_ok_iff {c : Call} {r : Request} :
    l.request c = .ok r ↔ ∃ m, message (l.base c.service) c.credentials c.method.name c.path c.body l.now = .ok m ∧
      r = ⟨c, m.url, m.headers, m.body⟩ := by
  rw [request, except_bind_ok_iff]
  constructor
  · rintro ⟨m, hm, h⟩
    cases h
    exact ⟨m, hm, rfl⟩
  · rintro ⟨m, hm, rfl⟩
    exact ⟨m, hm, rfl⟩

/-- A request carries its call to the address of the call's path. -/
theorem request_ok {c : Call} {r : Request} (h : l.request c = .ok r) :
    r.call = c ∧ Url.parse ((l.base c.service).address c.path) = .ok (.web r.url) := by
  obtain ⟨m, hm, rfl⟩ := request_ok_iff.1 h
  exact ⟨rfl, (message_ok hm).1⟩

/-- Nothing has the address of the call's path. -/
def Unaddressed (l : Link) (c : Call) : Prop := ∃ e, Url.parse ((l.base c.service).address c.path) = .error e

/-- Nothing but the configuration or the transport keeps a call from being sent, and the
configuration only where the call has no address. -/
theorem request_error {c : Call} {e : Failure} (h : l.request c = .error e) :
    e = .transport ∨ ((∃ d, e = .configuration d) ∧ l.Unaddressed c) := by
  rcases except_bind_error_iff.1 h with hm | ⟨m, -, h⟩
  · exact message_error hm
  · cases h

theorem carry_cases {c : Call} {t a} (h : (l.carry c).Transcript t a) :
    (∃ e, l.request c = .error e ∧ t = [] ∧ a = .error e) ∨
      ∃ r reply, l.request c = .ok r ∧ t = [⟨r, reply⟩] ∧
        a = match reply with
          | some reply => .ok reply
          | none => .error .transport := by
  rw [carry] at h
  cases hr : l.request c with
  | error e =>
    rw [hr] at h
    exact .inl ⟨e, rfl, transcript_done_iff.1 h⟩
  | ok r =>
    rw [hr] at h
    cases h with
    | @ask _ _ reply _ _ h =>
      obtain ⟨rfl, ha⟩ := transcript_done_iff.1 h
      exact .inr ⟨r, reply, rfl, rfl, ha⟩

/-- A call that fails was not to be sent or was not replied to. -/
theorem carry_error {c : Call} {t} {e : Failure} (h : (l.carry c).Transcript t (.error e)) :
    e = .transport ∨ ((∃ d, e = .configuration d) ∧ l.Unaddressed c) := by
  rcases carry_cases h with ⟨e', hr, -, he⟩ | ⟨_, reply, -, -, he⟩
  · cases he
    exact request_error hr
  · cases reply <;> cases he
    exact .inl rfl

/-- A call that is replied to was sent. -/
theorem carry_ok {c : Call} {t} {reply : Reply} (h : (l.carry c).Transcript t (.ok reply)) :
    t.map (·.1.call) = [c] := by
  rcases carry_cases h with ⟨_, -, -, he⟩ | ⟨r, _, hr, rfl, -⟩
  · cases he
  · simp [(request_ok hr).1]

/-- What goes over the wire are the requests of the calls. -/
theorem asks_run {α : Type} {p : Call → Prop} {d : Calling α} (h : Asks p d) :
    Asks (fun r : Request => l.request r.call = .ok r ∧ p r.call) (l.run d) := by
  refine h.interpret fun c hc => ?_
  rw [carry]
  cases hr : l.request c with
  | error e => exact .done
  | ok r =>
    obtain ⟨rfl, -⟩ := request_ok hr
    exact .ask ⟨hr, hc⟩ fun _ => .done

theorem run_transcript_iff {α : Type} {d : Calling α} {t a} :
    (l.run d).Transcript t a ↔ ∃ u, d.Transcript u a ∧ Tells l.carry t u := transcript_interpret_iff

end Link

theorem tells_carry_error {l : Link} {t u} (h : Tells l.carry t u) {c : Call} {e : Failure}
    (hx : ⟨c, .error e⟩ ∈ u) : e = .transport ∨ ((∃ d, e = .configuration d) ∧ l.Unaddressed c) := by
  induction h with
  | nil => cases hx
  | cons hc _ ih =>
    rcases List.mem_cons.1 hx with hx | hx
    · cases hx
      exact Link.carry_error hc
    · exact ih hx

/-- Calls that are all replied to were all sent. -/
theorem tells_carry_calls {l : Link} {t u} (h : Tells l.carry t u)
    (replied : ∀ x ∈ u, ∃ reply, x.2 = .ok reply) : t.map (·.1.call) = u.map (·.1) := by
  induction h with
  | nil => rfl
  | @cons c a _ _ _ hc _ ih =>
    obtain ⟨reply, rfl⟩ : ∃ reply, a = .ok reply := replied ⟨c, a⟩ (by simp)
    rw [List.map_append, Link.carry_ok hc, ih fun x hx => replied x (by simp [hx])]
    rfl

end SignatureDesk
