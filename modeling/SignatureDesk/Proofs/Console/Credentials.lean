/-
Whose credentials a request carries. The console works on any number of requests at
a time, each of which has been served up to some question to a service: a step lets a
request come in, hears a reply, or answers a request. Whatever the order of the
steps, what is sent for a session carries the credentials that were issued to that
session (`Console.credentials_stay_with_session`).
-/
import SignatureDesk.Proofs.Console.Corporate
import SignatureDesk.Proofs.Console.Lifetime
import SignatureDesk.Proofs.Console.SignIn

namespace SignatureDesk

open Dialogue

/-- Requests with what they were replied to. -/
abbrev Sent := List ((_ : Request) × Option Reply)

/-! ## Calls for a session -/

/-- The call carries what was issued to the session: to the platform a signature with its keys, to the
agreement service its token, or such a signature when it has none. -/
def Call.IsOwn (s : Session) (c : Call) : Prop :=
  match c.service with
  | .platform => c.credentials = .signed s.keys
  | .cla => c.credentials = match s.idToken with
    | some token => .bearer token
    | none => .signed s.keys

section

variable {s : Session}

theorem isOwn_platform {method : Method} {path : String} {body : Option Json} :
    (Platform.call s.platformCredentials method path body).IsOwn s := rfl

theorem isOwn_cla {method : Method} {path : String} {body : Option Json} :
    (Cla.call s.claCredentials method path body).IsOwn s := by
  show s.claCredentials = _
  rw [Session.claCredentials]
  cases s.idToken <;> rfl

theorem Lookup.asks_own (q : Lookup) : Asks (Call.IsOwn s) (q.ask s.claCredentials).run := by
  cases q with
  | page p query => exact Asks.attempt_found fun path _ => Remote.asks_fetch isOwn_cla
  | _ => exact Remote.asks_fetch isOwn_cla

/-- Whatever a search looks up, it does so with the credentials it is carried out with. -/
theorem Search.asks_own {α : Type} (x : Search α) : Asks (Call.IsOwn s) (Search.carry s.claCredentials x) :=
  (Asks.trivial x).interpret fun q _ => q.asks_own

theorem Operation.asks_own {limits : Config.Limits} {o : Operation} :
    Asks (Call.IsOwn s) (o.execute limits s).run := by
  cases o with
  | logout => exact .attempt_pure
  | createUser | addRole =>
    refine Asks.attempt_bind ?_ fun _ => .attempt_pure
    exact (Remote.asks_call isOwn_platform).attempt_bind fun _ => .attempt_ofExcept
  | removeUser | removeRole =>
    refine Asks.attempt_bind ?_ fun _ => .attempt_pure
    exact (Remote.asks_succeed isOwn_platform).attempt_bind fun _ => .attempt_pure
  | requestInvite =>
    refine Asks.attempt_bind ?_ fun _ => .attempt_pure
    exact (Remote.asks_succeed isOwn_cla).attempt_bind fun _ => .attempt_pure
  | users =>
    refine Asks.attempt_bind ?_ fun _ => .attempt_pure
    exact (Remote.asks_fetch isOwn_platform).attempt_bind fun _ => .attempt_pure
  | createCompany company =>
    refine Asks.attempt_bind ?_ fun _ => .attempt_pure
    rw [makeCompany]
    split
    · exact .attempt_throw
    · exact (Remote.asks_call isOwn_cla).attempt_bind fun _ => .attempt_ofExcept
  | projectSignatures => exact Asks.attempt_bind (Search.asks_own _) fun _ => .attempt_pure
  | companyProject =>
    refine Asks.attempt_bind ?_ fun _ => .attempt_pure
    exact (Search.asks_own _).bind fun _ => .done
  | editAllowList =>
    refine Asks.attempt_bind ?_ fun _ => .attempt_pure
    exact Corporate.asks_edit isOwn_cla (fun _ => isOwn_cla) fun _ => isOwn_cla
  | addManager =>
    refine Asks.attempt_bind ?_ fun _ => .attempt_pure
    exact Corporate.asks_addManager isOwn_cla (fun _ _ => isOwn_cla) fun _ => isOwn_cla
  | removeManager =>
    refine Asks.attempt_bind ?_ fun _ => .attempt_pure
    exact Corporate.asks_removeManager isOwn_cla (fun _ => isOwn_cla) fun _ => isOwn_cla
  | _ => exact (Remote.asks_fetch isOwn_platform).attempt_bind fun _ => .attempt_pure

end

/-! ## Logins -/

namespace Login

variable {l : Login} {account : Credentials} {link : Link}

/-- What a login sends, up to some point: the exchange with the console's own account, and then the
lookup, signed with the keys that were replied to the exchange. -/
inductive Sends (l : Login) (account : Credentials) : Sent → Prop
  | nothing : Sends l account []
  | exchange {r : Request} {a : Option Reply} : r.call = l.exchange account → Sends l account [⟨r, a⟩]
  | lookup {r r' : Request} {reply : Reply} {a : Option Reply} {keys : ApiKeys} :
      r.call = l.exchange account → Yields ApiKeys.codec (.ok reply) keys → r'.call = l.lookup keys →
      Sends l account [⟨r, some reply⟩, ⟨r', a⟩]

theorem Sends.of_append {t u : Sent} (h : l.Sends account (t ++ u)) : l.Sends account t := by
  generalize hv : t ++ u = v at h
  cases h with
  | nothing =>
    rw [(List.append_eq_nil_iff.1 hv).1]
    exact .nothing
  | exchange hr =>
    rcases List.append_eq_singleton_iff.1 hv with ⟨rfl, -⟩ | ⟨rfl, -⟩
    · exact .nothing
    · exact .exchange hr
  | lookup hr hkeys hr' =>
    cases t with
    | nil => exact .nothing
    | cons x t =>
      obtain ⟨rfl, ht⟩ := List.cons.inj hv
      rcases List.append_eq_singleton_iff.1 ht with ⟨rfl, -⟩ | ⟨rfl, -⟩
      · exact .exchange hr
      · exact .lookup hr hkeys hr'

/-- Of the two calls of a login, the one that is not signed is the exchange. -/
theorem Sends.eq_exchange {t : Sent} (h : l.Sends account t) {x : (_ : Request) × Option Reply} (hx : x ∈ t)
    (hcredentials : ∀ keys, x.1.call.credentials ≠ .signed keys) : x.1.call = l.exchange account := by
  cases h with
  | nothing => cases hx
  | exchange hr =>
    obtain rfl := List.mem_singleton.1 hx
    exact hr
  | @lookup r r' reply a keys hr hkeys hr' =>
    rcases List.mem_cons.1 hx with rfl | hx
    · exact hr
    · obtain rfl := List.mem_singleton.1 hx
      have hsigned : r'.call.credentials = .signed keys := by
        rw [hr']
        rfl
      exact absurd hsigned (hcredentials keys)

/-- What is found out about an identity is sent for as a login does, and the keys are those that were
replied to the exchange. -/
theorem known_transcript {t : Sent} {x : Except Failure (ApiKeys × Option PlatformUser)}
    (run : (link.run (l.known account).run).Transcript t x) :
    l.Sends account t ∧ ∀ k, x = .ok k → ∃ r reply rest, t = ⟨r, some reply⟩ :: rest ∧
      r.call = l.exchange account ∧ Yields ApiKeys.codec (.ok reply) k.1 := by
  rw [known_run] at run
  obtain ⟨t₁, t₂, a, rfl, h₁, h₂⟩ := transcript_bind_iff.1 run
  have hcall : ∀ {c r}, link.request c = .ok r → r.call = c := fun hr => (Link.request_ok hr).1
  rcases Link.carry_cases h₁ with ⟨e, -, rfl, rfl⟩ | ⟨r, reply, hr, rfl, rfl⟩
  · obtain ⟨rfl, rfl⟩ := transcript_done_iff.1 h₂
    exact ⟨.nothing, by simp⟩
  cases reply with
  | none =>
    obtain ⟨rfl, rfl⟩ := transcript_done_iff.1 h₂
    exact ⟨.exchange (hcall hr), by simp⟩
  | some reply =>
    simp only at h₂
    cases hkeys : Remote.fetched ApiKeys.codec ("Unable to get keys for LfId of [" ++ l.identity ++ "]") (.ok reply) with
    | error e =>
      rw [hkeys] at h₂
      obtain ⟨rfl, rfl⟩ := transcript_done_iff.1 h₂
      exact ⟨.exchange (hcall hr), by simp⟩
    | ok keys =>
      rw [hkeys] at h₂
      have hyields := (Remote.fetched_ok_iff _).1 hkeys
      obtain ⟨t₃, t₄, b, rfl, h₃, h₄⟩ := transcript_bind_iff.1 h₂
      obtain ⟨rfl, rfl⟩ := transcript_done_iff.1 h₄
      refine ⟨?_, fun k hk => ⟨r, reply, _, rfl, hcall hr, ?_⟩⟩
      · rcases Link.carry_cases h₃ with ⟨e, -, rfl, -⟩ | ⟨r', reply', hr', rfl, -⟩
        · exact .exchange (hcall hr)
        · exact .lookup (hcall hr) hyields (hcall hr')
      · obtain ⟨record, -, rfl⟩ := except_map_ok_iff.1 hk
        exact hyields

end Login

/-! ## Requests -/

/-- A login sent for the keys of the session that it opened, and gave the session its token. -/
structure Login.Issues (l : Login) (c : Console) (m : Moment) (t : Sent) (s : Session) : Prop where
  id : s.id = m.freshId
  lfId : s.lfId = l.identity
  token : s.idToken = l.idToken
  keys : ∃ r reply rest, t = ⟨r, some reply⟩ :: rest ∧ r.call = l.exchange c.account ∧
    Yields ApiKeys.codec (.ok reply) s.keys

namespace Console

variable {c : Console} {m : Moment} {store : SessionStore} {i : Incoming} {t : Sent} {h : Handled}

theorem asks_guarded {r : Resource} (path : Target.ofPath? i.path = some (.guarded r)) :
    Asks (fun call => ∃ s, sessionOf store i = .ok s ∧ call.IsOwn s) (c.handle m store i) := by
  refine Asks.bind ?_ fun _ => .done
  rw [serve, path]
  simp only
  split
  · exact .done
  next s live =>
    refine Asks.mono ?_ fun call own => ⟨s, live, own⟩
    rw [serveGuarded]
    split
    · exact .done
    · exact .done
    next o _ =>
      have hperform : Asks (Call.IsOwn s) (o.perform c.config.limits s).run :=
        Asks.attempt_bind .attempt_ofExcept fun _ => Operation.asks_own
      refine hperform.bind fun x => ?_
      cases x <;> exact .done

theorem asks_serveFree {p : Call → Prop} {r : FreeResource}
    (hasks : ∀ o : FreeOperation, o.asked.2 = r → Asks p (c.performFree m store o)) :
    Asks p (c.serveFree m store r i) := by
  rw [serveFree]
  split
  · exact .done
  · exact .done
  next o hr => exact hasks o (Prod.mk.inj (FreeOperation.asked_of_read? hr)).2

theorem asks_status (path : Target.ofPath? i.path = some (.free .status)) :
    Asks (· = Platform.get .anonymous "about/version") (c.handle m store i) := by
  refine Asks.bind ?_ fun _ => .done
  rw [serve, path]
  refine asks_serveFree fun o ho => ?_
  cases o with
  | status => exact Asks.bind (Remote.asks_fetch (p := (· = Platform.get .anonymous "about/version")) rfl) fun _ => .done
  | health => cases ho
  | login l => cases ho

theorem asks_nothing (path : ∀ r, Target.ofPath? i.path = some r → r = .free .health) :
    Asks (fun _ => False) (c.handle m store i) := by
  refine Asks.bind ?_ fun _ => .done
  rw [serve]
  split
  · exact .done
  next r hr =>
    cases path _ hr
    refine asks_serveFree fun o ho => ?_
    cases o with
    | health => exact .done
    | status => cases ho
    | login l => cases ho
  next r hr => cases path _ hr

/-- A login whose body cannot be understood sends nothing. -/
theorem handle_unread (path : Target.ofPath? i.path = some (.free .login))
    (unread : ∀ l, FreeOperation.read? .login i ≠ some (.ok (.login l))) :
    ∃ h, c.handle m store i = .done h ∧ h.change = .keep := by
  rw [handle, serve, path]
  simp only [serveFree]
  split
  · exact ⟨_, rfl, by split <;> rfl⟩
  · exact ⟨_, rfl, by split <;> rfl⟩
  next o hr =>
    cases o with
    | login l => exact absurd hr (unread l)
    | status => cases (Prod.mk.inj (FreeOperation.asked_of_read? hr)).2
    | health => cases (Prod.mk.inj (FreeOperation.asked_of_read? hr)).2

/-- What a login sends, and what it issues when it opens a session. -/
theorem login_transcript (path : Target.ofPath? i.path = some (.free .login))
    (run : ((c.link m.now).run (c.handle m store i)).Transcript t h) :
    (t = [] ∧ h.change = .keep) ∨ ∃ l, FreeOperation.read? .login i = some (.ok (.login l)) ∧
      l.Sends c.account t ∧ ∀ s, h.change = .opens s → l.Issues c m t s := by
  -- Nothing is sent unless the body is understood, names someone, and has no token that fails its check.
  by_cases hread : ∃ l, FreeOperation.read? .login i = some (.ok (.login l))
  · obtain ⟨l, body⟩ := hread
    by_cases named : l.identity = ""
    · rw [handle_unnamed path body named] at run
      obtain ⟨rfl, rfl⟩ := transcript_done_iff.1 run
      exact .inl ⟨rfl, rfl⟩
    refine .inr ⟨l, body, ?_⟩
    cases hproved : l.tokenCapabilities c.verifier m.now with
    | error e =>
      rw [handle_login path body, Login.perform_refused named hproved] at run
      obtain ⟨rfl, rfl⟩ := transcript_done_iff.1 run
      exact ⟨.nothing, fun s hs => by cases hs⟩
    | ok proved =>
      rw [handle_signIn path body named hproved, Link.run_bind, transcript_bind_iff] at run
      obtain ⟨t₁, t₂, x, rfl, hknown, hdone⟩ := run
      obtain ⟨rfl, rfl⟩ := transcript_done_iff.1 hdone
      obtain ⟨hsends, hkeys⟩ := Login.known_transcript hknown
      rw [List.append_nil]
      refine ⟨hsends, fun s hs => ?_⟩
      cases x with
      | error e => cases hs
      | ok k =>
        cases hs
        exact ⟨rfl, rfl, rfl, hkeys k rfl⟩
  · obtain ⟨h', hdone, hkeep⟩ : ∃ h, c.handle m store i = .done h ∧ h.change = .keep :=
      handle_unread path fun l hl => hread ⟨l, hl⟩
    rw [hdone] at run
    obtain ⟨rfl, rfl⟩ := transcript_done_iff.1 run
    exact .inl ⟨rfl, hkeep⟩

end Console

/-! ## Requests under way -/

/-- A request that has come in: when, what sessions there were, what has been sent for it, and what is
still to be done. -/
structure Flight where
  moment : Moment
  request : Incoming
  store : SessionStore
  sent : Sent
  rest : Dialogue Request (fun _ => Option Reply) Handled

/-- The console at work: the sessions, the requests under way, and those that have been answered. -/
structure Desk where
  store : SessionStore
  waiting : List Flight
  answered : List Flight

/-- A request as it comes in. -/
def Flight.arrived (c : Console) (m : Moment) (store : SessionStore) (i : Incoming) : Flight :=
  ⟨m, i, store, [], (c.link m.now).run (c.handle m store i)⟩

/-- A request once a reply, or none, has come back to what was sent last. -/
def Flight.heard (f : Flight) (r : Request) (reply : Option Reply)
    (rest : Dialogue Request (fun _ => Option Reply) Handled) : Flight :=
  { f with sent := f.sent ++ [⟨r, reply⟩], rest }

/-- A request comes in, goes on with a reply, or is answered; whichever of them does, the others stay
as they are. -/
inductive Desk.Step (c : Console) : Desk → Desk → Prop
  | arrives {d : Desk} (m : Moment) (i : Incoming) :
      Step c d { d with waiting := .arrived c m d.store i :: d.waiting }
  | hears {store before f after answered r next} (reply : Option Reply) : f.rest = .ask r next →
      Step c ⟨store, before ++ f :: after, answered⟩
        ⟨store, before ++ f.heard r reply (next reply) :: after, answered⟩
  | answers {store before f after answered h} : f.rest = .done h →
      Step c ⟨store, before ++ f :: after, answered⟩ ⟨store.apply h.change, before ++ after, f :: answered⟩

/-- The console can have come to this, from nothing. -/
inductive Desk.Reachable (c : Console) : Desk → Prop
  | start : Reachable c ⟨.empty, [], []⟩
  | step {d d' : Desk} : Reachable c d → Step c d d' → Reachable c d'

/-! ## What the steps preserve -/

/-- Every session is kept under its own id, and was issued by a login that has been answered. -/
structure SessionStore.Issued (c : Console) (answered : List Flight) (store : SessionStore) : Prop where
  keyed : store.Keyed
  issued : ∀ id s, store.get? id = some s → ∃ f ∈ answered, ∃ l : Login,
    FreeOperation.read? .login f.request = some (.ok (.login l)) ∧ l.Issues c f.moment f.sent s

/-- A request has been served up to some point, for the sessions there were when it came in. -/
structure Flight.OnCourse (c : Console) (answered : List Flight) (f : Flight) : Prop where
  store : f.store.Issued c answered
  reaches : ((c.link f.moment.now).run (c.handle f.moment f.store f.request)).Reaches f.sent f.rest

structure Desk.Sound (c : Console) (d : Desk) : Prop where
  store : d.store.Issued c d.answered
  flights : ∀ f ∈ d.waiting ++ d.answered, f.OnCourse c d.answered

section

variable {c : Console} {answered : List Flight} {store : SessionStore} {f g : Flight} {d d' : Desk}

theorem SessionStore.Issued.cons (h : store.Issued c answered) : store.Issued c (f :: answered) where
  keyed := h.keyed
  issued id s live := by
    obtain ⟨g, hg, hissues⟩ := h.issued id s live
    exact ⟨g, List.mem_cons_of_mem _ hg, hissues⟩

theorem Flight.OnCourse.cons (h : g.OnCourse c answered) : g.OnCourse c (f :: answered) :=
  ⟨h.store.cons, h.reaches⟩

/-- A session is opened by the login that issues it. -/
theorem Flight.OnCourse.issues {h : Handled} {s : Session} (course : f.OnCourse c answered)
    (done : f.rest = .done h) (opens : h.change = .opens s) : ∃ l : Login,
      FreeOperation.read? .login f.request = some (.ok (.login l)) ∧ l.Issues c f.moment f.sent s := by
  have hreaches := course.reaches
  rw [done] at hreaches
  have run := hreaches.transcript .done
  rw [List.append_nil] at run
  have path : Target.ofPath? f.request.path = some (.free .login) := by
    obtain ⟨u, hu, -⟩ := Link.run_transcript_iff.1 run
    rcases Console.handle_change_cases hu with ⟨hkeep, -⟩ | ⟨l, s', path, -, -⟩ | ⟨s', -, -, rfl⟩
    · rw [hkeep] at opens
      cases opens
    · exact path
    · cases opens
  rcases Console.login_transcript path run with ⟨-, hkeep⟩ | ⟨l, body, -, hissues⟩
  · rw [hkeep] at opens
    cases opens
  · exact ⟨l, body, hissues s opens⟩

/-- The sessions stay issued when a request is answered. -/
theorem SessionStore.Issued.apply {h : Handled} (issued : store.Issued c answered)
    (course : f.OnCourse c answered) (done : f.rest = .done h) :
    (store.apply h.change).Issued c (f :: answered) := by
  cases hchange : h.change with
  | keep => exact issued.cons
  | opens s =>
    refine ⟨issued.keyed.insert s, fun id s' live => ?_⟩
    rw [SessionStore.apply, get?_insert] at live
    split at live
    · cases live
      exact ⟨f, by simp, course.issues done hchange⟩
    · exact issued.cons.issued id s' live
  | closes id =>
    refine ⟨issued.keyed.remove id, fun other s live => ?_⟩
    rw [SessionStore.apply, get?_remove] at live
    split at live
    · cases live
    · exact issued.cons.issued other s live

/-- A step keeps the sessions issued and the requests on their course. -/
theorem Desk.Sound.step (sound : d.Sound c) (step : Step c d d') : d'.Sound c := by
  cases step with
  | arrives m i =>
    refine ⟨sound.store, fun f hf => ?_⟩
    rcases List.mem_cons.1 hf with rfl | hf
    · exact ⟨sound.store, .start⟩
    · exact sound.flights f hf
  | @hears store before f after answered r next reply hrest =>
    refine ⟨sound.store, fun g hg => ?_⟩
    have hf := sound.flights f (by simp)
    simp only [List.append_assoc, List.cons_append, List.mem_append, List.mem_cons] at hg
    -- The request that hears the reply has gone on by one question; the others are where they were.
    by_cases hsame : g = f.heard r reply (next reply)
    · subst hsame
      have hreaches := hf.reaches
      rw [hrest] at hreaches
      have hnext : Reaches _ (f.sent ++ [⟨r, reply⟩]) (next reply) := .ask reply hreaches
      exact ⟨hf.store, hnext⟩
    · exact sound.flights g (by simp; tauto)
  | @answers store before f after answered h hrest =>
    have hf := sound.flights f (by simp)
    refine ⟨sound.store.apply hf hrest, fun g hg => ?_⟩
    have hmem : g ∈ before ++ f :: after ++ answered := by
      simp only [List.append_assoc, List.cons_append, List.mem_append, List.mem_cons] at hg ⊢
      tauto
    exact (sound.flights g hmem).cons

theorem Desk.Reachable.sound (reach : d.Reachable c) : d.Sound c := by
  induction reach with
  | start =>
    refine ⟨⟨.empty, fun id s live => ?_⟩, by simp⟩
    cases live
  | step _ step ih => exact ih.step step

/-- A request may hear all its replies while the others wait. -/
theorem Desk.Reachable.heard {waiting : List Flight} {u : Sent} {h : Handled} (run : f.rest.Transcript u h)
    (reach : Reachable c ⟨store, f :: waiting, answered⟩) :
    Reachable c ⟨store, { f with sent := f.sent ++ u, rest := .done h } :: waiting, answered⟩ := by
  generalize hrest : f.rest = rest at run
  induction run generalizing f with
  | done =>
    rw [List.append_nil, ← hrest]
    exact reach
  | @ask r next reply u h _ ih =>
    have hstep : Step c ⟨store, [] ++ f :: waiting, answered⟩
      ⟨store, [] ++ f.heard r reply (next reply) :: waiting, answered⟩ := .hears reply hrest
    have hheard := ih (reach.step hstep) rfl
    simpa [Flight.heard] using hheard

/-- A request may be served from its arrival to its answer while the others wait. -/
theorem Desk.Reachable.served {m : Moment} {i : Incoming} {t : Sent} {h : Handled} (reach : d.Reachable c)
    (run : ((c.link m.now).run (c.handle m d.store i)).Transcript t h) :
    Reachable c ⟨d.store.apply h.change, d.waiting, ⟨m, i, d.store, t, .done h⟩ :: d.answered⟩ := by
  have harrived : Reachable c ⟨d.store, .arrived c m d.store i :: d.waiting, d.answered⟩ :=
    reach.step (.arrives m i)
  have hstep : Step c ⟨d.store, [] ++ ⟨m, i, d.store, t, .done h⟩ :: d.waiting, d.answered⟩
    ⟨d.store.apply h.change, [] ++ d.waiting, ⟨m, i, d.store, t, .done h⟩ :: d.answered⟩ := .answers rfl
  exact (harrived.heard run).step hstep

/-! ## Whose credentials are sent -/

/-- A request has headers for the credentials of its call, behind those for its address and its body. -/
def Request.CarriesCredentials (r : Request) (now : Instant) : Prop :=
  r.headers = Link.headersOfUrl r.url ++
    (if r.call.body.isSome then [("content-type", "application/json")] else []) ++
    Link.headersOf r.call.credentials r.call.method.name r.url.target r.body now

theorem Link.request_carries {l : Link} {call : Call} {r : Request} (h : l.request call = .ok r) :
    r.CarriesCredentials l.now := by
  obtain ⟨m, hm, rfl⟩ := request_ok_iff.1 h
  obtain ⟨-, hmethod, -, hheaders⟩ := message_ok hm
  exact hheaders

/-- What is sent for a request carries the credentials that the request may use: those issued to the
session that it names, by the login that opened it; those of a login's own two calls; none for the version
of the platform. Nothing is sent for other requests. -/
def Flight.Confined (c : Console) (answered : List Flight) (f : Flight) : Prop :=
  match Target.ofPath? f.request.path with
  | some (.guarded _) => f.sent ≠ [] → ∃ s, Console.sessionOf f.store f.request = .ok s ∧
      bearerSession f.request.authorization = .ok s.id ∧
      (∃ g ∈ answered, ∃ l : Login, FreeOperation.read? .login g.request = some (.ok (.login l)) ∧
        l.Issues c g.moment g.sent s) ∧
      ∀ x ∈ f.sent, x.1.call.IsOwn s
  | some (.free .login) => f.sent ≠ [] → ∃ l : Login,
      FreeOperation.read? .login f.request = some (.ok (.login l)) ∧ l.Sends c.account f.sent
  | some (.free .status) => ∀ x ∈ f.sent, x.1.call = Platform.get .anonymous "about/version"
  | _ => f.sent = []

theorem Flight.OnCourse.carries (course : f.OnCourse c answered) :
    ∀ x ∈ f.sent, x.1.CarriesCredentials f.moment.now := by
  intro x hx
  obtain ⟨u, h, run⟩ := course.reaches.extends
  have hasks := Link.asks_run (l := c.link f.moment.now) (Asks.trivial (c.handle f.moment f.store f.request))
  have hrequest : (c.link f.moment.now).request x.1.call = .ok x.1 :=
    (hasks.of_transcript run x (List.mem_append_left u hx)).1
  have hcarries : x.1.CarriesCredentials (c.link f.moment.now).now := Link.request_carries hrequest
  exact hcarries

theorem Flight.OnCourse.confined (course : f.OnCourse c answered) : f.Confined c answered := by
  -- What has been sent so far begins a whole transcript, and what holds of every call of that holds of it.
  obtain ⟨u, h, run⟩ := course.reaches.extends
  have hbegins : ∀ x ∈ f.sent, x ∈ f.sent ++ u := fun x hx => List.mem_append_left u hx
  rw [Confined]
  split
  next r path =>
    intro hsent
    have hasks := (Link.asks_run (l := c.link f.moment.now) (Console.asks_guarded path)).of_transcript run
    obtain ⟨y, hy⟩ := List.exists_mem_of_ne_nil _ hsent
    obtain ⟨-, s, live, -⟩ := hasks y (hbegins y hy)
    obtain ⟨id, hid, hget⟩ := Console.sessionOf_ok_iff.1 live
    obtain rfl := course.store.keyed.get?_id hget
    refine ⟨s, live, hid, course.store.issued _ s hget, fun x hx => ?_⟩
    obtain ⟨-, s', live', own⟩ := hasks x (hbegins x hx)
    rw [live] at live'
    cases live'
    exact own
  next path =>
    intro hsent
    rcases Console.login_transcript path run with ⟨hnil, -⟩ | ⟨l, body, hsends, -⟩
    · exact absurd (List.append_eq_nil_iff.1 hnil).1 hsent
    · exact ⟨l, body, hsends.of_append⟩
  next path =>
    have hasks := (Link.asks_run (l := c.link f.moment.now) (Console.asks_status path)).of_transcript run
    exact fun x hx => (hasks x (hbegins x hx)).2
  next hguarded hlogin hstatus =>
    have hhealth : ∀ r, Target.ofPath? f.request.path = some r → r = .free .health := by
      intro r path
      match r with
      | .guarded r => exact absurd path (hguarded r)
      | .free .login => exact absurd path hlogin
      | .free .status => exact absurd path hstatus
      | .free .health => rfl
    have hasks := (Link.asks_run (l := c.link f.moment.now) (Console.asks_nothing hhealth)).of_transcript run
    exact List.eq_nil_iff_forall_not_mem.2 fun x hx => (hasks x (hbegins x hx)).2

theorem Call.IsOwn.ne_account {call : Call} {s : Session} (own : call.IsOwn s) : call.credentials ≠ c.account := by
  intro h
  rw [IsOwn, h, Console.account] at own
  split at own
  · cases own
  · split at own <;> cases own

/-- Of what may be sent, only the exchange of a login carries the console's own account. -/
theorem Flight.Confined.exchange (confined : f.Confined c answered) {x : (_ : Request) × Option Reply}
    (hx : x ∈ f.sent) (account : x.1.call.credentials = c.account) :
    Target.ofPath? f.request.path = some (.free .login) ∧ ∃ l : Login,
      FreeOperation.read? .login f.request = some (.ok (.login l)) ∧ x.1.call = l.exchange c.account := by
  have hsent : f.sent ≠ [] := List.ne_nil_of_mem hx
  rw [Confined] at confined
  split at confined
  · obtain ⟨s, -, -, -, own⟩ := confined hsent
    exact absurd account (own x hx).ne_account
  next path =>
    obtain ⟨l, body, hsends⟩ := confined hsent
    refine ⟨path, l, body, hsends.eq_exchange hx fun keys h => ?_⟩
    rw [account] at h
    cases h
  · rw [confined x hx] at account
    cases account
  · exact absurd confined hsent

/-- **Credentials stay with their session.** However requests, logins and logouts overlap, what is sent
for a request carries the credentials that the request may use, and no others; and the console's own
account serves for nothing but the exchange of a login. -/
theorem Console.credentials_stay_with_session (reach : d.Reachable c) :
    ∀ f ∈ d.waiting ++ d.answered, f.Confined c d.answered ∧
      ∀ x ∈ f.sent, x.1.CarriesCredentials f.moment.now ∧
        (x.1.call.credentials = c.account → Target.ofPath? f.request.path = some (.free .login) ∧
          ∃ l : Login, FreeOperation.read? .login f.request = some (.ok (.login l)) ∧
            x.1.call = l.exchange c.account) := by
  intro f hf
  have course : f.OnCourse c d.answered := reach.sound.flights f hf
  exact ⟨course.confined, fun x hx => ⟨course.carries x hx, course.confined.exchange hx⟩⟩

end

/-! ## A session at work -/

namespace Sample

/-- The user asks to be invited to a company. -/
def invitation : Incoming := request .post "/company/c-1/invite-request" ""

theorem invitation_path : Target.ofPath? invitation.path = some (.guarded (.inviteRequests "c-1")) := by
  decide

theorem signIn_sent : ((console.handle moment .empty signIn).questions (fun _ c => .ok (reply c)) []).all
    (console.link moment.now).sends = true := by
  decide +kernel

theorem invitation_sent :
    (console.handle moment store invitation).questions (fun _ c => .ok (reply c)) [] ≠ [] ∧
      ((console.handle moment store invitation).questions (fun _ c => .ok (reply c)) []).all
        (console.link moment.now).sends = true := by
  decide +kernel

theorem store_issued : ∃ d, d.store = store ∧ Desk.Reachable console d := by
  obtain ⟨t, run, -⟩ := Link.exists_run_transcript reply signIn_sent
  -- What comes of the login is kept closed here, or it would be computed to compare the two desks.
  generalize hresult : (console.handle moment .empty signIn).result (fun _ c => .ok (reply c)) [] = h at run
  have hstore : SessionStore.empty.apply h.change = store := by
    rw [← hresult, store]
  exact ⟨⟨SessionStore.empty.apply h.change, _, _⟩, hstore, Desk.Reachable.start.served run⟩

/-- What is sent for the user carries what was issued to the session. -/
theorem invitation_is_own : ∃ (d : Desk) (f : Flight) (s : Session), d.Reachable console ∧ f ∈ d.answered ∧
    f.request = invitation ∧ f.sent ≠ [] ∧ bearerSession invitation.authorization = .ok s.id ∧
    ∀ x ∈ f.sent, x.1.call.IsOwn s := by
  obtain ⟨d, hstore, reach⟩ := store_issued
  obtain ⟨h, t, run, hsent⟩ : ∃ h t, ((console.link moment.now).run
      (console.handle moment d.store invitation)).Transcript t h ∧ t ≠ [] := by
    obtain ⟨t, run, asked⟩ := Link.exists_run_transcript reply invitation_sent.2
    rw [hstore]
    refine ⟨_, t, run, ?_⟩
    rintro rfl
    exact invitation_sent.1 asked.symm
  have reached := reach.served run
  obtain ⟨confined, -⟩ := Console.credentials_stay_with_session reached
    ⟨moment, invitation, d.store, t, .done h⟩ (by simp)
  rw [Flight.Confined] at confined
  simp only [invitation_path] at confined
  obtain ⟨s, -, hid, -, own⟩ := confined hsent
  exact ⟨_, _, s, reached, List.mem_cons_self, rfl, hsent, hid, own⟩

end Sample

end SignatureDesk
