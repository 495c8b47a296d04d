/-
Signing in. What is found out about an identity (its keys, and its user record if
there is one) does not depend on the token; the session is opened when both are
found, and may do what the record and the token prove (`Console.login_grants_what_is_proved`).
Whose subject a token has makes no difference: it adds the role that it names, and
nothing else (`Console.token_adds_its_role`).
-/
import SignatureDesk.Proofs.Console.Sample
import SignatureDesk.Proofs.Remote.Call
import SignatureDesk.Proofs.Remote.Signed

namespace SignatureDesk

open Dialogue

/-! ## What a call comes back with -/

/-- A way the services may reply: whether they do, and what, may depend on the requests before. -/
abbrev World := List Request → Request → Option Reply

namespace Link

variable {l : Link} {world : World} {before : List Request} {c : Call}

/-- What a call comes back with after other requests. -/
def outcome (l : Link) (world : World) (before : List Request) (c : Call) : Except Failure Reply :=
  (l.carry c).result world before

/-- The requests there have been once the call has come back. -/
def after (l : Link) (world : World) (before : List Request) (c : Call) : List Request :=
  (l.carry c).questions world before

theorem run_bind {α β : Type} {d : Calling α} {f : α → Calling β} :
    l.run (d.bind f) = (l.run d).bind fun a => l.run (f a) := interpret_bind l.carry d f

theorem result_run_done {α : Type} {a : α} : (l.run (.done a)).result world before = a := rfl

theorem questions_run_done {α : Type} {a : α} : (l.run (.done a)).questions world before = before := rfl

theorem result_run_ask {α : Type} {next : Except Failure Reply → Calling α} :
    (l.run (.ask c next)).result world before =
      (l.run (next (l.outcome world before c))).result world (l.after world before c) :=
  result_bind world (l.carry c) _ before

/-- A call that can be sent comes back with the reply to its request. -/
theorem outcome_ok {reply : Reply} (sent : l.sends c = true)
    (replied : ∀ r, r.call = c → world before r = some reply) : l.outcome world before c = .ok reply := by
  obtain ⟨r, hr⟩ := sends_iff.1 sent
  have hreply := replied r (request_ok hr).1
  rw [outcome, carry, hr]
  simp only [Dialogue.result, hreply]

/-- That nothing is there can only be replied. -/
theorem outcome_ne_notFound (message : String) : l.outcome world before c ≠ .error (.notFound message) := by
  intro h
  obtain ⟨t, ht, -⟩ := exists_transcript world (l.carry c) before
  rw [show (l.carry c).result world before = .error (.notFound message) from h] at ht
  rcases carry_error ht with h | ⟨⟨d, h⟩, -⟩
  · cases h
  · cases h

end Link

/-- A lookup came back with a record, or with the reply that there is none. -/
def Finds {α : Type} (codec : Codec α) (x : Except Failure Reply) : Option α → Prop
  | some a => Yields codec x a
  | none => ∃ reply, x = .ok reply ∧ reply.status = 404

namespace Remote

variable {α β : Type} {c : Call} {codec : Codec α} {context : String} {x : Except Failure Reply}

/-- What a lookup comes to. -/
def looked (codec : Codec α) (context : String) (x : Except Failure Reply) : Except Failure (Option α) :=
  match fetched codec context x with
  | .ok a => .ok (some a)
  | .error (.notFound _) => .ok none
  | .error e => .error e

theorem orNotFound_fetch_run :
    (orNotFound (fetch c context codec)).run = .ask c fun x => .done (looked codec context x) := by
  have hrun : (orNotFound (fetch c context codec)).run = (fetch c context codec).run.bind fun
      | .ok a => .done (.ok (some a))
      | .error (.notFound _) => .done (.ok none)
      | .error e => .done (.error e) := rfl
  rw [hrun, fetch_run, bind_ask]
  refine congrArg (Dialogue.ask c) (funext fun x => ?_)
  rw [bind_done, looked]
  split <;> rfl

theorem fetched_notFound {message : String} (h : fetched codec context x = .error (.notFound message)) :
    x = .error (.notFound message) ∨ ∃ reply, x = .ok reply ∧ reply.status = 404 := by
  rcases except_bind_error_iff.1 h with h | ⟨r, -, h⟩
  · rcases except_bind_error_iff.1 h with h | ⟨reply, hx, h⟩
    · exact .inl h
    · obtain ⟨-, he⟩ := Reply.checked_error_iff.1 h
      have hstatus : toldStatus reply.status = 404 := by
        rw [← Failure.ofStatus_status reply.status context reply.body, ← he]
        rfl
      rw [toldStatus] at hstatus
      split at hstatus
      · exact .inr ⟨reply, hx, hstatus⟩
      · cases hstatus
  · cases (Reply.read_error h).1

theorem looked_ok_iff (context : String) {r : Option α} (replied : ∀ message, x ≠ .error (.notFound message)) :
    looked codec context x = .ok r ↔ Finds codec x r := by
  cases r with
  | some a =>
    rw [looked, Finds, ← fetched_ok_iff context]
    split <;> simp_all
  | none =>
    rw [looked]
    constructor
    · intro h
      split at h
      · cases h
      next message he => exact (fetched_notFound he).resolve_left (replied message)
      · cases h
    · rintro ⟨reply, rfl, hstatus⟩
      have hrefused : reply.isSuccess = false := by simp [Reply.isSuccess, hstatus]
      have hchecked : reply.checked context = .error (.ofStatus 404 context reply.body) :=
        Reply.checked_error_iff.2 ⟨hrefused, by rw [hstatus]⟩
      have hfetched : fetched codec context (.ok reply) = .error (.ofStatus 404 context reply.body) := by
        rw [fetched, except_ok_bind, hchecked]
        rfl
      rw [hfetched]
      rfl

end Remote

/-! ## Tokens -/

namespace Identity

/-- A claim of a token names a role: as its text, or among the texts of its list. -/
def Names (claims : Json) (claim role : String) : Prop :=
  claims.get? claim = some (.str role) ∨ ∃ items, claims.get? claim = some (.arr items) ∧ .str role ∈ items

theorem mem_rolesOf_iff {claims : Json} {claim role : String} :
    role ∈ Verifier.rolesOf (claims.get? claim) ↔ Names claims claim role := by
  rw [Names]
  generalize claims.get? claim = value
  have htext : ∀ v : Json, v.str? = some role ↔ v = .str role := by
    intro v
    cases v <;> simp [Json.str?]
  cases value with
  | none => simp [Verifier.rolesOf]
  | some v => cases v <;> simp [Verifier.rolesOf, htext, eq_comm]

/-- A token proves the role of administrators: it is valid, and names the role up to the case of A to Z. -/
def ProvesAdmin (auth : Config.Auth) (key : TokenKey) (now : Instant) (token : String) : Prop :=
  ∃ claims role, checkToken key now.seconds token = .ok claims ∧ Names claims auth.rolesClaim role ∧
    Text.asciiLower role = Text.asciiLower auth.adminRole

theorem isAdmin_holderOf_iff {v : Verifier} {claims : Json} :
    v.isAdmin (Verifier.holderOf v.rolesClaim claims) = true ↔
      ∃ role, Names claims v.rolesClaim role ∧ Text.asciiLower role = Text.asciiLower v.adminRole := by
  simp only [Verifier.isAdmin, Verifier.holderOf, List.any_eq_true, mem_rolesOf_iff, Text.eqIgnoringAsciiCase,
    beq_iff_eq, Text.asciiLower, String.ofList_inj]

theorem Verifier.verify_ok_iff {v : Verifier} {now : Int} {token : String} {holder : Holder} :
    v.verify now token = .ok holder ↔
      ∃ claims, checkToken v.key now token = .ok claims ∧ holder = holderOf v.rolesClaim claims := by
  rw [verify]
  cases checkToken v.key now token <;> simp [eq_comm]

/-- The verifier of a configuration looks for the role that the configuration names, and there is one
when a key is configured. -/
theorem Verifier.ofConfig_ok {auth : Config.Auth} {read : String → Except String String}
    {verifier : Option Verifier} (h : ofConfig auth read = .ok verifier) :
    (verifier = none ↔ auth.publicKeyPath = none ∧ auth.secret = none) ∧
      ∀ v, verifier = some v → v.rolesClaim = auth.rolesClaim ∧ v.adminRole = auth.adminRole := by
  rw [ofConfig] at h
  split at h
  next path _ hpath =>
    split at h
    · cases h
    · split at h
      · cases h
      · cases h
        simp [hpath]
  next s hpath hsecret =>
    cases h
    simp [hsecret]
  next hpath hsecret =>
    cases h
    simp [hpath, hsecret]

end Identity

/-! ## Logins -/

theorem Session.has_opened_iff {id lfId userId keys idToken cs created} {cap : Capability} :
    (Session.opened id lfId userId keys idToken cs created).has cap = true ↔ cap = .authenticated ∨ cap ∈ cs := by
  have hall : cap ∈ Capability.all := by cases cap <;> decide
  simp [Session.opened, Session.has, Capability.set, hall]

namespace Login

variable {l : Login} {verifier : Option Identity.Verifier} {account : Credentials} {m : Moment}

/-- The login as it would be without a token. -/
def tokenless (l : Login) : Login := { l with idToken := none }

/-- The exchange of the identity for keys. -/
def exchange (l : Login) (account : Credentials) : Call :=
  Platform.get account (Platform.keysPath l.identity)

/-- The lookup of the identity's user record. -/
def lookup (l : Login) (keys : ApiKeys) : Call :=
  Platform.get (.signed keys) (Platform.userPath l.identity)

/-- What is found out about an identity: its keys, and its record if there is one. -/
def known (l : Login) (account : Credentials) : Remote (ApiKeys × Option PlatformUser) := do
  let keys ← Platform.keys account l.identity
  let record ← Remote.orNotFound (Platform.user (.signed keys) l.identity)
  return (keys, record)

theorem perform_unnamed (unnamed : l.identity = "") :
    (l.perform verifier account m).run = .done (.error (.validation "lfId must not be empty")) := by
  rw [perform, if_pos (by simp [unnamed])]
  rfl

/-- Nothing is asked on behalf of a token that does not count. -/
theorem perform_refused {e : Failure} (named : l.identity ≠ "")
    (refused : l.tokenCapabilities verifier m.now = .error e) :
    (l.perform verifier account m).run = .done (.error e) := by
  rw [perform, if_neg (by simpa using named), refused]
  rfl

/-- Whoever signs in gets a session from what is found out and from what the token proves. -/
theorem perform_run {proved : List Capability} (named : l.identity ≠ "")
    (checked : l.tokenCapabilities verifier m.now = .ok proved) :
    (l.perform verifier account m).run =
      (l.known account).run.bind fun x => .done (x.map fun k => l.session m k.1 k.2 proved) := by
  rw [perform, if_neg (by simpa using named), checked, Remote.ofExcept_ok_bind]
  -- The token has been dealt with; from here on both sides ask the same and go on with every answer alike.
  refine Eq.trans ?_ (bind_assoc (Platform.keys account l.identity).run _ _).symm
  refine congrArg (Dialogue.bind _) (funext fun x => ?_)
  cases x with
  | error e => rfl
  | ok keys =>
    refine Eq.trans ?_ (bind_assoc (Remote.orNotFound (Platform.user (.signed keys) l.identity)).run _ _).symm
    refine congrArg (Dialogue.bind _) (funext fun y => ?_)
    cases y <;> rfl

theorem known_run : (l.known account).run = .ask (l.exchange account) fun x =>
    match Remote.fetched ApiKeys.codec ("Unable to get keys for LfId of [" ++ l.identity ++ "]") x with
    | .error e => .done (.error e)
    | .ok keys => .ask (l.lookup keys) fun y => .done
        ((Remote.looked PlatformUser.codec (Platform.aboutUser l.identity "could not be retrieved") y).map (keys, ·)) := by
  have hrun : (l.known account).run = (Platform.keys account l.identity).run.bind fun
      | .error e => .done (.error e)
      | .ok keys => (Remote.orNotFound (Platform.user (.signed keys) l.identity)).run.bind fun
        | .error e => .done (.error e)
        | .ok record => .done (.ok (keys, record)) := by
    refine congrArg (Dialogue.bind _) (funext fun x => ?_)
    cases x with
    | error e => rfl
    | ok keys => refine congrArg (Dialogue.bind _) (funext fun y => ?_); cases y <;> rfl
  rw [hrun, Platform.keys, Remote.fetch_run, bind_ask]
  refine congrArg (Dialogue.ask _) (funext fun x => ?_)
  rw [bind_done]
  split
  · rfl
  next keys _ =>
    rw [Platform.user, Remote.orNotFound_fetch_run, bind_ask]
    refine congrArg (Dialogue.ask _) (funext fun y => ?_)
    rw [bind_done]
    split <;> rename_i h <;> rw [h] <;> rfl

/-- What comes of a login. -/
def handled : Except Failure Session → Handled
  | .ok s => ⟨.ok s.grant, .opens s⟩
  | .error e => .only (.ofFailure e)

/-- What a login proves of whoever signs in: that it is someone; the roles that the groups of the record
are named for; and the role of administrators, when a token that is checked names it. -/
def Proves (l : Login) (auth : Config.Auth) (verifier : Option Identity.Verifier) (now : Instant)
    (record : Option PlatformUser) : Capability → Prop
  | .authenticated => True
  | .admin => (∃ u g, record = some u ∧ g ∈ u.groups ∧ g.name = "ADMIN") ∨
      ∃ v token, verifier = some v ∧ l.idToken = some token ∧ Identity.ProvesAdmin auth v.key now token
  | .projectManager => ∃ u g, record = some u ∧ g ∈ u.groups ∧ g.name = "PROJECT_MANAGER"

/-- The token is checked, and does not count. -/
def Refused (l : Login) (verifier : Option Identity.Verifier) (now : Instant) : Prop :=
  ∃ v token fault, verifier = some v ∧ l.idToken = some token ∧
    Identity.checkToken v.key now.seconds token = .error fault

theorem tokenCapabilities_checked {v : Identity.Verifier} {token : String} {now : Instant}
    (htoken : l.idToken = some token) : l.tokenCapabilities (some v) now =
      (v.verify now.seconds token).map fun holder => if v.isAdmin holder then [.admin] else [] := by
  simp only [tokenCapabilities, htoken]

theorem tokenCapabilities_refused (h : l.Refused verifier m.now) :
    ∃ detail, l.tokenCapabilities verifier m.now = .error (.unauthorized detail) := by
  obtain ⟨v, token, fault, rfl, htoken, hcheck⟩ := h
  refine ⟨"Invalid id token: " ++ fault.text, ?_⟩
  rw [tokenCapabilities_checked htoken, Identity.Verifier.verify, hcheck]
  rfl

/-- A token that counts proves at most the role of administrators, and does so when it names it. -/
theorem tokenCapabilities_proves {auth : Config.Auth} {read : String → Except String String}
    (made : Identity.Verifier.ofConfig auth read = .ok verifier) (h : ¬ l.Refused verifier m.now) :
    ∃ proved, l.tokenCapabilities verifier m.now = .ok proved ∧ ∀ cap, cap ∈ proved ↔ cap = .admin ∧
      ∃ v token, verifier = some v ∧ l.idToken = some token ∧ Identity.ProvesAdmin auth v.key m.now token := by
  obtain ⟨-, hrole⟩ := Identity.Verifier.ofConfig_ok made
  cases htoken : l.idToken with
  | none => exact ⟨[], by simp only [tokenCapabilities, htoken], by simp⟩
  | some token =>
    cases verifier with
    | none => exact ⟨[], by simp only [tokenCapabilities, htoken], by simp⟩
    | some v =>
      obtain ⟨hclaim, hadmin⟩ := hrole v rfl
      cases hcheck : Identity.checkToken v.key m.now.seconds token with
      | error fault => exact absurd ⟨v, token, fault, rfl, htoken, hcheck⟩ h
      | ok claims =>
        have hproves : Identity.ProvesAdmin auth v.key m.now token ↔
            v.isAdmin (Identity.Verifier.holderOf v.rolesClaim claims) = true := by
          rw [Identity.isAdmin_holderOf_iff, Identity.ProvesAdmin, hclaim, hadmin, hcheck]
          simp
        rw [tokenCapabilities_checked htoken, Identity.Verifier.verify, hcheck]
        refine ⟨_, rfl, fun cap => ?_⟩
        simp [hproves, and_comm]

theorem mem_roleCapabilities_iff {u : PlatformUser} {cap : Capability} :
    cap ∈ roleCapabilities u.roles ↔ (cap = .admin ∧ ∃ g ∈ u.groups, g.name = "ADMIN") ∨
      (cap = .projectManager ∧ ∃ g ∈ u.groups, g.name = "PROJECT_MANAGER") := by
  have hgroup : ∀ name, u.inGroup name = true ↔ ∃ g ∈ u.groups, g.name = name := by
    intro name
    simp [PlatformUser.inGroup]
  simp only [roleCapabilities, PlatformUser.roles, ← hgroup, List.mem_append]
  by_cases hadmin : u.inGroup "ADMIN" = true <;>
    by_cases hmanager : u.inGroup "PROJECT_MANAGER" = true <;> simp [hadmin, hmanager]

/-- The session may do what is proved, and nothing else. -/
theorem session_has_iff {auth : Config.Auth} {keys : ApiKeys} {record : Option PlatformUser}
    {proved : List Capability} (hproved : ∀ cap, cap ∈ proved ↔ cap = .admin ∧
      ∃ v token, verifier = some v ∧ l.idToken = some token ∧ Identity.ProvesAdmin auth v.key m.now token)
    (cap : Capability) :
    (l.session m keys record proved).has cap = true ↔ l.Proves auth verifier m.now record cap := by
  rw [session, Session.has_opened_iff, List.mem_append, hproved]
  cases record with
  | none => cases cap <;> simp [Proves]
  | some u =>
    simp only [Option.map_some, Option.getD_some, mem_roleCapabilities_iff]
    cases cap <;> simp [Proves, or_comm]

section

variable {keys : ApiKeys} {record : Option PlatformUser} {proved : List Capability}

/-- A token leaves a session as it would be without, but for the token and what the session may do. -/
theorem session_eq_tokenless : l.session m keys record proved =
    { l.tokenless.session m keys record [] with
      idToken := l.idToken, capabilities := (l.session m keys record proved).capabilities } := rfl

theorem session_has_tokenless_iff {cap : Capability} : (l.session m keys record proved).has cap = true ↔
    (l.tokenless.session m keys record []).has cap = true ∨ cap ∈ proved := by
  simp only [session, Session.has_opened_iff, List.mem_append, List.not_mem_nil, false_or]
  rw [or_assoc, or_comm (a := cap ∈ proved)]

end

end Login

namespace Console

variable {c : Console} {m : Moment} {store : SessionStore} {i : Incoming} {l : Login} {world : World}

theorem handle_login (path : Target.ofPath? i.path = some (.free .login))
    (body : FreeOperation.read? .login i = some (.ok (.login l))) :
    c.handle m store i = (l.perform c.verifier c.account m).run.bind fun x => .done (Login.handled x) := by
  have hverb : i.verb ≠ .head := by
    intro hhead
    have hasked := (Prod.mk.inj (FreeOperation.asked_of_read? body)).1
    rw [hhead] at hasked
    cases hasked
  rw [handle, serve, path, bind_eq]
  simp only [serveFree, body, performFree, bind_eq, bind_assoc]
  refine congrArg (Dialogue.bind _) (funext fun x => ?_)
  cases x <;> simp [hverb, Login.handled]

/-- What the exchange of a login comes back with. -/
def exchanged (c : Console) (m : Moment) (world : World) (l : Login) : Except Failure Reply :=
  (c.link m.now).outcome world [] (l.exchange c.account)

/-- What the lookup with the keys of the exchange comes back with. -/
def lookedUp (c : Console) (m : Moment) (world : World) (l : Login) (keys : ApiKeys) : Except Failure Reply :=
  (c.link m.now).outcome world ((c.link m.now).after world [] (l.exchange c.account)) (l.lookup keys)

/-- What is found out about an identity in a world. -/
def found (c : Console) (m : Moment) (world : World) (l : Login) : Except Failure (ApiKeys × Option PlatformUser) :=
  ((c.link m.now).run (l.known c.account).run).result world []

theorem found_ok_iff {keys : ApiKeys} {record : Option PlatformUser} :
    c.found m world l = .ok (keys, record) ↔
      Yields ApiKeys.codec (c.exchanged m world l) keys ∧ Finds PlatformUser.codec (c.lookedUp m world l keys) record := by
  have hreplied : ∀ message, c.lookedUp m world l keys ≠ .error (.notFound message) := Link.outcome_ne_notFound
  rw [← Remote.looked_ok_iff (Platform.aboutUser l.identity "could not be retrieved") hreplied,
    ← Remote.fetched_ok_iff ("Unable to get keys for LfId of [" ++ l.identity ++ "]"),
    found, Login.known_run, Link.result_run_ask]
  rw [show (c.link m.now).outcome world [] (l.exchange c.account) = c.exchanged m world l from rfl]
  cases Remote.fetched ApiKeys.codec ("Unable to get keys for LfId of [" ++ l.identity ++ "]") (c.exchanged m world l) with
  | error e =>
    constructor
    · intro h
      cases h
    · rintro ⟨h, -⟩
      cases h
  | ok keys' =>
    simp only
    rw [Link.result_run_ask, Link.result_run_done, except_map_ok_iff]
    constructor
    · rintro ⟨record', hrecord, h⟩
      cases h
      exact ⟨rfl, hrecord⟩
    · rintro ⟨h, hrecord⟩
      cases h
      exact ⟨record, hrecord, rfl⟩

/-- Without a name nobody signs in. -/
theorem handle_unnamed (path : Target.ofPath? i.path = some (.free .login))
    (body : FreeOperation.read? .login i = some (.ok (.login l))) (unnamed : l.identity = "") :
    c.handle m store i = .done (.only (.ofFailure (.validation "lfId must not be empty"))) := by
  rw [handle_login path body, Login.perform_unnamed unnamed]
  rfl

/-- A login whose token, if it is checked, counts: the session is that of what is found out. -/
theorem handle_signIn {proved : List Capability} (path : Target.ofPath? i.path = some (.free .login))
    (body : FreeOperation.read? .login i = some (.ok (.login l))) (named : l.identity ≠ "")
    (checked : l.tokenCapabilities c.verifier m.now = .ok proved) :
    c.handle m store i = (l.known c.account).run.bind fun x =>
      .done (Login.handled (x.map fun k => l.session m k.1 k.2 proved)) := by
  rw [handle_login path body, Login.perform_run named checked, bind_assoc]
  rfl

section

variable {proved : List Capability} (path : Target.ofPath? i.path = some (.free .login))
  (body : FreeOperation.read? .login i = some (.ok (.login l))) (named : l.identity ≠ "")
  (checked : l.tokenCapabilities c.verifier m.now = .ok proved)

include path body named checked

theorem result_signIn : ((c.link m.now).run (c.handle m store i)).result world [] =
    Login.handled ((c.found m world l).map fun k => l.session m k.1 k.2 proved) := by
  rw [handle_signIn path body named checked, Link.run_bind, result_bind, Link.result_run_done, found]

theorem questions_signIn : ((c.link m.now).run (c.handle m store i)).questions world [] =
    ((c.link m.now).run (l.known c.account).run).questions world [] := by
  rw [handle_signIn path body named checked, Link.run_bind, questions_bind, Link.questions_run_done]

end

/-- **What signing in grants.** A token that is checked and does not count is answered 401 before any
call. Otherwise a login is answered 200 exactly when the exchange gives keys and the lookup gives a record
or is answered 404; the session is then that of the identity, with the keys and the token, and the id of
the record, or the identity when the record has none. It may do what is proved, and nothing else. Tokens
are checked when a key is configured. -/
theorem login_grants_what_is_proved {config : Config} {read : String → Except String String}
    (made : ofConfig config read = .ok c) (path : Target.ofPath? i.path = some (.free .login))
    (body : FreeOperation.read? .login i = some (.ok (.login l))) (named : l.identity ≠ "") :
    (l.Refused c.verifier m.now →
      ∃ h, c.handle m store i = .done h ∧ h.answer.status = 401 ∧ h.change = .keep) ∧
    (¬ l.Refused c.verifier m.now → ∀ world : World,
      let h := ((c.link m.now).run (c.handle m store i)).result world []
      (h.answer.status = 200 ↔ ∃ keys record, Yields ApiKeys.codec (c.exchanged m world l) keys ∧
        Finds PlatformUser.codec (c.lookedUp m world l keys) record) ∧
      ∀ keys record, Yields ApiKeys.codec (c.exchanged m world l) keys →
        Finds PlatformUser.codec (c.lookedUp m world l keys) record →
        ∃ s, h = ⟨.ok s.grant, .opens s⟩ ∧ s.id = m.freshId ∧ s.lfId = l.identity ∧ s.keys = keys ∧
          s.idToken = l.idToken ∧ s.userId = record.map (fun u => u.userId.getD l.identity) ∧
          ∀ cap, s.has cap = true ↔ l.Proves config.auth c.verifier m.now record cap) ∧
    (c.verifier = none ↔ config.auth.publicKeyPath = none ∧ config.auth.secret = none) := by
  obtain ⟨verifier, hverifier, hc⟩ := except_bind_ok_iff.1 made
  cases hc
  refine ⟨fun refused => ?_, fun accepted world => ?_, (Identity.Verifier.ofConfig_ok hverifier).1⟩
  · obtain ⟨detail, hrefused⟩ := Login.tokenCapabilities_refused refused
    rw [handle_login path body, Login.perform_refused named hrefused, bind_done]
    exact ⟨_, rfl, rfl, rfl⟩
  · obtain ⟨proved, hchecked, hproved⟩ := Login.tokenCapabilities_proves hverifier accepted
    have hopened : ∀ {keys record}, found ⟨config, verifier⟩ m world l = .ok (keys, record) →
        ((link ⟨config, verifier⟩ m.now).run (handle ⟨config, verifier⟩ m store i)).result world [] =
          Login.handled (.ok (l.session m keys record proved)) := by
      intro keys record h
      rw [result_signIn path body named hchecked, h]
      rfl
    refine ⟨⟨fun hstatus => ?_, ?_⟩, fun keys record hkeys hrecord => ?_⟩
    · cases hfound : found ⟨config, verifier⟩ m world l with
      | error e =>
        -- Every failure has a status of 400 or above.
        rw [result_signIn path body named hchecked, hfound] at hstatus
        have hlow : e.status = 200 := hstatus
        have := e.le_status
        omega
      | ok k => exact ⟨k.1, k.2, found_ok_iff.1 hfound⟩
    · rintro ⟨keys, record, h⟩
      rw [hopened (found_ok_iff.2 h)]
      rfl
    · exact ⟨l.session m keys record proved, hopened (found_ok_iff.2 ⟨hkeys, hrecord⟩), rfl, rfl, rfl, rfl, rfl,
        Login.session_has_iff hproved⟩

/-- **What a token adds.** A login with a token that counts, whoever is its subject, asks what it would
ask without the token, and opens a session when it would without. The session is the same one with the
token, and may do the same; but it is also an administrator's when the token names that role. -/
theorem token_adds_its_role {i' : Incoming} {v : Identity.Verifier} {token : String} {holder : Identity.Holder}
    (path : Target.ofPath? i.path = some (.free .login)) (path' : Target.ofPath? i'.path = some (.free .login))
    (body : FreeOperation.read? .login i = some (.ok (.login l)))
    (body' : FreeOperation.read? .login i' = some (.ok (.login l.tokenless)))
    (checks : c.verifier = some v) (carried : l.idToken = some token)
    (counts : v.verify m.now.seconds token = .ok holder) (world : World) :
    let run := (c.link m.now).run (c.handle m store i)
    let run' := (c.link m.now).run (c.handle m store i')
    run.questions world [] = run'.questions world [] ∧
      ((∃ s, (run.result world []).change = .opens s) ↔ ∃ s, (run'.result world []).change = .opens s) ∧
      ∀ s s', (run.result world []).change = .opens s → (run'.result world []).change = .opens s' →
        s = { s' with idToken := some token, capabilities := s.capabilities } ∧
        (∀ cap, s.has cap = true ↔ s'.has cap = true ∨ cap = .admin ∧ v.isAdmin holder = true) ∧
        (v.isAdmin holder = false → s.capabilities = s'.capabilities) := by
  intro run run'
  by_cases named : l.identity = ""
  · have hrun : run = .done _ := congrArg _ (handle_unnamed path body named)
    have hrun' : run' = .done _ := congrArg _ (handle_unnamed path' body' named)
    rw [hrun, hrun']
    refine ⟨rfl, Iff.rfl, fun s s' h => ?_⟩
    cases h
  have hproved : l.tokenCapabilities c.verifier m.now = .ok (if v.isAdmin holder then [.admin] else []) := by
    rw [checks, Login.tokenCapabilities_checked carried, counts]
    rfl
  have hnone : l.tokenless.tokenCapabilities c.verifier m.now = .ok [] := rfl
  -- Once the token counts, what is asked and found does not depend on it.
  have hquestions : run.questions world [] = run'.questions world [] :=
    (questions_signIn path body named hproved).trans (questions_signIn path' body' named hnone).symm
  have hresult : run.result world [] = Login.handled ((c.found m world l).map fun k =>
    l.session m k.1 k.2 (if v.isAdmin holder then [.admin] else [])) := result_signIn path body named hproved
  have hresult' : run'.result world [] = Login.handled ((c.found m world l).map fun k =>
    l.tokenless.session m k.1 k.2 []) := result_signIn path' body' named hnone
  rw [hresult, hresult']
  refine ⟨hquestions, ?_⟩
  cases c.found m world l with
  | error e =>
    refine ⟨Iff.rfl, fun s s' h => ?_⟩
    cases h
  | ok k =>
    refine ⟨⟨fun _ => ⟨_, rfl⟩, fun _ => ⟨_, rfl⟩⟩, fun s s' h h' => ?_⟩
    cases h
    cases h'
    refine ⟨carried ▸ Login.session_eq_tokenless, fun cap => ?_, fun hnot => ?_⟩
    · rw [Login.session_has_tokenless_iff]
      simp [and_comm]
    · rw [if_neg (by simp [hnot])]
      rfl

end Console

/-! ## A token of someone else -/

namespace Sample

/-- A console that checks tokens with a shared secret. -/
def checking : Console where
  config := { console.config with auth := ⟨some "secret", none, "roles", "cla-system-admin"⟩ }
  verifier := some ⟨.secret (Text.utf8 "secret"), "roles", "cla-system-admin"⟩

theorem checking_made (read : String → Except String String) :
    Console.ofConfig checking.config read = .ok checking := rfl

/-- A token whose subject is `bob`, who is an administrator. -/
def token : String :=
  "eyJhbGciOiJIUzI1NiJ9." ++
    "eyJleHAiOjQxMDI0NDQ4MDAsInJvbGVzIjoiY2xhLXN5c3RlbS1hZG1pbiIsInN1YiI6ImJvYiJ9." ++
    "Z7ScbV2PqVtLI0klM6_XTOZacuBs6IXB7EG33bx6eZY"

theorem token_counts {v : Identity.Verifier} (checks : checking.verifier = some v) :
    v.verify moment.now.seconds token = .ok ⟨some "bob", ["cla-system-admin"]⟩ := by
  cases checks
  exact except_toOption_eq_some_iff.1 (by decide +kernel)

theorem token_isAdmin {v : Identity.Verifier} (checks : checking.verifier = some v) :
    v.isAdmin ⟨some "bob", ["cla-system-admin"]⟩ = true := by
  cases checks
  decide

/-- Someone else signs in, with the token or without. -/
def eve : Login := ⟨"eve", some token⟩

def signInOf (l : Login) : Incoming :=
  ⟨.post, "/login", none, some "application/json",
    (Json.obj [("lfId", .str l.lfId), ("idToken", .ofOption l.idToken)]).compact⟩

def eveText : String := "\x7b\"lfId\": \"eve\", \"groups\": [\x7b\"name\": \"PROJECT_MANAGER\"\x7d]\x7d"

/-- Services that know her, as the manager of a project. -/
def eveWorld : World := fun _ r =>
  match r.call.path with
  | "auth/trusted/cas/eve" => some ⟨200, keysText⟩
  | "users/eve/" => some ⟨200, eveText⟩
  | _ => none

theorem signInOf_path (l : Login) : Target.ofPath? (signInOf l).path = some (.free .login) := by
  simp only [Incoming.path, Incoming.address, signInOf]
  decide

theorem eve_read : FreeOperation.read? .login (signInOf eve) = some (.ok (.login eve)) :=
  option_bind_toOption_eq_some_iff.1 (by decide +kernel)

theorem eve_tokenless_read :
    FreeOperation.read? .login (signInOf eve.tokenless) = some (.ok (.login eve.tokenless)) :=
  option_bind_toOption_eq_some_iff.1 (by decide +kernel)

theorem eve_named : eve.identity ≠ "" := by decide

theorem eve_found : checking.found moment eveWorld eve =
    .ok (⟨"k", "s"⟩, some ⟨none, "eve", none, [⟨none, "PROJECT_MANAGER"⟩], none⟩) := by
  refine Console.found_ok_iff.2 ⟨⟨⟨200, keysText⟩, Link.outcome_ok (by decide +kernel) fun r hr => ?_, rfl, ?_⟩,
    ⟨⟨200, eveText⟩, Link.outcome_ok (by decide +kernel) fun r hr => ?_, rfl, ?_⟩⟩
  · rw [eveWorld, hr]
    rfl
  · exact except_toOption_eq_some_iff.1 (by decide +kernel)
  · rw [eveWorld, hr]
    rfl
  · exact except_toOption_eq_some_iff.1 (by decide +kernel)

/-- She signs in either way, with other capabilities. -/
theorem eve_opens : ∃ s s',
    (((checking.link moment.now).run (checking.handle moment .empty (signInOf eve))).result eveWorld []).change =
      .opens s ∧
    (((checking.link moment.now).run (checking.handle moment .empty (signInOf eve.tokenless))).result eveWorld
      []).change = .opens s' ∧ s.capabilities ≠ s'.capabilities := by
  have hproved : eve.tokenCapabilities checking.verifier moment.now = .ok [.admin] := by
    have hverifier : checking.verifier = some ⟨.secret (Text.utf8 "secret"), "roles", "cla-system-admin"⟩ := rfl
    have htoken : eve.idToken = some token := rfl
    rw [hverifier, Login.tokenCapabilities_checked htoken, token_counts hverifier]
    rfl
  have hnone : eve.tokenless.tokenCapabilities checking.verifier moment.now = .ok [] := rfl
  have hfound : checking.found moment eveWorld eve.tokenless = _ := eve_found
  refine ⟨eve.session moment ⟨"k", "s"⟩ (some ⟨none, "eve", none, [⟨none, "PROJECT_MANAGER"⟩], none⟩) [.admin],
    eve.tokenless.session moment ⟨"k", "s"⟩ (some ⟨none, "eve", none, [⟨none, "PROJECT_MANAGER"⟩], none⟩) [], ?_, ?_, ?_⟩
  · rw [Console.result_signIn (signInOf_path eve) eve_read eve_named hproved, eve_found]
    rfl
  · rw [Console.result_signIn (signInOf_path eve.tokenless) eve_tokenless_read eve_named hnone, hfound]
    rfl
  · decide

/-- What she may do with the token is what it takes from `bob`. -/
theorem eve_gains_role : ∃ s s',
    (((checking.link moment.now).run (checking.handle moment .empty (signInOf eve))).result eveWorld []).change =
      .opens s ∧
    (((checking.link moment.now).run (checking.handle moment .empty (signInOf eve.tokenless))).result eveWorld
      []).change = .opens s' ∧
    ∀ cap, s.has cap = true ↔ s'.has cap = true ∨ cap = .admin := by
  obtain ⟨s, s', h, h', -⟩ := eve_opens
  obtain ⟨v, hv⟩ : ∃ v, checking.verifier = some v := ⟨_, rfl⟩
  have hadmin := token_isAdmin hv
  obtain ⟨-, -, hadds⟩ := Console.token_adds_its_role (signInOf_path eve) (signInOf_path eve.tokenless) eve_read
    eve_tokenless_read hv rfl (token_counts hv) eveWorld
  refine ⟨s, s', h, h', fun cap => ?_⟩
  rw [(hadds s s' h h').2.1 cap, hadmin, and_iff_left rfl]

/-- A token does not only speak for its own subject: the role of `bob` is given to `eve`. -/
theorem token_speaks_for_another :
    ¬ ∀ (c : Console) (m : Moment) (store : SessionStore) (world : World) (i i' : Incoming) (l : Login)
      (v : Identity.Verifier) (token subject : String) (holder : Identity.Holder),
      Target.ofPath? i.path = some (.free .login) → Target.ofPath? i'.path = some (.free .login) →
      FreeOperation.read? .login i = some (.ok (.login l)) →
      FreeOperation.read? .login i' = some (.ok (.login l.tokenless)) →
      c.verifier = some v → l.idToken = some token → v.verify m.now.seconds token = .ok holder →
      holder.subject = some subject → subject ≠ l.identity →
      ∀ s s', (((c.link m.now).run (c.handle m store i)).result world []).change = .opens s →
        (((c.link m.now).run (c.handle m store i')).result world []).change = .opens s' →
        s.capabilities = s'.capabilities := by
  intro claim
  obtain ⟨s, s', h, h', hdiffer⟩ := eve_opens
  obtain ⟨v, hv⟩ : ∃ v, checking.verifier = some v := ⟨_, rfl⟩
  have hanother : "bob" ≠ eve.identity := by decide
  exact hdiffer (claim checking moment .empty eveWorld _ _ eve v token "bob" _ (signInOf_path eve)
    (signInOf_path eve.tokenless) eve_read eve_tokenless_read hv rfl (token_counts hv) rfl hanother s s' h h')

/-- She signs in as an administrator by the token and as a manager by her record. -/
theorem eve_signs_in : ∃ s,
    ((checking.link moment.now).run (checking.handle moment .empty (signInOf eve))).result eveWorld [] =
      ⟨.ok s.grant, .opens s⟩ ∧ s.userId = some "eve" ∧ s.has .admin = true ∧ s.has .projectManager = true := by
  obtain ⟨v, hv⟩ : ∃ v, checking.verifier = some v := ⟨_, rfl⟩
  obtain ⟨claims, hclaims, hholder⟩ := Identity.Verifier.verify_ok_iff.1 (token_counts hv)
  have haccepted : ¬ eve.Refused checking.verifier moment.now := by
    rintro ⟨v', _, fault, hv', ⟨⟩, hfault⟩
    obtain rfl : v = v' := Option.some.inj (hv.symm.trans hv')
    have hboth : (.ok claims : Except Identity.TokenFault Json) = .error fault := hclaims.symm.trans hfault
    cases hboth
  have hproves : Identity.ProvesAdmin checking.config.auth v.key moment.now token := by
    have hadmin := token_isAdmin hv
    rw [hholder, Identity.isAdmin_holderOf_iff] at hadmin
    obtain ⟨role, hnames, hrole⟩ := hadmin
    cases hv
    exact ⟨claims, role, hclaims, hnames, hrole⟩
  obtain ⟨-, hsigned, -⟩ := @Console.login_grants_what_is_proved checking moment .empty _ eve _ _
    (checking_made fun _ => .error "") (signInOf_path eve) eve_read eve_named
  obtain ⟨hkeys, hrecord⟩ := Console.found_ok_iff.1 eve_found
  obtain ⟨s, hs, -, -, -, -, huser, hmay⟩ := (hsigned haccepted eveWorld).2 _ _ hkeys hrecord
  exact ⟨s, hs, huser, (hmay .admin).2 (.inr ⟨v, token, hv, rfl, hproves⟩),
    (hmay .projectManager).2 ⟨_, _, rfl, List.mem_singleton.2 rfl, rfl⟩⟩

end Sample

end SignatureDesk
