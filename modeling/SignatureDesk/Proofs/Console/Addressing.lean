/-
Which endpoints the console calls, and where its calls go. `Operation.calls` is
the table: the endpoints that an operation may call, with the ids that it is
told. Every part of the work is shown to call endpoints of its own row only;
what the services reply plays no role in it, except that the id of a signature
comes from them.
-/
import SignatureDesk.Proofs.Console.Corporate
import SignatureDesk.Proofs.Remote.Placement

namespace SignatureDesk

open Dialogue

/-- The call is one at such an endpoint. -/
def Call.IsAt (among : Endpoint String → Prop) (c : Call) : Prop :=
  ∃ e pairs, among e ∧ c.service = e.service ∧ e.CalledAt pairs c.path

/-! ## The table -/

/-- The endpoints that an operation may call for a session. -/
def Operation.calls (s : Session) : Operation → Endpoint String → Prop
  | logout => fun _ => False
  | currentUser => (· = .user (s.userId.getD s.lfId))
  | users | createUser _ => (· = .users)
  | roles => (· = .groups)
  | user u | updateUser u _ | removeUser u => (· = .user u)
  | addRole u _ => (· = .userGroups u)
  | removeRole u g => (· = .userGroup u g)
  | managedProjects => (· = .managedProjects)
  | projects => (· = .projects)
  | project p => (· = .project p)
  | projectMembers p => (· = .projectMembers p)
  | projectSignatures p _ _ => (· = .listing p)
  | createCompany _ => (· = .companies)
  | requestInvite c => (· = .invite c)
  | companyProject c p => fun e =>
    e ∈ [.claProject p, .company c, .corporate c p, .employees c p, .organizations c p] ∨
      ∃ signatureId, e = .managers signatureId
  | editAllowList _ c p _ _ => fun e => e ∈ [.corporate c p, .approvals p c, .organizations c p]
  | addManager c p _ => fun e => e = .corporate c p ∨ ∃ signatureId, e = .managers signatureId
  | removeManager c p l => fun e =>
    e = .corporate c p ∨ ∃ signatureId, e = .managers signatureId ∨ e = .manager signatureId l

/-- The endpoints that a free operation may call. -/
def FreeOperation.calls : FreeOperation → Endpoint String → Prop
  | health => fun _ => False
  | status => (· = .version)
  | login l => fun e => e = .keys l.identity ∨ e = .user l.identity

/-- The endpoints that a request may have called. -/
def Console.mayCall (store : SessionStore) (i : Incoming) (e : Endpoint String) : Prop :=
  match Target.ofPath? i.path with
  | none => False
  | some (.free r) => ∃ o, FreeOperation.read? r i = some (.ok o) ∧ o.calls e
  | some (.guarded r) =>
    ∃ s o, sessionOf store i = .ok s ∧ Operation.read? r i = some (.ok o) ∧ o.calls s e

/-! ## Searches -/

section

variable {α : Type} {among : Endpoint String → Prop} {creds : Credentials}

/-- The endpoint that a lookup is made at. -/
def Lookup.endpoint : Lookup → Endpoint String
  | company c => .company c
  | project p => .claProject p
  | corporate c p => .corporate c p
  | employees c p => .employees c p
  | page p _ => .listing p
  | organizations c p => .organizations c p
  | managers s => .managers s

theorem Lookup.asks_ask {q : Lookup} (h : among q.endpoint) :
    Asks (Call.IsAt among) (q.ask creds).run := by
  cases q with
  | page p query =>
    refine Asks.attempt_found fun path hpath => Remote.asks_fetch ?_
    exact ⟨_, _, h, rfl, .page hpath⟩
  | _ => exact Remote.asks_fetch ⟨_, [], h, rfl, .plain _⟩

theorem Search.asks_carry {x : Search α} (h : Asks (fun q => among q.endpoint) x) :
    Asks (Call.IsAt among) (Search.carry creds x) :=
  h.interpret fun _ => Lookup.asks_ask

theorem Search.asks_remote {x : ExceptT Failure Search α} (h : Asks (fun q => among q.endpoint) x.run) :
    Asks (Call.IsAt among) (Search.remote creds x).run := asks_carry h

end

/-! ## What is looked up -/

theorem ProjectListing.asks_walk {p : String} {more : Nat} {query : PageQuery} :
    Asks (fun q => q.endpoint = .listing p) (walk p more query).run := by
  induction more generalizing query with
  | zero =>
    rw [walk]
    exact Asks.attempt_bind (.question rfl) fun _ => .attempt_pure
  | succ more ih =>
    rw [walk]
    refine Asks.attempt_bind (.question rfl) fun page => ?_
    simp only
    split
    · exact .attempt_pure
    · exact ih.attempt_bind fun _ => .attempt_pure

theorem CompanyProjectView.asks_load {s : Session} {c p : String} :
    Asks (fun q => (Operation.companyProject c p).calls s q.endpoint) (load c p) := by
  refine Asks.bind (.question (.inl (by simp [Lookup.endpoint]))) fun _ => ?_
  refine Asks.bind (.question (.inl (by simp [Lookup.endpoint]))) fun _ => ?_
  refine Asks.bind (.question (.inl (by simp [Lookup.endpoint]))) fun _ => ?_
  refine Asks.bind (.question (.inl (by simp [Lookup.endpoint]))) fun _ => ?_
  refine Asks.bind ?_ fun _ => .done
  generalize Section.ofExcept _ = corporate
  rw [details.eq_def]
  split
  · refine Asks.bind (.question (.inl (by simp [Lookup.endpoint]))) fun _ => ?_
    exact Asks.bind (.question (.inr ⟨_, rfl⟩)) fun _ => .done
  · exact .done
  · exact .done

/-! ## What is called -/

/-- An operation calls the endpoints of its row. -/
theorem Operation.asks_execute {limits : Config.Limits} {s : Session} {o : Operation} :
    Asks (Call.IsAt (o.calls s)) (o.execute limits s).run := by
  cases o with
  | logout => exact .attempt_pure
  | createUser | addRole =>
    refine Asks.attempt_bind ?_ fun _ => .attempt_pure
    exact (Remote.asks_call ⟨_, [], rfl, rfl, .plain _⟩).attempt_bind fun _ => .attempt_ofExcept
  | removeUser | removeRole | requestInvite =>
    refine Asks.attempt_bind ?_ fun _ => .attempt_pure
    exact (Remote.asks_succeed ⟨_, [], rfl, rfl, .plain _⟩).attempt_bind fun _ => .attempt_pure
  | users =>
    refine Asks.attempt_bind ?_ fun _ => .attempt_pure
    exact (Remote.asks_fetch ⟨_, [], rfl, rfl, .plain _⟩).attempt_bind fun _ => .attempt_pure
  | createCompany company =>
    refine Asks.attempt_bind ?_ fun _ => .attempt_pure
    rw [makeCompany]
    split
    · exact .attempt_throw
    · exact (Remote.asks_call ⟨_, [], rfl, rfl, .plain _⟩).attempt_bind fun _ => .attempt_ofExcept
  | projectSignatures =>
    refine Asks.attempt_bind (Search.asks_remote ?_) fun _ => .attempt_pure
    exact ProjectListing.asks_walk.attempt_bind fun _ => .attempt_pure
  | companyProject =>
    refine Asks.attempt_bind ?_ fun _ => .attempt_pure
    exact (Search.asks_carry CompanyProjectView.asks_load).bind fun _ => .done
  | editAllowList =>
    refine Asks.attempt_bind (Corporate.asks_edit ?_ (fun _ => ?_) fun _ => ?_) fun _ => .attempt_pure
    · exact ⟨.corporate _ _, [], by simp [calls], rfl, .plain _⟩
    · exact ⟨.approvals _ _, [], by simp [calls], rfl, .plain _⟩
    · exact ⟨.organizations _ _, [], by simp [calls], rfl, .plain _⟩
  | addManager =>
    refine Asks.attempt_bind (Corporate.asks_addManager ?_ (fun s _ => ?_) fun s => ?_) fun _ => .attempt_pure
    · exact ⟨.corporate _ _, [], by simp [calls], rfl, .plain _⟩
    · exact ⟨.managers s, [], by simp [calls], rfl, .plain _⟩
    · exact ⟨.managers s, [], by simp [calls], rfl, .plain _⟩
  | removeManager c p l =>
    refine Asks.attempt_bind (Corporate.asks_removeManager ?_ (fun s => ?_) fun s => ?_) fun _ => .attempt_pure
    · exact ⟨.corporate _ _, [], by simp [calls], rfl, .plain _⟩
    · exact ⟨.manager s l, [], by simp [calls], rfl, .plain _⟩
    · exact ⟨.managers s, [], by simp [calls], rfl, .plain _⟩
  | _ => exact (Remote.asks_fetch ⟨_, [], rfl, rfl, .plain _⟩).attempt_bind fun _ => .attempt_pure

theorem Login.asks_perform {l : Login} {verifier : Option Identity.Verifier} {account : Credentials}
    {m : Moment} :
    Asks (Call.IsAt (FreeOperation.login l).calls) (l.perform verifier account m).run := by
  rw [perform]
  split
  · exact .attempt_throw
  · refine Asks.attempt_bind .attempt_ofExcept fun _ => ?_
    refine (Remote.asks_fetch ⟨_, [], .inl rfl, rfl, .plain _⟩).attempt_bind fun keys => ?_
    refine (Remote.asks_orNotFound ?_).attempt_bind fun _ => .attempt_pure
    exact Remote.asks_fetch ⟨_, [], .inr rfl, rfl, .plain _⟩

namespace Console

variable {c : Console} {m : Moment} {store : SessionStore} {i : Incoming}

theorem asks_performFree {o : FreeOperation} :
    Asks (Call.IsAt o.calls) (c.performFree m store o) := by
  cases o with
  | health => exact .done
  | status => exact (Remote.asks_fetch ⟨_, [], rfl, rfl, .plain _⟩).bind fun _ => .done
  | login l =>
    rw [performFree, bind_eq]
    refine Login.asks_perform.bind fun x => ?_
    cases x <;> exact .done

theorem asks_serveGuarded {s : Session} {r : Resource} :
    Asks (Call.IsAt fun e => ∃ o, Operation.read? r i = some (.ok o) ∧ o.calls s e)
      (c.serveGuarded s r i) := by
  rw [serveGuarded]
  split
  · exact .done
  · exact .done
  next o hr =>
    have hperform : Asks (Call.IsAt (o.calls s)) (o.perform c.config.limits s).run :=
      Asks.attempt_bind .attempt_ofExcept fun _ => Operation.asks_execute
    refine Asks.bind (hperform.mono ?_) fun x => ?_
    · rintro call ⟨e, pairs, he, hservice, hat⟩
      exact ⟨e, pairs, ⟨o, hr, he⟩, hservice, hat⟩
    · cases x <;> exact .done

theorem asks_handle : Asks (Call.IsAt (mayCall store i)) (c.handle m store i) := by
  refine Asks.bind ?_ fun _ => .done
  rw [serve]
  split
  · exact .done
  next r hp =>
    rw [serveFree]
    split
    · exact .done
    · exact .done
    next o hr =>
      refine asks_performFree.mono ?_
      rintro call ⟨e, pairs, he, hservice, hat⟩
      exact ⟨e, pairs, by simp only [mayCall, hp]; exact ⟨o, hr, he⟩, hservice, hat⟩
  next r hp =>
    split
    · exact .done
    next s hs =>
      refine asks_serveGuarded.mono ?_
      rintro call ⟨e, pairs, ⟨o, hr, he⟩, hservice, hat⟩
      exact ⟨e, pairs, by simp only [mayCall, hp]; exact ⟨s, o, hs, hr, he⟩, hservice, hat⟩

/-- **Where the ids of a caller can lead.** Every request that goes over the wire is one at an
endpoint that the operation asked for may call. A call at an endpoint whose ids stay in their
place goes to the root of its service with the parts of the endpoint as the last segments, each
id in one of them, without a fragment and without a query other than that of a page. And calls
that go to the same path are meant for the same endpoint, with ids that decode alike. -/
theorem calls_stay_in_place (c : Console) (m : Moment) {root : Service → Url}
    (rooted : (c.link m.now).Rooted root) :
    (∀ store i t h, ((c.link m.now).run (c.handle m store i)).Transcript t h → ∀ x ∈ t,
      ∃ e pairs, mayCall store i e ∧ x.1.call.service = e.service ∧ e.CalledAt pairs x.1.call.path ∧
        (e.Contained → x.1.url = e.url (root e.service) pairs)) ∧
    (∀ (call : Call) (r : Request) (e : Endpoint String) pairs,
      (c.link m.now).request call = .ok r → call.service = e.service → e.CalledAt pairs call.path →
        e.Contained → r.url = e.url (root e.service) pairs) ∧
    (∀ (e e' : Endpoint String) pairs pairs', e.Contained → e'.Contained → e.service = e'.service →
      (e.url (root e.service) pairs).path = (e'.url (root e'.service) pairs').path →
      (e.map fun id => Url.percentDecode id.toList) = e'.map fun id => Url.percentDecode id.toList) := by
  refine ⟨fun store i t h run x hx => ?_, fun call r e pairs hr hs hat hin => ?_,
    fun e e' pairs pairs' hin hin' hservice hpath => ?_⟩
  · obtain ⟨hr, e, pairs, he, hservice, hat⟩ := (Link.asks_run asks_handle).of_transcript run x hx
    exact ⟨e, pairs, he, hservice, hat, fun hin => Link.request_at rooted hr hservice hat hin⟩
  · exact Link.request_at rooted hr hs hat hin
  · rw [← hservice] at hpath
    exact hin.eq_of_path hin' hservice hpath

end Console

namespace Sample

/-- The roots of the two services. -/
def root : Service → Url
  | .cla => ⟨"http", "", none, .name "cla.test", none, [""], none, none⟩
  | .platform => ⟨"http", "", none, .name "platform.test", none, [""], none, none⟩

theorem rooted : (console.link moment.now).Rooted root where
  parse s := except_toOption_eq_some_iff.1 (by cases s <;> decide +kernel)
  query s := by cases s <;> rfl
  fragment s := by cases s <;> rfl

theorem keys_stay_in_place :
    (console.link moment.now).Rooted root ∧ (Endpoint.keys "ada").Contained ∧
      ∃ r, (console.link moment.now).request (Platform.get console.account (Platform.keysPath "ada")) = .ok r ∧
        r.url = (Endpoint.keys "ada").url (root .platform) [] := by
  have hplain : ("ada".toList.all fun c => !Url.special c) = true := by decide +kernel
  have hin : (Endpoint.keys "ada").Contained :=
    ⟨fun id hid => by
      obtain rfl : id = "ada" := by simpa [Endpoint.ids, Endpoint.parts] using hid
      exact ⟨by decide, fun c hc => by simpa using List.all_eq_true.1 hplain c hc, by decide +kernel,
        by decide +kernel⟩,
    fun c hc => by
      obtain rfl : 'a' = c := Option.some.inj ((show _ = some 'a' by decide +kernel).symm.trans hc)
      decide⟩
  have hsent : ((console.link moment.now).request
      (Platform.get console.account (Platform.keysPath "ada"))).toOption.isSome := by decide +kernel
  obtain ⟨r, hr⟩ := Option.isSome_iff_exists.1 hsent
  rw [except_toOption_eq_some_iff] at hr
  exact ⟨rooted, hin, r, hr,
    (Console.calls_stay_in_place console moment rooted).2.1 _ r _ [] hr rfl (.plain _) hin⟩

/-- Someone signs in by an identity that leads elsewhere. -/
def straySignIn : Incoming :=
  ⟨.post, "/login", none, some "application/json", "\x7b\"lfId\": \"../../../users/\"\x7d"⟩

theorem straySignIn_mayCall : Console.mayCall .empty straySignIn (.keys "../../../users/") := by
  have hpath : Target.ofPath? straySignIn.path = some (.free .login) := by decide +kernel
  have hread : FreeOperation.read? .login straySignIn = some (.ok (.login ⟨"../../../users/", none⟩)) :=
    option_bind_toOption_eq_some_iff.1 (by decide +kernel)
  simp only [Console.mayCall, hpath]
  exact ⟨_, hread, .inl (by decide +kernel)⟩

/-- Ids that are something do not always stay in their place: here the console's own account
asks for the users. -/
theorem ids_may_stray :
    ¬ ∀ (c : Console) (store : SessionStore) (m : Moment) (i : Incoming) (root : Service → Url),
      c.Reachable store → (c.link m.now).Rooted root →
      ∀ t h, ((c.link m.now).run (c.handle m store i)).Transcript t h → ∀ x ∈ t, ∀ e pairs,
        Console.mayCall store i e → x.1.call.service = e.service → e.CalledAt pairs x.1.call.path →
        (∀ id ∈ e.ids, id ≠ "") → x.1.url.segments = (root e.service).segments.dropLast ++ e.segments := by
  intro claim
  let world := fun (_ : List Request) (r : Request) => some (reply r.call)
  let handled := (console.link moment.now).run (console.handle moment .empty straySignIn)
  have hasked : (handled.questions world []).map (fun r => (r.call.service, r.call.path, r.url.segments)) =
      [(.platform, "auth/trusted/cas/../../../users/", ["users", ""])] := by decide +kernel
  obtain ⟨t, run, asked⟩ := exists_transcript world handled []
  rw [List.nil_append] at asked
  rw [← asked, List.map_map] at hasked
  obtain ⟨x, ht, hx⟩ := List.map_eq_singleton_iff.1 hasked
  simp only [Function.comp_apply, Prod.mk.injEq] at hx
  obtain ⟨hservice, hpath, hsegments⟩ := hx
  have hat : (Endpoint.keys "../../../users/").CalledAt [] x.1.call.path := by
    rw [hpath]
    exact .plain _
  have hplace := claim console .empty moment straySignIn root .empty rooted t _ run x (by simp [ht])
    _ [] straySignIn_mayCall hservice hat (by decide)
  rw [hsegments] at hplace
  revert hplace
  decide +kernel

end Sample
end SignatureDesk
