/-
The switching of organizations. Values that are edited by are switched one after the
other, each by a call of its own, and the next call is made only once the one before has
yielded a list. What remains of the replies is the last one: the edit is answered
with its list, or with its failure. So it takes one lemma for a stretch of
values whose calls all yield (`switchAll_append_run`) and one for a call that does
not (`switchAll_stops`), and a run is a stretch up to the end or up to the first miss
(`organizations_switched_in_turn`).
-/
import SignatureDesk.Proofs.AllowList.Grammar
import SignatureDesk.Proofs.Console.CorporateEdits
import SignatureDesk.Proofs.Records.ReadBack

namespace SignatureDesk

open Dialogue

namespace Corporate

variable {creds : Credentials} {e : Edit} {companyId projectId value : String}

/-- The value names an organization: a valid one where it is to be added, and anything but white
space where it is to be removed. -/
def Names (e : Edit) (value : String) : Prop :=
  match e with
  | .add => AllowListKind.githubOrg.Grammar (Text.trim value).toList
  | .remove => Text.trim value ≠ ""

theorem organization_of_names (h : Names e value) : organization e value = .ok (Text.trim value) := by
  cases e with
  | add => exact AllowListKind.validate_ok_iff.2 ⟨rfl, h⟩
  | remove =>
    have hne : Text.trim value ≠ "" := h
    simp [organization, hne]

/-- How a failure to switch an organization is told. -/
def switchContext : Edit → String
  | .add => "Unable to add GitHub organization to allow-list"
  | .remove => "Unable to remove GitHub organization from allow-list"

/-- The calls that switch the organizations of values. -/
def switchCalls (creds : Credentials) (e : Edit) (companyId projectId : String) (values : List String) : List Call :=
  values.map fun value => switchCall creds e companyId projectId (Text.trim value)

/-- A value is one call, and the values behind it are gone on with if that yields a list. -/
theorem switchAll_cons_run {last : List GithubOrg} {rest : List String} (h : Names e value) :
    (switchAll creds e companyId projectId last (value :: rest)).run =
      .ask (switchCall creds e companyId projectId (Text.trim value)) fun x =>
        (Remote.ofExcept (Remote.fetched GithubOrg.codec.list (switchContext e) x) >>= fun orgs =>
          switchAll creds e companyId projectId orgs rest).run := by
  have hswitch : switch creds e companyId projectId (Text.trim value) =
      .fetch (switchCall creds e companyId projectId (Text.trim value)) (switchContext e) GithubOrg.codec.list := by
    cases e <;> rfl
  rw [switchAll, organization_of_names h, Remote.ofExcept_ok_bind, hswitch, Remote.fetch_bind_run]

section

variable {replies : Nat → Except Failure Reply} {asked : List Call}

/-- Once the calls of some values have all yielded a list, the others are gone on with from the last one. -/
theorem switchAll_append_run {before rest : List String} {orgs : Nat → List GithubOrg}
    (names : ∀ value ∈ before, Names e value)
    (yields : ∀ k < before.length, Yields GithubOrg.codec.list (replies (asked.length + k)) (orgs (k + 1))) :
    (switchAll creds e companyId projectId (orgs 0) (before ++ rest)).run.run (inTurn replies) asked =
      (switchAll creds e companyId projectId (orgs before.length) rest).run.run (inTurn replies)
        (asked ++ switchCalls creds e companyId projectId before) := by
  induction before generalizing asked orgs with
  | nil => simp [switchCalls]
  | cons value before ih =>
    have hfirst : Remote.fetched GithubOrg.codec.list (switchContext e) (replies asked.length) = .ok (orgs 1) :=
      (Remote.fetched_ok_iff _).2 (yields 0 (Nat.succ_pos _))
    let sent := asked ++ [switchCall creds e companyId projectId (Text.trim value)]
    have hyields : ∀ k < before.length,
        Yields GithubOrg.codec.list (replies (sent.length + k)) (orgs (k + 1 + 1)) := by
      intro k hk
      have hnext := yields (k + 1) (Nat.succ_lt_succ hk)
      rwa [List.length_append, List.length_singleton, Nat.add_assoc, Nat.add_comm 1]
    have hrest := @ih sent (fun k => orgs (k + 1)) (fun v hv => names v (List.mem_cons_of_mem _ hv)) hyields
    rw [List.cons_append, switchAll_cons_run (names value List.mem_cons_self), Dialogue.run, inTurn, hfirst,
      Remote.ofExcept_ok_bind, hrest, List.append_assoc]
    rfl

/-- A value whose call yields no list is the last one, and the edit fails as the call does. -/
theorem switchAll_stops {last : List GithubOrg} {rest : List String} (names : Names e value)
    (missed : ∀ orgs, ¬ Yields GithubOrg.codec.list (replies asked.length) orgs) :
    (switchAll creds e companyId projectId last (value :: rest)).run.run (inTurn replies) asked =
      (.error (Remote.missed (switchContext e) (replies asked.length)),
        asked ++ switchCalls creds e companyId projectId [value]) := by
  rw [switchAll_cons_run names, Dialogue.run, inTurn, Remote.fetched_of_missed missed]
  rfl

/-- The lists that calls behind a first one yield, from none on. -/
def lists (orgs : Nat → List GithubOrg) : Nat → List GithubOrg
  | 0 => []
  | k + 1 => orgs (k + 1)

variable {call : Call} {values : List String} {orgs : Nat → List GithubOrg}

/-- Behind one call, all values whose calls yield lists are switched. -/
theorem switchAll_prefix_run {n : Nat} (names : ∀ value ∈ values, Names e value) (hn : n ≤ values.length)
    (yields : ∀ k, 0 < k → k ≤ n → Yields GithubOrg.codec.list (replies k) (orgs k)) :
    (switchAll creds e companyId projectId [] values).run.run (inTurn replies) [call] =
      (switchAll creds e companyId projectId (lists orgs n) (values.drop n)).run.run (inTurn replies)
        (call :: switchCalls creds e companyId projectId (values.take n)) := by
  have hlength : (values.take n).length = n := List.length_take_of_le hn
  have hyields : ∀ k < (values.take n).length,
      Yields GithubOrg.codec.list (replies ([call].length + k)) (lists orgs (k + 1)) := by
    intro k hk
    rw [hlength] at hk
    rw [List.length_singleton, Nat.add_comm]
    exact yields (k + 1) (Nat.succ_pos k) hk
  calc (switchAll creds e companyId projectId [] values).run.run (inTurn replies) [call]
      = (switchAll creds e companyId projectId (lists orgs 0) (values.take n ++ values.drop n)).run.run
          (inTurn replies) [call] := by rw [List.take_append_drop]; rfl
    _ = (switchAll creds e companyId projectId (lists orgs (values.take n).length) (values.drop n)).run.run
          (inTurn replies) ([call] ++ switchCalls creds e companyId projectId (values.take n)) :=
        switchAll_append_run (fun value hvalue => names value (List.mem_of_mem_take hvalue)) hyields
    _ = _ := by rw [hlength]; rfl

theorem switchAll_yielding_run (given : values ≠ []) (names : ∀ value ∈ values, Names e value)
    (yields : ∀ k, 0 < k → k ≤ values.length → Yields GithubOrg.codec.list (replies k) (orgs k)) :
    (switchAll creds e companyId projectId [] values).run.run (inTurn replies) [call] =
      (.ok (orgs values.length), call :: switchCalls creds e companyId projectId values) := by
  have hlast : lists orgs values.length = orgs values.length := by
    cases values with
    | nil => exact absurd rfl given
    | cons => rfl
  rw [switchAll_prefix_run names le_rfl yields, List.drop_length, List.take_length, hlast]
  rfl

theorem switchAll_missing_run {k : Nat} (names : ∀ value ∈ values, Names e value) (hk : k < values.length)
    (yields : ∀ j, 0 < j → j ≤ k → Yields GithubOrg.codec.list (replies j) (orgs j))
    (missed : ∀ orgs, ¬ Yields GithubOrg.codec.list (replies (k + 1)) orgs) :
    (switchAll creds e companyId projectId [] values).run.run (inTurn replies) [call] =
      (.error (Remote.missed (switchContext e) (replies (k + 1))),
        call :: switchCalls creds e companyId projectId (values.take (k + 1))) := by
  have hlength : (call :: switchCalls creds e companyId projectId (values.take k)).length = k + 1 := by
    rw [List.length_cons, switchCalls, List.length_map, List.length_take_of_le hk.le]
  have hmissed : ∀ orgs, ¬ Yields GithubOrg.codec.list
      (replies (call :: switchCalls creds e companyId projectId (values.take k)).length) orgs := by
    rwa [hlength]
  rw [switchAll_prefix_run names hk.le yields, List.drop_eq_getElem_cons hk,
    switchAll_stops (names values[k] (List.getElem_mem hk)) hmissed, hlength, List.cons_append,
    switchCalls, switchCalls, switchCalls, ← List.map_append, List.take_append_getElem hk]

/-- An edit that finds a corporate record is gone on with behind the listing. -/
theorem current_bind_run {α : Type} {f : Signature → Remote α} {page : SignaturePage} {record : Signature}
    (listing : listed (replies 0) = .ok page) (first : page.firstCorporate? = some record) :
    (current creds companyId projectId >>= f).run.run (inTurn replies) [] =
      (f record.normalize).run.run (inTurn replies) [listingCall creds companyId projectId] := by
  have hfetch : (Search.remote creds (currentCorporate companyId projectId)).run =
      .ask (listingCall creds companyId projectId) fun a => .done (listed a >>= fun page => .ok page.corporate?) := by
    rw [remote_currentCorporate, Cla.corporateSignatures]
    refine Remote.run_bind_ofExcept.trans ?_
    rw [Remote.fetch_run]
    rfl
  have hcorporate : page.corporate? = some record.normalize := by
    rw [SignaturePage.corporate?_eq, first]
    rfl
  have hcurrent : (current creds companyId projectId).run.run (inTurn replies) [] =
      (.ok record.normalize, [listingCall creds companyId projectId]) := by
    rw [current, ExceptT.run_bind, hfetch, bind_eq, bind_ask, Dialogue.run, inTurn]
    simp only [List.length_nil, listing, except_ok_bind, hcorporate]
    rfl
  rw [ExceptT.run_bind, bind_eq, Dialogue.run_bind, hcurrent]

/-- An edit of organizations is their switching, behind the listing. -/
theorem edit_organizations_run {word : String} {values : List String} {page : SignaturePage} {record : Signature}
    {x : Except Failure (List GithubOrg)} (kind : AllowListKind.ofWord word = .ok .githubOrg) (given : values ≠ [])
    (listing : listed (replies 0) = .ok page) (first : page.firstCorporate? = some record)
    (switched : (switchAll creds e companyId projectId [] values).run.run (inTurn replies)
      [listingCall creds companyId projectId] = (x, asked)) :
    (edit creds e companyId projectId word values).run.run (inTurn replies) [] = (x.map .organizations, asked) := by
  have hedit : edit creds e companyId projectId word values =
      (current creds companyId projectId >>= fun _ =>
        switchAll creds e companyId projectId [] values >>= fun orgs => Remote.ofExcept (.ok (.organizations orgs))) := by
    have hgiven : values.isEmpty = false := by simpa using given
    rw [edit, kind, hgiven]
    rfl
  rw [hedit, current_bind_run listing first, Remote.run_bind_ofExcept, Dialogue.run_bind, switched]
  rfl

end
end Corporate

/-- What an edit of organizations is answered with, for the list that it comes to. -/
def organizationsAnswer (orgs : List GithubOrg) : Answer :=
  .ok (.obj [("githubOrgs", GithubOrg.codec.list.encode orgs),
    ("enabledGithubOrgs", GithubOrg.codec.list.encode (orgs.filter (·.selected)))])

namespace Console

variable {c : Console} {m : Moment} {store : SessionStore} {i : Incoming} {r : Resource} {s : Session}
  {e : Edit} {companyId projectId word : String} {values : List String} {replies : Nat → Except Failure Reply}
  {page : SignaturePage} {record : Signature}

/-- The request is answered with what the switching comes to. -/
theorem handle_editOrganizations (path : Target.ofPath? i.path = some (.guarded r))
    (live : sessionOf store i = .ok s) (authenticated : s.has .authenticated = true)
    (read : Operation.read? r i = some (.ok (.editAllowList e companyId projectId word values)))
    (kind : AllowListKind.ofWord word = .ok .githubOrg) (given : values ≠ [])
    (listing : Corporate.listed (replies 0) = .ok page) (first : page.firstCorporate? = some record)
    {x : Except Failure (List GithubOrg)} {asked : List Call}
    (switched : (Corporate.switchAll s.claCredentials e companyId projectId [] values).run.run (inTurn replies)
      [Corporate.listingCall s.claCredentials companyId projectId] = (x, asked)) :
    ∃ h, (c.handle m store i).run (inTurn replies) [] = (h, asked) ∧
      h.answer = .ofExcept (x.map organizationsAnswer) := by
  have hverb : i.verb ≠ .head := by
    intro hhead
    obtain ⟨d, -, hasked⟩ := Operation.asked_of_read? read
    refine Operation.asked_ne_get (o := .editAllowList e companyId projectId word values) rfl ?_
    rw [hasked, hhead]
    rfl
  have hexecute : ((Operation.editAllowList e companyId projectId word values).execute c.config.limits s).run =
      (Corporate.edit s.claCredentials e companyId projectId word values).run.bind fun y =>
        .done (y >>= fun u => .ok (.ok u.toJson)) := Remote.run_bind_ofExcept
  refine ⟨(Operation.editAllowList e companyId projectId word values).handled s (x.map organizationsAnswer), ?_,
    Operation.handled_answer⟩
  rw [handle_permitted path live read hverb (Operation.permit_edit rfl authenticated), hexecute, bind_assoc,
    Dialogue.run_bind, Corporate.edit_organizations_run kind given listing first switched]
  cases x <;> rfl

/-- **Organizations are switched in turn.** An edit whose values all name an organization, for a company
with a corporate record in the project, makes one call for each value behind the listing, in the order of the values.
When the replies to them are all lists, it is answered with the last of these and those of its organizations
that are selected. Otherwise the value with the first reply that is no list is the last one that is
sent, and the answer is the failure of that reply. -/
theorem organizations_switched_in_turn (c : Console) (m : Moment) (store : SessionStore) (i : Incoming)
    (path : Target.ofPath? i.path = some (.guarded r)) (live : sessionOf store i = .ok s)
    (authenticated : s.has .authenticated = true)
    (read : Operation.read? r i = some (.ok (.editAllowList e companyId projectId word values)))
    (kind : AllowListKind.ofWord word = .ok .githubOrg) (given : values ≠ [])
    (names : ∀ value ∈ values, Corporate.Names e value)
    (listing : Corporate.listed (replies 0) = .ok page) (first : page.firstCorporate? = some record) :
    (∀ orgs : Nat → List GithubOrg,
      (∀ k, 0 < k → k ≤ values.length → Yields GithubOrg.codec.list (replies k) (orgs k)) →
      ∃ h, (c.handle m store i).run (inTurn replies) [] =
          (h, Corporate.listingCall s.claCredentials companyId projectId ::
            Corporate.switchCalls s.claCredentials e companyId projectId values) ∧
        h.answer = organizationsAnswer (orgs values.length) ∧
        ∀ sorted, GithubOrg.codec.list.decode ((GithubOrg.codec.list.encode (orgs values.length)).ordered sorted) =
          .ok (orgs values.length)) ∧
    ∀ k, 0 < k → k ≤ values.length →
      (∀ j, 0 < j → j < k → ∃ orgs, Yields GithubOrg.codec.list (replies j) orgs) →
      (∀ orgs, ¬ Yields GithubOrg.codec.list (replies k) orgs) →
      ∃ h, (c.handle m store i).run (inTurn replies) [] =
          (h, Corporate.listingCall s.claCredentials companyId projectId ::
            Corporate.switchCalls s.claCredentials e companyId projectId (values.take k)) ∧
        h.answer = .ofFailure (Remote.missed (Corporate.switchContext e) (replies k)) := by
  constructor
  · intro orgs yields
    obtain ⟨h, hrun, hanswer⟩ := handle_editOrganizations (c := c) (m := m) path live authenticated read kind given
      listing first (Corporate.switchAll_yielding_run given names yields)
    obtain ⟨reply, -, -, hread⟩ := yields values.length (List.length_pos_iff.2 given) le_rfl
    obtain ⟨v, hdecode⟩ := Reply.decode_of_read hread
    exact ⟨h, hrun, hanswer, (GithubOrg.codec_roundTrip.list v _ hdecode).readBack⟩
  · intro k hpos hk before missed
    obtain ⟨k, rfl⟩ := Nat.exists_eq_add_one.2 hpos
    have hlists : ∀ j, ∃ orgs, 0 < j → j ≤ k → Yields GithubOrg.codec.list (replies j) orgs := by
      intro j
      by_cases hj : 0 < j ∧ j ≤ k
      · obtain ⟨orgs, hyields⟩ := before j hj.1 (Nat.lt_succ_of_le hj.2)
        exact ⟨orgs, fun _ _ => hyields⟩
      · exact ⟨[], fun hpos hle => absurd ⟨hpos, hle⟩ hj⟩
    obtain ⟨orgs, yields⟩ := Classical.axiom_of_choice hlists
    exact handle_editOrganizations path live authenticated read kind given listing first
      (Corporate.switchAll_missing_run names hk yields missed)

end Console

namespace Sample

/-- Two organizations are to be added, the first with white space around it. -/
def newOrganizations : Incoming :=
  request .post "/company/c-1/project/p-1/allow-list/github_org" "\x7b\"values\": [\" one \", \"two\"]\x7d"

/-- The listing, then the organizations so far, of which the first is not selected. -/
def organizationReplies : Nat → Except Failure Reply
  | 0 => .ok ⟨200, pageText⟩
  | 1 => .ok ⟨200, "[\x7b\"id\": \"one\"\x7d]"⟩
  | 2 => .ok ⟨200, "[\x7b\"id\": \"one\"\x7d, \x7b\"id\": \"two\", \"selected\": true\x7d]"⟩
  | _ => .error .transport

def organizationLists : Nat → List GithubOrg
  | 1 => [⟨"one", false, none⟩]
  | 2 => [⟨"one", false, none⟩, ⟨"two", true, none⟩]
  | _ => []

/-- Both are added, and the answer has the second list. -/
theorem newOrganizations_switched : ∃ s h, Console.sessionOf store newOrganizations = .ok s ∧
    (console.handle moment store newOrganizations).run (inTurn organizationReplies) [] =
      (h, [Corporate.listingCall s.claCredentials "c-1" "p-1",
        Corporate.switchCall s.claCredentials .add "c-1" "p-1" "one",
        Corporate.switchCall s.claCredentials .add "c-1" "p-1" "two"]) ∧
    h.answer = organizationsAnswer [⟨"one", false, none⟩, ⟨"two", true, none⟩] := by
  have path : Target.ofPath? newOrganizations.path = some (.guarded (.allowList "c-1" "p-1" "github_org")) := by
    decide +kernel
  have read : Operation.read? (.allowList "c-1" "p-1" "github_org") newOrganizations =
      some (.ok (.editAllowList .add "c-1" "p-1" "github_org" [" one ", "two"])) :=
    option_bind_toOption_eq_some_iff.1 (by decide +kernel)
  have hlive : (Console.sessionOf store newOrganizations).isOk = true := by decide +kernel
  have names : ∀ value ∈ [" one ", "two"], Corporate.Names .add value := by
    intro value hvalue
    refine (AllowListKind.admits_iff .githubOrg).1 ?_
    revert value
    decide
  have yields : ∀ k, 0 < k → k ≤ 2 →
      Yields GithubOrg.codec.list (organizationReplies k) (organizationLists k) := by
    intro k hpos hk
    obtain rfl | rfl : k = 1 ∨ k = 2 := by omega
    · exact ⟨_, rfl, rfl, except_toOption_eq_some_iff.1 (by decide +kernel)⟩
    · exact ⟨_, rfl, rfl, except_toOption_eq_some_iff.1 (by decide +kernel)⟩
  have hlisted : ((Corporate.listed (organizationReplies 0)).toOption.bind (·.firstCorporate?)).isSome = true := by
    decide +kernel
  cases live : Console.sessionOf store newOrganizations with
  | error f =>
    rw [live] at hlive
    cases hlive
  | ok s =>
    obtain ⟨id, -, hget⟩ := Console.sessionOf_ok_iff.1 live
    obtain ⟨record, hrecord⟩ := Option.isSome_iff_exists.1 hlisted
    obtain ⟨page, hpage, first⟩ := Option.bind_eq_some_iff.1 hrecord
    obtain ⟨h, hrun, hanswer, -⟩ := (Console.organizations_switched_in_turn console moment store newOrganizations path
      live (store_reachable.authenticated hget) read rfl (by decide) names (except_toOption_eq_some_iff.1 hpage)
      first).1 organizationLists yields
    have htrim : [" one ", "two"].map Text.trim = ["one", "two"] := by decide +kernel
    refine ⟨s, h, rfl, ?_, hanswer⟩
    rw [hrun, Corporate.switchCalls, ← Function.comp_def (Corporate.switchCall s.claCredentials .add "c-1" "p-1"),
      ← List.map_map, htrim]
    rfl

end Sample
end SignatureDesk
