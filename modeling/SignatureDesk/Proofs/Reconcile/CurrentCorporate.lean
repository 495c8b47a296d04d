/-
The current corporate signature is the same wherever it is shown. The view of a company in a
project, the search for the signature, and the report on a saved listing all take
the first corporate record of the listing and bring the allow-lists it has into
normal form; an edit of a list answers the signature that comes back in the same
form, and a signature in that form is left as it is (`one_corporate_signature`).
-/
import SignatureDesk.Proofs.AllowList.NormalForm
import SignatureDesk.Proofs.Console.CorporateEdits
import SignatureDesk.Report.Command

namespace SignatureDesk

open Dialogue

/-! ## The normal form of a signature -/

namespace Signature

/-- A signature is another one with every allow-list that is present in normal form, and the
same in all else. -/
structure IsNormalOf (n s : Signature) : Prop where
  lists : ∀ kind, n.allowList kind = (s.allowList kind).map Entries.normalize
  others : { n with
    emails := s.emails
    domains := s.domains
    githubUsernames := s.githubUsernames
    githubOrgs := s.githubOrgs } = s

theorem normalize_isNormalOf (s : Signature) : s.normalize.IsNormalOf s :=
  ⟨fun kind => by cases kind <;> rfl, rfl⟩

theorem normalize_normalize (s : Signature) : s.normalize.normalize = s.normalize := by
  have htwice : ∀ entries : Option (List String),
      (entries.map Entries.normalize).map Entries.normalize = entries.map Entries.normalize := by
    intro entries
    cases entries with
    | none => rfl
    | some entries => exact congrArg some (Entries.normalize_normalize entries)
  simp only [normalize, mapAllowLists, htwice]

end Signature

/-! ## Where it is shown -/

namespace SignaturePage

theorem corporate?_eq_none_iff {page : SignaturePage} :
    page.corporate? = none ↔ ∀ s ∈ page.records, s.type ≠ .ccla := by
  simp [corporate?_eq, firstCorporate?]

/-- It is the first corporate record, in normal form. -/
theorem exists_of_corporate? {page : SignaturePage} {n : Signature} (h : page.corporate? = some n) :
    ∃ before s after, page.records = before ++ s :: after ∧ (∀ r ∈ before, r.type ≠ .ccla) ∧ s.type = .ccla ∧
      n = s.normalize := by
  rw [corporate?_eq] at h
  obtain ⟨s, hfirst, rfl⟩ := Option.map_eq_some_iff.1 h
  obtain ⟨htype, before, after, hrecords, hbefore⟩ := List.find?_eq_some_iff_append.1 hfirst
  exact ⟨before, s, after, hrecords, by simpa using hbefore, by simpa using htype, rfl⟩

end SignaturePage

theorem CompanyProjectView.corporate_of_transcript {companyId projectId : String} {page : SignaturePage} {u v}
    (run : (load companyId projectId).Transcript u v) (listing : ⟨.corporate companyId projectId, .ok page⟩ ∈ u) :
    v.corporate = .loaded page.corporate? := by
  obtain ⟨found, rfl, shows⟩ := load_shows run
  have hfound := (mem_entries_iff.1 listing).2
  rw [shows.corporate, ← hfound, SignaturePage.corporate?_eq]
  rfl

theorem currentCorporate_transcript {companyId projectId : String} {page : SignaturePage} {u r}
    (run : (currentCorporate companyId projectId).run.Transcript u r)
    (listing : ⟨.corporate companyId projectId, .ok page⟩ ∈ u) : r = .ok page.corporate? := by
  obtain ⟨y, asked, rfl⟩ := transcript_attempt_settled_iff.1 run
  have hu := transcript_question_iff.1 asked
  subst hu
  cases List.mem_singleton.1 listing
  rfl

theorem Report.corporate_ofSignatures (page : SignaturePage) :
    (ofSignatures page.records).corporate = page.corporate? := rfl

/-! ## Edits of a list -/

/-- Only an approval change is put. -/
theorem Corporate.switchCall_method_ne_put {creds : Credentials} {e : Edit} {companyId projectId : String}
    (entry : String) : (switchCall creds e companyId projectId entry).method ≠ .put := by
  cases e <;> simp [switchCall, Cla.call]

/-- The update that a put signature makes. -/
theorem Corporate.editList_put {creds : Credentials} {e : Edit} {companyId projectId : String}
    {kind : AllowListKind} {values : List String} {u : Calls} {r : Except Failure Update}
    (run : (editList creds e companyId projectId kind values).run.Transcript u r) {call : Call} {reply : Reply}
    (made : ⟨call, .ok reply⟩ ∈ u) (put : call.method = .put) (success : reply.isSuccess = true) {s : Signature}
    (read : reply.read Signature.codec = .ok s) : r = .ok (.signature s.normalize) := by
  rw [editList] at run
  split at run
  · obtain ⟨y, switched, -⟩ := transcript_attempt_settled_iff.1 run
    have hswitch := (asks_switchAll (p := fun c => c.method ≠ .put) switchCall_method_ne_put).of_transcript switched
    exact absurd put (hswitch _ made)
  · rcases transcript_attempt_found_iff.1 run with ⟨_, -, rfl, -⟩ | ⟨change, -, run⟩
    · cases made
    · obtain ⟨y, updated, rfl⟩ := transcript_attempt_settled_iff.1 run
      obtain ⟨a, rfl, rfl⟩ := Remote.fetch_transcript_iff.1 updated
      obtain ⟨rfl, ha⟩ := Sigma.mk.inj (List.mem_singleton.1 made)
      have hchecked : reply.checked "Unable to update approval list" = .ok reply :=
        Reply.checked_ok_iff.2 ⟨success, rfl⟩
      rw [← eq_of_heq ha]
      simp only [except_ok_bind, hchecked, read]

theorem Corporate.edit_put {creds : Credentials} {e : Edit} {companyId projectId word : String}
    {values : List String} {u : Calls} {r : Except Failure Update}
    (run : (edit creds e companyId projectId word values).run.Transcript u r) {call : Call} {reply : Reply}
    (made : ⟨call, .ok reply⟩ ∈ u) (put : call.method = .put) (success : reply.isSuccess = true) {s : Signature}
    (read : reply.read Signature.codec = .ok s) : r = .ok (.signature s.normalize) := by
  have hlisting : call ≠ listingCall creds companyId projectId := by
    rintro rfl
    cases put
  rcases edit_course run with ⟨-, rfl, -⟩ | ⟨-, kind, course⟩
  · cases made
  · cases course with
    | unlisted => exact absurd (congrArg Sigma.fst (List.mem_singleton.1 made)) hlisting
    | missing => exact absurd (congrArg Sigma.fst (List.mem_singleton.1 made)) hlisting
    | found _ _ hlist =>
      rcases List.mem_cons.1 made with h | made
      · exact absurd (congrArg Sigma.fst h) hlisting
      · exact editList_put hlist made put success read

/-- The signature that comes back from an edit of a list is answered in normal form. -/
theorem Console.put_answered {c : Console} {m : Moment} {store : SessionStore} {i : Incoming}
    {companyId projectId kind : String}
    (path : Target.ofPath? i.path = some (.guarded (.allowList companyId projectId kind))) {t : Calls} {h : Handled}
    (run : (c.handle m store i).Transcript t h) {call : Call} {reply : Reply} (made : ⟨call, .ok reply⟩ ∈ t)
    (put : call.method = .put) (success : reply.isSuccess = true) {s : Signature}
    (read : reply.read Signature.codec = .ok s) : h.answer = .ok (Signature.codec.encode s.normalize) := by
  rcases handle_guarded_cases path run with ⟨_, -, rfl, -⟩ | ⟨session, h', -, served, -, heq⟩
  · cases made
  rcases serveGuarded_cases served with ⟨-, rfl, -⟩ | ⟨o, x, hread, performed, hanswer, -⟩
  · cases made
  obtain ⟨e, cid, pid, word, values, rfl⟩ := Operation.eq_editAllowList_of_read? hread
  have hverb : i.verb ≠ .head := by
    intro hhead
    obtain ⟨d, -, hasked⟩ := Operation.asked_of_read? hread
    refine Operation.asked_ne_get rfl (o := .editAllowList e cid pid word values) ?_
    rw [hasked, hhead]
    rfl
  rcases Operation.perform_cases performed with ⟨_, -, rfl, -⟩ | ⟨-, executed⟩
  · cases made
  obtain ⟨y, edited, rfl⟩ := transcript_attempt_settled_iff.1 executed
  rw [heq hverb, hanswer, Corporate.edit_put edited made put success read]
  rfl

/-! ## One signature -/

/-- **One corporate signature everywhere.** For any page of signatures there is one current corporate
signature: none if no record of the page is corporate, and otherwise the first that is, with the
allow-lists it has in normal form and all else as it is. Every run of the view and of the search
in which the listing comes to that page shows it, and so does the report on a saved listing of the
same records. A signature that an edit of an allow-list gets back is answered in the same form,
which it keeps when it is brought into it once more. -/
theorem one_corporate_signature (page : SignaturePage) :
    (page.corporate? = none ↔ ∀ s ∈ page.records, s.type ≠ .ccla) ∧
    (∀ n, page.corporate? = some n → ∃ before s after, page.records = before ++ s :: after ∧
      (∀ r ∈ before, r.type ≠ .ccla) ∧ s.type = .ccla ∧ n.IsNormalOf s) ∧
    (Signature.codec.optional.encode page.corporate? = .null ↔ page.corporate? = none) ∧
    (∀ companyId projectId u v, (CompanyProjectView.load companyId projectId).Transcript u v →
      ⟨.corporate companyId projectId, .ok page⟩ ∈ u →
      v.corporate = .loaded page.corporate? ∧
      v.toJson.get? "cclaSignature" = some (.obj
        [("status", .str "loaded"), ("data", Signature.codec.optional.encode page.corporate?)])) ∧
    (∀ companyId projectId u r, (currentCorporate companyId projectId).run.Transcript u r →
      ⟨.corporate companyId projectId, .ok page⟩ ∈ u → r = .ok page.corporate?) ∧
    (∀ path text, Report.readListing text = .ok page.records →
      ∃ report : Report, (⟨path, .json⟩ : Report.Command).run (some text) = .reported (report.print .json) ∧
        report.corporate = page.corporate? ∧
        report.toJson.get? "currentCcla" = some (Signature.codec.optional.encode page.corporate?)) ∧
    (∀ (c : Console) (m : Moment) store (i : Incoming) companyId projectId kind (t : Calls) h,
      Target.ofPath? i.path = some (.guarded (.allowList companyId projectId kind)) →
      (c.handle m store i).Transcript t h → ∀ (call : Call) (reply : Reply) s, ⟨call, .ok reply⟩ ∈ t →
      call.method = .put → reply.isSuccess = true → reply.read Signature.codec = .ok s →
      h.answer = .ok (Signature.codec.encode s.normalize) ∧ s.normalize.IsNormalOf s) ∧
    (∀ s : Signature, s.normalize.normalize = s.normalize) ∧
    ∀ n, page.corporate? = some n → n.normalize = n := by
  refine ⟨SignaturePage.corporate?_eq_none_iff, fun n hn => ?_, ?_, fun companyId projectId u v run listing => ?_,
    fun companyId projectId u r => currentCorporate_transcript, fun path text hread => ?_, ?_,
    Signature.normalize_normalize, fun n hn => ?_⟩
  · obtain ⟨before, s, after, hrecords, hbefore, htype, rfl⟩ := SignaturePage.exists_of_corporate? hn
    exact ⟨before, s, after, hrecords, hbefore, htype, s.normalize_isNormalOf⟩
  · cases page.corporate? with
    | none => exact ⟨fun _ => rfl, fun _ => rfl⟩
    | some n => exact ⟨nofun, nofun⟩
  · have hcorporate := CompanyProjectView.corporate_of_transcript run listing
    refine ⟨hcorporate, ?_⟩
    show some (v.corporate.toJson _) = _
    rw [hcorporate]
    rfl
  · refine ⟨Report.ofSignatures page.records, ?_, Report.corporate_ofSignatures page, rfl⟩
    simp only [Report.Command.run, hread]
  · intro c m store i companyId projectId kind t h path run call reply s made put success read
    exact ⟨Console.put_answered path run made put success read, s.normalize_isNormalOf⟩
  · obtain ⟨_, s, _, -, -, -, rfl⟩ := SignaturePage.exists_of_corporate? hn
    exact s.normalize_normalize

end SignatureDesk
