/-
The sections of the view of a company in a project. However its lookups come
out, the view is made from the findings alone, and each section from few of
them: `Shows` says which. So one lookup that fails, or finds something else,
leaves the other sections as they are.
-/
import SignatureDesk.Reconcile.View
import SignatureDesk.Proofs.Dialogue.Transcript
import SignatureDesk.Proofs.Reconcile.Accounting

namespace SignatureDesk

open Dialogue

/-- The first corporate record of a page. -/
def SignaturePage.firstCorporate? (p : SignaturePage) : Option Signature :=
  p.records.find? (·.type = .ccla)

theorem SignaturePage.corporate?_eq (p : SignaturePage) :
    p.corporate? = p.firstCorporate?.map Signature.normalize := by
  rw [corporate?, Partition.currentCorporate?, Partition.ofList, List.head?_filter, firstCorporate?]
  simp only [Signature.bucket_eq_ccla_iff]

theorem Search.look_bind_transcript_iff {α : Type} {q : Lookup} {f : Except Failure q.Found → Search α} {t a} :
    (Search.look q >>= f).Transcript t a ↔ ∃ r u, t = ⟨q, r⟩ :: u ∧ (f r).Transcript u a := by
  constructor
  · rintro (_ | h)
    exact ⟨_, _, rfl, h⟩
  · rintro ⟨r, u, rfl, h⟩
    exact .ask h

/-- What every lookup comes to. -/
abbrev Findings := (q : Lookup) → Except Failure q.Found

/-- A lookup with what it comes to. -/
def Findings.entry (found : Findings) (q : Lookup) : (q : Lookup) × Except Failure q.Found := ⟨q, found q⟩

/-- Lookups of one kind that all come to the same; pages of a project are not to be had. -/
def Findings.byKind (project : Except Failure Project) (company : Except Failure Company)
    (listing employees : Except Failure SignaturePage) (orgs : Except Failure (List GithubOrg))
    (managers : Except Failure (List ClaManager)) : Findings
  | .project _ => project
  | .company _ => company
  | .corporate _ _ => listing
  | .employees _ _ => employees
  | .organizations _ _ => orgs
  | .managers _ => managers
  | .page _ _ => .error .transport

namespace CompanyProjectView

variable {companyId projectId : String} {found found' : Findings} {v v' : CompanyProjectView}
  {u u' : List ((q : Lookup) × Except Failure q.Found)}

/-- The lookups that belong to a corporate listing: none, unless it has a corporate record. -/
def detailLookups (companyId projectId : String) : Except Failure SignaturePage → List Lookup
  | .ok page =>
    match page.firstCorporate? with
    | some s => [.organizations companyId projectId, .managers s.id]
    | none => []
  | .error _ => []

/-- The lookups of a view, in order. -/
def lookups (companyId projectId : String) (found : Findings) : List Lookup :=
  [.project projectId, .company companyId, .corporate companyId projectId, .employees companyId projectId] ++
    detailLookups companyId projectId (found (.corporate companyId projectId))

/-- A section that belongs to the corporate record of a listing. -/
def ofCorporate {α : Type} (listing : Except Failure SignaturePage)
    (f : Signature → Except Failure (List α)) : Section (List α) :=
  match listing with
  | .ok page =>
    match page.firstCorporate? with
    | some s => .ofExcept (f s)
    | none => .loaded []
  | .error _ => .failed corporateUnavailable

/-- The view shows what was found, section by section. -/
structure Shows (companyId projectId : String) (found : Findings) (v : CompanyProjectView) : Prop where
  project : v.project = .ofExcept (found (.project projectId))
  company : v.company = .ofExcept (found (.company companyId))
  corporate : v.corporate = .ofExcept ((found (.corporate companyId projectId)).map fun page =>
    (SignaturePage.firstCorporate? page).map Signature.normalize)
  employees : v.employees = .ofExcept ((found (.employees companyId projectId)).map fun page =>
    Signature.sortByUserName (SignaturePage.records page))
  organizations : v.organizations = ofCorporate (found (.corporate companyId projectId)) fun _ =>
    found (.organizations companyId projectId)
  managers : v.managers = ofCorporate (found (.corporate companyId projectId)) fun s =>
    found (.managers s.id)
  enabled : v.enabledOrganizations =
    match v.organizations with
    | .loaded orgs => orgs.filter (·.selected)
    | .failed _ => []

/-! ## One run -/

theorem details_transcript {listing : Except Failure SignaturePage} {sections}
    (run : (details companyId projectId (.ofExcept (listing.map SignaturePage.corporate?))).Transcript
      u sections) :
    ∃ orgs managers, sections = (ofCorporate listing fun _ => orgs, ofCorporate listing fun _ => managers) ∧
      ∀ project company employees, u = (detailLookups companyId projectId listing).map
        (Findings.byKind project company listing employees orgs managers).entry := by
  cases listing with
  | error e =>
    obtain ⟨rfl, rfl⟩ := transcript_done_iff.1 run
    exact ⟨.error .transport, .error .transport, rfl, fun _ _ _ => rfl⟩
  | ok page =>
    simp only [Except.map, SignaturePage.corporate?_eq] at run
    cases hfirst : page.firstCorporate? with
    | none =>
      rw [hfirst] at run
      obtain ⟨rfl, rfl⟩ := transcript_done_iff.1 run
      exact ⟨.error .transport, .error .transport, by simp [ofCorporate, hfirst], by simp [detailLookups, hfirst]⟩
    | some s =>
      rw [hfirst] at run
      obtain ⟨orgs, _, rfl, run₁⟩ := Search.look_bind_transcript_iff.1 run
      obtain ⟨managers, _, rfl, run₂⟩ := Search.look_bind_transcript_iff.1 run₁
      obtain ⟨rfl, rfl⟩ := transcript_done_iff.1 run₂
      refine ⟨orgs, managers, by simp [ofCorporate, hfirst], fun _ _ _ => ?_⟩
      simp only [detailLookups, hfirst]
      rfl

theorem enabledOrganizations_eq (v : CompanyProjectView) :
    v.enabledOrganizations =
      match v.organizations with
      | .loaded orgs => orgs.filter (·.selected)
      | .failed _ => [] := by
  rw [enabledOrganizations]
  cases v.organizations <;> rfl

/-- Every view shows findings, and these are all that has been looked up. -/
theorem load_shows (run : (load companyId projectId).Transcript u v) :
    ∃ found, u = (lookups companyId projectId found).map found.entry ∧ v.Shows companyId projectId found := by
  obtain ⟨project, _, rfl, run₁⟩ := Search.look_bind_transcript_iff.1 run
  obtain ⟨company, _, rfl, run₂⟩ := Search.look_bind_transcript_iff.1 run₁
  obtain ⟨listing, _, rfl, run₃⟩ := Search.look_bind_transcript_iff.1 run₂
  obtain ⟨employees, _, rfl, run₄⟩ := Search.look_bind_transcript_iff.1 run₃
  rw [bind_eq, transcript_bind_iff] at run₄
  obtain ⟨u, _, ⟨_, _⟩, rfl, details, run₅⟩ := run₄
  obtain ⟨rfl, rfl⟩ := transcript_done_iff.1 run₅
  obtain ⟨orgs, managers, hsections, hu⟩ := details_transcript details
  obtain ⟨rfl, rfl⟩ := Prod.mk.inj hsections
  refine ⟨Findings.byKind project company listing employees orgs managers, ?_, ?_⟩
  · rw [hu project company employees, List.append_nil]
    rfl
  · refine ⟨rfl, rfl, ?_, rfl, rfl, rfl, enabledOrganizations_eq _⟩
    rw [← funext SignaturePage.corporate?_eq]
    rfl

/-! ## Two runs -/

/-- A lookup comes to the same in both runs, or is made in neither. -/
def SameOutcome (u u' : List ((q : Lookup) × Except Failure q.Found)) (q : Lookup) : Prop :=
  ∀ r, ⟨q, r⟩ ∈ u ↔ ⟨q, r⟩ ∈ u'

theorem mem_entries_iff {qs : List Lookup} {q : Lookup} {r : Except Failure q.Found} :
    ⟨q, r⟩ ∈ qs.map found.entry ↔ q ∈ qs ∧ r = found q := by
  simp only [List.mem_map, Findings.entry]
  constructor
  · rintro ⟨_, hq, h⟩
    cases h
    exact ⟨hq, rfl⟩
  · rintro ⟨hq, rfl⟩
    exact ⟨q, hq, rfl⟩

theorem SameOutcome.found_eq {qs qs' : List Lookup} {q : Lookup} (hq : q ∈ qs)
    (same : SameOutcome (qs.map found.entry) (qs'.map found'.entry) q) : found q = found' q :=
  (mem_entries_iff.1 ((same _).1 (mem_entries_iff.2 ⟨hq, rfl⟩))).2

/-- A section of the corporate record is the same where the listing is and, if there is a record,
what was found for it. -/
theorem ofCorporate_congr {α : Type} {listing : Except Failure SignaturePage}
    {f g : Signature → Except Failure (List α)}
    (h : ∀ page s, listing = .ok page → page.firstCorporate? = some s → f s = g s) :
    ofCorporate listing f = ofCorporate listing g := by
  unfold ofCorporate
  split
  next page =>
    split
    next s hs => rw [h page s rfl hs]
    next => rfl
  next => rfl

theorem detailLookups_of_first {listing : Except Failure SignaturePage} {page : SignaturePage} {s : Signature}
    (hpage : listing = .ok page) (hfirst : page.firstCorporate? = some s) :
    detailLookups companyId projectId listing = [.organizations companyId projectId, .managers s.id] := by
  subst hpage
  simp only [detailLookups, hfirst]

/-- **The sections of a view are isolated.** However the lookups come out, the view shows what was
found: the project, the company, the corporate listing and the employees have been looked up once
each, then the organizations and the managers of the first corporate record once each, if the
listing could be had and has one, and nothing else. And whatever else differs between two runs, a
section is the same in both where the lookups that it is made from come to the same. -/
theorem sections_isolated (companyId projectId : String) :
    (∀ u v, (load companyId projectId).Transcript u v →
      ∃ found, u = (lookups companyId projectId found).map found.entry ∧ v.Shows companyId projectId found) ∧
    ∀ u v u' v', (load companyId projectId).Transcript u v → (load companyId projectId).Transcript u' v' →
      (SameOutcome u u' (.project projectId) → v.project = v'.project) ∧
      (SameOutcome u u' (.company companyId) → v.company = v'.company) ∧
      (SameOutcome u u' (.employees companyId projectId) → v.employees = v'.employees) ∧
      (SameOutcome u u' (.corporate companyId projectId) →
        v.corporate = v'.corporate ∧
        (SameOutcome u u' (.organizations companyId projectId) →
          v.organizations = v'.organizations ∧ v.enabledOrganizations = v'.enabledOrganizations) ∧
        ((∀ id, SameOutcome u u' (.managers id)) → v.managers = v'.managers)) := by
  refine ⟨fun u v run => load_shows run, fun u v u' v' run run' => ?_⟩
  obtain ⟨found, rfl, shows⟩ := load_shows run
  obtain ⟨found', rfl, shows'⟩ := load_shows run'
  refine ⟨fun h => ?_, fun h => ?_, fun h => ?_, fun h => ?_⟩
  · rw [shows.project, shows'.project, h.found_eq (by simp [lookups])]
  · rw [shows.company, shows'.company, h.found_eq (by simp [lookups])]
  · rw [shows.employees, shows'.employees, h.found_eq (by simp [lookups])]
  · have hlisting := h.found_eq (by simp [lookups])
    refine ⟨by rw [shows.corporate, shows'.corporate, hlisting], fun horgs => ?_, fun hmanagers => ?_⟩
    · have horganizations : v.organizations = v'.organizations := by
        rw [shows.organizations, shows'.organizations, ← hlisting]
        refine ofCorporate_congr fun page s hpage hfirst => horgs.found_eq ?_
        simp [lookups, detailLookups_of_first hpage hfirst]
      exact ⟨horganizations, by rw [shows.enabled, shows'.enabled, horganizations]⟩
    · rw [shows.managers, shows'.managers, ← hlisting]
      refine ofCorporate_congr fun page s hpage hfirst => (hmanagers s.id).found_eq ?_
      simp [lookups, detailLookups_of_first hpage hfirst]

end CompanyProjectView
end SignatureDesk
