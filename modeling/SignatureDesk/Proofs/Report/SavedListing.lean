/-
The report on a saved listing says what the console says of the same listing. It
makes no difference whether the records stand in an array or in a page object,
the classes are counted as in a listing that was fetched page by page, and the
contributors are the individuals and the employees by name
(`report_agrees_with_listing`).
-/
import Mathlib.Data.List.Perm.Basic
import SignatureDesk.Proofs.AllowList.NormalForm
import SignatureDesk.Proofs.Json.Fields
import SignatureDesk.Proofs.Reconcile.Paging
import SignatureDesk.Report.Command

namespace SignatureDesk

open Json

/-! ## What a saved text holds -/

/-- A page object has the records under their name, or none when there is nothing or null. -/
theorem SignaturePage.records_of_object {ms : Members} {p : SignaturePage}
    (h : SignaturePage.codec.decode (.obj ms) = .ok p) :
    ((ms.lookup "signatures" = none ∨ ms.lookup "signatures" = some .null) ∧ p.records = []) ∨
      ∃ v, ms.lookup "signatures" = some v ∧ v ≠ .null ∧ Signature.codec.list.decode v = .ok p.records := by
  obtain ⟨⟨signatures, behind⟩, hfields, rfl⟩ := except_map_ok_iff.1 h
  obtain ⟨hgiven, -⟩ := Fields.ofMembers_cons_ok_iff.1 hfields
  rcases Fields.lookup_cases hgiven with ⟨hnone, hb⟩ | ⟨v, hv, hb⟩
  · cases hb
    exact .inl ⟨.inl hnone, rfl⟩
  · by_cases hnull : v = .null
    · subst hnull
      cases hb
      exact .inl ⟨.inr hv, rfl⟩
    · rw [Codec.optional_decode_of_ne hnull] at hb
      obtain ⟨records, hrecords, rfl⟩ := except_map_ok_iff.1 hb
      exact .inr ⟨v, hv, hnull, hrecords⟩

namespace Report

/-- The text holds an array of records. -/
def HoldsArray (text : String) (records : List Signature) : Prop :=
  ∃ items, Json.ofText? text = some (.arr items) ∧ Signature.codec.list.decode (.arr items) = .ok records

/-- The text holds a page object with an array of records under their name. -/
def HoldsPage (text : String) (records : List Signature) : Prop :=
  ∃ ms p items, Json.ofText? text = some (.obj ms) ∧ SignaturePage.codec.decode (.obj ms) = .ok p ∧
    ms.lookup "signatures" = some (.arr items) ∧ Signature.codec.list.decode (.arr items) = .ok records

/-- The text holds a page object with nothing or null where the records should stand. -/
def HoldsBarePage (text : String) : Prop :=
  ∃ ms p, Json.ofText? text = some (.obj ms) ∧ SignaturePage.codec.decode (.obj ms) = .ok p ∧
    (ms.lookup "signatures" = none ∨ ms.lookup "signatures" = some .null)

theorem readListing_of_array {text : String} {records : List Signature} (h : HoldsArray text records) :
    readListing text = .ok records := by
  obtain ⟨items, htext, hrecords⟩ := h
  rw [readListing, htext]
  exact except_mapError_ok_iff.2 hrecords

theorem readListing_of_object {text : String} {ms : Members} {p : SignaturePage}
    (htext : Json.ofText? text = some (.obj ms)) (hp : SignaturePage.codec.decode (.obj ms) = .ok p) :
    readListing text = .ok p.records := by
  rw [readListing, htext]
  exact except_mapError_ok_iff.2 (except_map_ok_iff.2 ⟨p, hp, rfl⟩)

theorem readListing_of_page {text : String} {records : List Signature} (h : HoldsPage text records) :
    readListing text = .ok records := by
  obtain ⟨ms, p, items, htext, hp, hlookup, hrecords⟩ := h
  rw [readListing_of_object htext hp]
  rcases SignaturePage.records_of_object hp with ⟨hnone | hnull, -⟩ | ⟨v, hv, -, hread⟩
  · rw [hnone] at hlookup
    cases hlookup
  · rw [hnull] at hlookup
    cases hlookup
  · rw [hv] at hlookup
    cases hlookup
    rw [Except.ok.inj (hread.symm.trans hrecords)]

example :
    readListing "[\x7b\"signatureID\": \"s\", \"signatureType\": \"cla\", \"signatureReferenceType\": \"user\"\x7d]" =
      readListing ("\x7b\"resultCount\": 1, \"signatures\": [\x7b\"signatureID\": \"s\", " ++
        "\"signatureType\": \"cla\", \"signatureReferenceType\": \"user\"\x7d]\x7d") := by
  decide +kernel

theorem readListing_of_barePage {text : String} (h : HoldsBarePage text) : readListing text = .ok [] := by
  obtain ⟨ms, p, htext, hp, hbare⟩ := h
  rw [readListing_of_object htext hp]
  rcases SignaturePage.records_of_object hp with ⟨-, hrecords⟩ | ⟨v, hv, hnull, -⟩
  · rw [hrecords]
  · rcases hbare with hnone | hsome
    · rw [hnone] at hv
      cases hv
    · rw [hsome] at hv
      cases hv
      exact absurd rfl hnull

theorem run_of_readListing {text : String} {records : List Signature} (h : readListing text = .ok records)
    (c : Command) : c.run (some text) = .reported ((ofSignatures records).print c.format) := by
  simp only [Command.run, h]

end Report

/-! ## Listings in pages -/

namespace ProjectListing

/-- A source that has these pages, one behind the other: each but the last says where to go on. -/
structure Serves (source : Source) (projectId : String) (first : PageQuery) (pages : List SignaturePage) : Prop where
  page : ∀ k (h : k < pages.length), found source projectId first k = .ok pages[k]
  going : ∀ k (h : k + 1 < pages.length), pages[k].GoesOn
  ends : ∀ k (h : k < pages.length), k + 1 = pages.length → ¬ pages[k].GoesOn

variable {source : Source} {projectId : String} {first : PageQuery} {pages : List SignaturePage}

theorem Serves.gathered_eq (h : Serves source projectId first pages) :
    gathered source projectId first 0 pages.length = pages.flatMap (·.records) := by
  have hrecords : (List.range pages.length).map (fun k => recordsOf (found source projectId first (0 + k))) =
      pages.map (·.records) := by
    refine List.ext_getElem (by simp) fun k hk hk' => ?_
    rw [List.length_map] at hk'
    simp [h.page k hk', recordsOf]
  rw [gathered, List.flatMap_def, hrecords, List.flatMap_def]

/-- A source of few enough pages is fetched to the last of them. -/
theorem Serves.load_result {pageSize : UInt32} {maxPages : Nat} {filter : PageQuery}
    (h : Serves source projectId { filter with pageSize := some (filter.pageSize.getD pageSize) } pages)
    (some_page : pages ≠ []) (within : pages.length ≤ max maxPages 1) :
    (load pageSize maxPages projectId filter).run.result source [] =
      .ok ⟨projectId, pages.flatMap (·.records), pages.length, false⟩ := by
  obtain ⟨n, hlast, hgoing, -, hresult⟩ :=
    walk_ends source projectId { filter with pageSize := some (filter.pageSize.getD pageSize) } (maxPages - 1) 0
  have hpos : 0 < pages.length := List.length_pos_iff.2 some_page
  have hn : n + 1 = pages.length := by
    by_contra hne
    by_cases hlt : n + 1 < pages.length
    · -- The walk would have ended with a page that says where to go on, before there were as many as may be.
      rcases hlast with hlimit | hends
      · omega
      · rw [Nat.zero_add] at hends
        exact hends _ (h.page n (by omega)) (h.going n hlt)
    · -- The walk would have gone on behind the last page.
      refine hgoing (pages.length - 1) (by omega) (.inr fun page hpage => ?_)
      rw [Nat.zero_add, h.page _ (by omega)] at hpage
      cases hpage
      exact h.ends _ _ (by omega)
  have hfound := h.page n (by omega)
  have hends := h.ends n (by omega) hn
  rw [run_load, Dialogue.result_bind]
  refine (congrArg _ hresult).trans ?_
  rw [outcome, Nat.zero_add, hfound, hn, h.gathered_eq]
  simp [Except.map, hends]

/-- The pages that hold parts of a listing, with a cursor on all but the last. -/
def pagesOf (parts : List (List Signature)) : List SignaturePage :=
  parts.mapIdx fun k part => ⟨some part, none, if k + 1 = parts.length then none else some "next", none⟩

/-- A listing may be split in any way: some source has its parts for pages. -/
theorem exists_serves (projectId : String) (first : PageQuery) (parts : List (List Signature)) :
    ∃ source, Serves source projectId first (pagesOf parts) := by
  let source : Source := fun asked q =>
    match q with
    | .page _ _ => (pagesOf parts)[asked.length]?.elim (.error .transport) .ok
    | _ => .error .transport
  refine ⟨source, fun k hk => ?_, fun k hk => ?_, fun k hk hlast => ?_⟩
  · show (pagesOf parts)[(turn source projectId first k).1.length]?.elim (Except.error Failure.transport) Except.ok = _
    rw [turn_fst, List.length_map, List.length_range, List.getElem?_eq_getElem hk]
    rfl
  · have hgoing : k + 1 ≠ parts.length := by
      rw [pagesOf, List.length_mapIdx] at hk
      omega
    have hblank : Text.isBlank "next" = false := by decide +kernel
    simp [pagesOf, hgoing, SignaturePage.GoesOn, hblank]
  · rw [pagesOf, List.length_mapIdx] at hlast
    simp [pagesOf, hlast, SignaturePage.GoesOn]

theorem map_records_pagesOf (parts : List (List Signature)) : (pagesOf parts).map (·.records) = parts := by
  refine List.ext_getElem (by simp [pagesOf]) fun k hk hk' => ?_
  simp [pagesOf, SignaturePage.records]

end ProjectListing

/-! ## Contributors -/

namespace Report

/-- The records of individuals in listing order, then those of employees. -/
def individualsThenEmployees (records : List Signature) : List Signature :=
  records.filter (·.classify = .individual) ++ records.filter (·.classify = .employee)

theorem contributors_eq (records : List Signature) :
    (ofSignatures records).contributors =
      Entries.sortByName (·.userName) (individualsThenEmployees records) := by
  simp only [ofSignatures, Partition.contributors, Partition.ofList, Signature.bucket_eq_individual_iff,
    Signature.bucket_eq_employee_iff, Signature.sortByUserName, individualsThenEmployees]

theorem individualsThenEmployees_perm (records : List Signature) :
    (individualsThenEmployees records).Perm
      (records.filter fun s => s.classify = .individual ∨ s.classify = .employee) := by
  induction records with
  | nil => exact .refl _
  | cons s records ih =>
    unfold individualsThenEmployees at ih ⊢
    cases hs : s.classify with
    | individual => simpa [hs] using ih
    | employee => simpa [hs] using List.perm_middle.trans (ih.cons s)
    | company => simpa [hs] using ih
    | unknown => simpa [hs] using ih

/-! ## Agreement -/

/-- **The report agrees with the console.** The command reports on some records in the same way whether
its file holds them as an array or in a page object, in either format, and on a page object without
records as on none. The report counts classes as the listing of a project does, however the listing is
split into pages, as long as they are within the limit. Its contributors are the individuals
and employees, arranged by name where those of the same name, or without one, stay in the order of
the listing, individuals first. -/
theorem report_agrees_with_listing (records : List Signature) :
    (∀ (c : Command) text, HoldsArray text records ∨ HoldsPage text records →
      c.run (some text) = .reported ((ofSignatures records).print c.format)) ∧
    (∀ (c : Command) text, HoldsBarePage text → c.run (some text) = .reported ((ofSignatures []).print c.format)) ∧
    (∀ (parts : List (List Signature)) pageSize maxPages projectId filter, parts ≠ [] → parts.flatten = records →
      parts.length ≤ max maxPages 1 →
      let first := { filter with pageSize := some (filter.pageSize.getD pageSize) }
      (∃ source pages, ProjectListing.Serves source projectId first pages ∧ pages.map (·.records) = parts) ∧
      ∀ source pages, ProjectListing.Serves source projectId first pages → pages.map (·.records) = parts →
        ∃ l, (ProjectListing.load pageSize maxPages projectId filter).run.result source [] = .ok l ∧
          l.signatures = records ∧ l.pages = parts.length ∧ l.truncated = false ∧
          l.counts = (ofSignatures records).classes ∧
          ∀ rows, (l.toJson rows).get? "counts" = (ofSignatures records).toJson.get? "counts") ∧
    let contributors := (ofSignatures records).contributors
    contributors = Entries.sortByName (·.userName) (individualsThenEmployees records) ∧
      Arranged (fun a b => Entries.compareNames a.userName b.userName) (individualsThenEmployees records)
        contributors ∧
      contributors.Perm (records.filter fun s => s.classify = .individual ∨ s.classify = .employee) ∧
      (ofSignatures records).toJson.get? "contributors" = some (Signature.codec.list.encode contributors) := by
  have harranged := Entries.arranged_sortByName (·.userName) (individualsThenEmployees records)
  refine ⟨fun c text h => ?_, fun c text h => ?_, fun parts pageSize maxPages projectId filter hparts hflat within => ?_,
    contributors_eq records, ?_, ?_, rfl⟩
  · exact run_of_readListing (h.elim readListing_of_array readListing_of_page) c
  · exact run_of_readListing (readListing_of_barePage h) c
  · refine ⟨?_, fun source pages serves hrecords => ?_⟩
    · obtain ⟨source, serves⟩ := ProjectListing.exists_serves projectId
        { filter with pageSize := some (filter.pageSize.getD pageSize) } parts
      exact ⟨source, _, serves, ProjectListing.map_records_pagesOf parts⟩
    · have hlength : pages.length = parts.length := by rw [← hrecords, List.length_map]
      have hall : pages.flatMap (·.records) = records := by rw [List.flatMap_def, hrecords, hflat]
      have hpages : pages ≠ [] := by
        rintro rfl
        exact hparts hrecords.symm
      have hload := serves.load_result hpages (hlength ▸ within)
      have hcounts : ∀ l : ProjectListing, l.signatures = records → l.counts = (ofSignatures records).classes := by
        rintro l rfl
        exact l.counts_eq
      refine ⟨_, hload, hall, hlength, rfl, hcounts _ hall, fun rows => ?_⟩
      exact congrArg (fun counts => some (ProjectListing.countsJson counts)) (hcounts _ hall)
  · rw [contributors_eq]
    exact harranged
  · rw [contributors_eq]
    exact harranged.perm.trans (individualsThenEmployees_perm records)

end Report
end SignatureDesk
