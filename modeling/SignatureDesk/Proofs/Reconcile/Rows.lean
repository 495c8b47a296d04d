/-
What the rows of a listing stand for. A listing that was fetched has the records of the
pages that the replies were read as, page after page (`load_transcript`), and each
of its rows is such a record with one member more, so it can be read as that
record again (`decode_row`).
-/
import Mathlib.Data.List.Forall2
import SignatureDesk.Proofs.Records.ReadBack
import SignatureDesk.Proofs.Remote.Call
import SignatureDesk.Reconcile.Listing

namespace SignatureDesk

open Dialogue Json Fields Codec

/-- The records of a page that was read were read themselves. -/
theorem SignaturePage.exists_of_mem_records {v : Json} {page : SignaturePage} {s : Signature}
    (h : SignaturePage.codec.decode v = .ok page) (hs : s ∈ page.records) : ∃ w, Signature.codec.decode w = .ok s := by
  obtain ⟨⟨signatures, behind⟩, hfields, rfl⟩ := except_map_ok_iff.1 h
  rcases record_default_cases hfields with rfl | ⟨w, hw⟩
  · cases hs
  · by_cases hnull : w = .null
    · subst hnull
      cases hw
      cases hs
    · rw [optional_decode_of_ne hnull] at hw
      obtain ⟨records, hrecords, rfl⟩ := except_map_ok_iff.1 hw
      cases w with
      | arr items =>
        obtain ⟨w, -, hw⟩ := mem_of_decodeItems hrecords hs
        exact ⟨w, hw⟩
      | _ => simp [Codec.list] at hrecords

namespace ProjectListing

theorem decode_row {v : Json} {s : Signature} (h : Signature.codec.decode v = .ok s) :
    Signature.codec.decode (row s) = .ok s := by
  obtain ⟨ms, hms, hread⟩ := Signature.codec_reads.2 v s h
  rw [row, hms]
  exact hread (.str s.classify.name) rfl true

/-- A walk over replies that were read as these pages: it has their records, and was cut short if the last of
them has a cursor. -/
structure Walked (t : Calls) (pages : List SignaturePage) (signatures : List Signature) (count : Nat)
    (truncated : Bool) : Prop where
  yielded : List.Forall₂ (fun x page => Yields SignaturePage.codec x.2 page) t pages
  signatures_eq : signatures = pages.flatMap (·.records)
  count_eq : count = pages.length
  truncated_eq : pages.getLast?.map (·.cursor?.isSome) = some truncated

variable {creds : Credentials} {projectId : String} {t : Calls}

theorem page_transcript {query : PageQuery} {page : SignaturePage}
    (h : (Cla.page creds projectId query).run.Transcript t (.ok page)) :
    ∃ x, t = [x] ∧ Yields SignaturePage.codec x.2 page := by
  rcases transcript_attempt_found_iff.1 h with ⟨_, -, -, he⟩ | ⟨path, -, h⟩
  · cases he
  · obtain ⟨a, rfl, hpage⟩ := Remote.fetch_transcript_iff.1 h
    exact ⟨_, rfl, (Remote.fetched_ok_iff _).1 hpage.symm⟩

theorem Walked.single {x : (_ : Call) × Except Failure Reply} {page : SignaturePage}
    (h : Yields SignaturePage.codec x.2 page) : Walked [x] [page] page.records 1 page.cursor?.isSome where
  yielded := .cons h .nil
  signatures_eq := (List.flatMap_singleton ..).symm
  count_eq := rfl
  truncated_eq := rfl

theorem Walked.cons {x : (_ : Call) × Except Failure Reply} {page : SignaturePage} {pages : List SignaturePage}
    {signatures : List Signature} {count : Nat} {truncated : Bool} (h : Yields SignaturePage.codec x.2 page)
    (rest : Walked t pages signatures count truncated) :
    Walked (x :: t) (page :: pages) (page.records ++ signatures) (count + 1) truncated where
  yielded := .cons h rest.yielded
  signatures_eq := by rw [rest.signatures_eq, List.flatMap_cons]
  count_eq := by rw [rest.count_eq, List.length_cons]
  truncated_eq := by
    obtain ⟨last, hlast, htruncated⟩ := Option.map_eq_some_iff.1 rest.truncated_eq
    rw [List.getLast?_cons, hlast, ← htruncated]
    rfl

theorem walk_transcript {more : Nat} {query : PageQuery} {w : Walk}
    (h : (Search.remote creds (walk projectId more query)).run.Transcript t (.ok w)) :
    ∃ pages, Walked t pages w.signatures w.pages w.truncated := by
  induction more generalizing query t w with
  | zero =>
    rw [walk, Search.remote_bind, Search.remote_need] at h
    rcases transcript_attempt_bind_iff.1 h with ⟨_, he, -⟩ | ⟨t₁, t₂, (page : SignaturePage), rfl, hpage, hend⟩
    · cases he
    obtain ⟨x, rfl, hyields⟩ := page_transcript hpage
    obtain ⟨rfl, hw⟩ := transcript_attempt_pure_iff.1 hend
    cases hw
    exact ⟨[page], .single hyields⟩
  | succ more ih =>
    rw [walk, Search.remote_bind, Search.remote_need] at h
    rcases transcript_attempt_bind_iff.1 h with ⟨_, he, -⟩ | ⟨t₁, t₂, (page : SignaturePage), rfl, hpage, hrest⟩
    · cases he
    obtain ⟨x, rfl, hyields⟩ := page_transcript hpage
    cases hcursor : page.cursor? with
    | none =>
      simp only [hcursor] at hrest
      obtain ⟨rfl, hw⟩ := transcript_attempt_pure_iff.1 hrest
      cases hw
      have walked := Walked.single hyields
      rw [hcursor] at walked
      exact ⟨[page], walked⟩
    | some key =>
      simp only [hcursor] at hrest
      rw [Search.remote_bind] at hrest
      rcases transcript_attempt_bind_iff.1 hrest with ⟨_, he, -⟩ | ⟨t₂, t₃, w', rfl, hwalk, hend⟩
      · cases he
      obtain ⟨rfl, hw⟩ := transcript_attempt_pure_iff.1 hend
      cases hw
      obtain ⟨pages, walked⟩ := ih hwalk
      rw [List.append_nil]
      exact ⟨page :: pages, .cons hyields walked⟩

theorem load_transcript {pageSize : UInt32} {maxPages : Nat} {filter : PageQuery} {l : ProjectListing}
    (h : (Search.remote creds (load pageSize maxPages projectId filter)).run.Transcript t (.ok l)) :
    ∃ pages, Walked t pages l.signatures l.pages l.truncated := by
  rw [load, Search.remote_bind] at h
  rcases transcript_attempt_bind_iff.1 h with ⟨_, he, -⟩ | ⟨t₁, t₂, w, rfl, hwalk, hend⟩
  · cases he
  obtain ⟨rfl, hl⟩ := transcript_attempt_pure_iff.1 hend
  cases hl
  rw [List.append_nil]
  exact walk_transcript hwalk

/-- Every record that was gathered was read. -/
theorem Walked.exists_decode {pages : List SignaturePage} {signatures : List Signature} {count : Nat}
    {truncated : Bool} (walked : Walked t pages signatures count truncated) {s : Signature} (hs : s ∈ signatures) :
    ∃ v, Signature.codec.decode v = .ok s := by
  have hpages : ∀ {t : Calls} {pages : List SignaturePage},
      List.Forall₂ (fun x page => Yields SignaturePage.codec x.2 page) t pages →
        ∀ page ∈ pages, ∃ x, Yields SignaturePage.codec x page := by
    intro t pages yielded
    induction yielded with
    | nil => simp
    | cons h _ ih => exact List.forall_mem_cons.2 ⟨⟨_, h⟩, ih⟩
  rw [walked.signatures_eq] at hs
  obtain ⟨page, hpage, hs⟩ := List.mem_flatMap.1 hs
  obtain ⟨x, reply, -, -, hread⟩ := hpages walked.yielded page hpage
  obtain ⟨v, hv⟩ := Reply.decode_of_read hread
  exact SignaturePage.exists_of_mem_records hv hs

end ProjectListing
end SignatureDesk
