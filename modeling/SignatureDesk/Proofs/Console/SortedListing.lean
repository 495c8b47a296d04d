/-
Listings in two orders. What a request says about the order of the rows is read apart
from what it says about the listing, and looked at only when the listing
is there: `fetchListing` is all that comes before. So two requests that differ only in the
order they ask for make the same calls, and come to the same failure or to the same
rows in another order (`listing_only_reordered`).
-/
import SignatureDesk.Proofs.Console.Sample
import SignatureDesk.Proofs.Listing.SortedRows
import SignatureDesk.Proofs.Reconcile.Paging
import SignatureDesk.Proofs.Reconcile.Rows

namespace SignatureDesk

open Dialogue

/-! ## What is said about the order -/

namespace Query

variable {pairs pairs' : List (String × String)}

/-- The pairs that say nothing about the order of a listing. -/
def unsorted (pairs : List (String × String)) : List (String × String) :=
  pairs.filter fun pair => pair.1 ∉ ["sort", "kind", "direction"]

theorem field_unsorted {α : Type} {name : String} {read : String → Option α}
    (h : name ∉ ["sort", "kind", "direction"]) : field (unsorted pairs) name read = field pairs name read := by
  have hfilter : (unsorted pairs).filter (·.1 == name) = pairs.filter (·.1 == name) := by
    rw [unsorted, List.filter_filter]
    refine List.filter_congr fun pair _ => ?_
    by_cases hname : pair.1 = name
    · rw [hname]
      simpa using h
    · simp [hname]
  rw [field, field, hfilter]

/-- What a listing is restricted to has nothing to do with its order. -/
theorem filter_unsorted : filter (unsorted pairs) = filter pairs := by
  simp only [filter]
  rw [field_unsorted (by decide), field_unsorted (by decide), field_unsorted (by decide), field_unsorted (by decide),
    field_unsorted (by decide), field_unsorted (by decide)]

end Query

/-- The project that is listed and what the listing is restricted to. -/
def listed? (project : String) (pairs : List (String × String)) : Except Rejection (String × PageQuery) :=
  match (Resource.projectSignatures project).decoded? with
  | some (.projectSignatures project) => (Query.filter pairs).map fun filter => (project, filter)
  | _ => .error .path

theorem read?_projectSignatures {project : String} {i : Incoming} {x : Option SortSpec} (verb : i.verb = .get)
    (sort : Query.sort i.query = .ok x) :
    Operation.read? (.projectSignatures project) i =
      some ((listed? project i.query).map fun l => .projectSignatures l.1 l.2 x) := by
  have hserved : i.verb.served = .get := by rw [verb]; rfl
  cases hproject : Text.ofUtf8? (Url.percentDecode project.toList) with
  | none =>
    have hdecoded : (Resource.projectSignatures project).decoded? = none := by
      simp [Resource.decoded?, Resource.mapTexts?, hproject]
    rw [Operation.read?, listed?, hdecoded]
    simp [Operation.ofDecoded?, hserved, Except.map]
  | some p =>
    have hdecoded : (Resource.projectSignatures project).decoded? = some (.projectSignatures p) := by
      simp [Resource.decoded?, Resource.mapTexts?, hproject]
    rw [Operation.read?, listed?, hdecoded]
    simp only [Operation.ofDecoded?, hserved, sort]
    cases Query.filter i.query <;> rfl

/-! ## What comes before the order -/

/-- Fetches the listing of a project for a session that may have it. -/
def gatherListing (limits : Config.Limits) (s : Session) (project : String) (filter : PageQuery) :
    Remote ProjectListing := do
  Remote.ofExcept (Guard.authenticated.check s)
  Search.remote s.claCredentials (ProjectListing.load limits.pageSize limits.maxPages.toNat project filter)

/-- The rows of a listing as they were gathered, or as they are asked for. -/
def ProjectListing.rowsBy (l : ProjectListing) (x : Option SortSpec) : List Json :=
  x.elim l.rows fun spec => spec.apply l.rows

/-- The rows are put in order once the listing has been fetched. -/
theorem perform_projectSignatures {limits : Config.Limits} {s : Session} {project : String} {filter : PageQuery}
    {x : Option SortSpec} :
    ((Operation.projectSignatures project filter x).perform limits s).run =
      (gatherListing limits s project filter).run.bind fun y =>
        .done (y >>= fun l => .ok (.ok (l.toJson (l.rowsBy x)))) := by
  have hrows : ∀ l, Operation.sortedRows l x = l.rowsBy x := by
    intro l
    cases x <;> rfl
  have hpermit : (Operation.projectSignatures project filter x).permit s = Guard.authenticated.check s := rfl
  rw [← Remote.run_bind_ofExcept, Operation.perform, hpermit, Operation.execute, gatherListing]
  simp only [hrows]
  cases Guard.authenticated.check s <;> rfl

/-- What a listing, or the answer there is without one, comes to. -/
def listingHandled (x : Option SortSpec) : Except Answer ProjectListing → Handled
  | .error a => .only a
  | .ok l => .only (.ok (l.toJson (l.rowsBy x)))

namespace Console

variable {c : Console} {m : Moment} {store : SessionStore} {i i' : Incoming} {project : String}
  {x x' : Option SortSpec}

/-- The listing for a session, or the answer there is without one. -/
def fetchListing (c : Console) (live : Except Failure Session) (listed : Except Rejection (String × PageQuery)) :
    Calling (Except Answer ProjectListing) :=
  match live, listed with
  | .error f, _ => .done (.error (.ofFailure f))
  | .ok _, .error r => .done (.error r.answer)
  | .ok s, .ok l => (gatherListing c.config.limits s l.1 l.2).run.bind fun y => .done (y.mapError Answer.ofFailure)

/-- The order is looked at last. -/
theorem handle_projectSignatures (path : Target.ofPath? i.path = some (.guarded (.projectSignatures project)))
    (verb : i.verb = .get) (sort : Query.sort i.query = .ok x) :
    c.handle m store i = (c.fetchListing (sessionOf store i) (listed? project i.query)).bind fun y =>
      .done (listingHandled x y) := by
  have hverb : i.verb ≠ .head := by simp [verb]
  rw [handle, serve, path]
  cases live : sessionOf store i with
  | error f => simp [fetchListing, hverb, listingHandled]
  | ok s =>
    simp only [serveGuarded, read?_projectSignatures verb sort]
    cases listed? project i.query with
    | error r => simp [fetchListing, hverb, listingHandled, Except.map]
    | ok l =>
      simp only [Except.map, perform_projectSignatures, fetchListing, bind_eq, bind_assoc]
      refine congrArg (Dialogue.bind _) (funext fun y => ?_)
      cases y <;> simp [hverb, listingHandled, Except.mapError] <;> rfl

/-- There is a refusal to answer with, or a listing of the pages that were fetched. -/
theorem fetchListing_cases {live : Except Failure Session} {listed : Except Rejection (String × PageQuery)}
    {t : Calls} {y : Except Answer ProjectListing} (run : (c.fetchListing live listed).Transcript t y) :
    (∃ a, y = .error a ∧ 400 ≤ a.status) ∨
      ∃ l pages, y = .ok l ∧ ProjectListing.Walked t pages l.signatures l.pages l.truncated := by
  cases live with
  | error f =>
    obtain ⟨-, rfl⟩ := transcript_done_iff.1 run
    exact .inl ⟨_, rfl, f.le_status⟩
  | ok s =>
    cases listed with
    | error r =>
      obtain ⟨-, rfl⟩ := transcript_done_iff.1 run
      exact .inl ⟨_, rfl, r.le_status⟩
    | ok l =>
      obtain ⟨t₁, t₂, x, rfl, fetched, hend⟩ := transcript_bind_iff.1 run
      obtain ⟨rfl, rfl⟩ := transcript_done_iff.1 hend
      cases x with
      | error f => exact .inl ⟨_, rfl, f.le_status⟩
      | ok l =>
        rcases transcript_attempt_found_iff.1 fetched with ⟨_, -, -, he⟩ | ⟨_, -, loaded⟩
        · cases he
        · obtain ⟨pages, walked⟩ := ProjectListing.load_transcript loaded
          rw [List.append_nil]
          exact .inr ⟨l, pages, rfl, walked⟩

/-- **An order only reorders.** Two requests for the listing of a project that differ in nothing but the
order they ask for make the same calls in every world, and whatever the replies, are refused with one answer or are
answered with one listing. Its rows stand for the records of the pages, as they came or as sorting
them puts them: every row can be read as its record, and has the class of it. -/
theorem listing_only_reordered (c : Console) (m : Moment) (store : SessionStore)
    (path : Target.ofPath? i.path = some (.guarded (.projectSignatures project))) (verb : i.verb = .get)
    (path' : Target.ofPath? i'.path = some (.guarded (.projectSignatures project))) (verb' : i'.verb = .get)
    (bearer : i'.authorization = i.authorization) (pairs : Query.unsorted i'.query = Query.unsorted i.query)
    (sort : Query.sort i.query = .ok x) (sort' : Query.sort i'.query = .ok x') :
    (∀ world : List Call → Call → Except Failure Reply,
      (c.handle m store i').questions world [] = (c.handle m store i).questions world []) ∧
    ∀ t h, (c.handle m store i).Transcript t h → ∃ h', (c.handle m store i').Transcript t h' ∧
      ((h' = h ∧ 400 ≤ h.answer.status) ∨
        ∃ (l : ProjectListing) (pages : List SignaturePage),
          ProjectListing.Walked t pages l.signatures l.pages l.truncated ∧
          h.answer = .ok (l.toJson (l.rowsBy x)) ∧ h'.answer = .ok (l.toJson (l.rowsBy x')) ∧
          (l.rowsBy x).Perm (l.signatures.map ProjectListing.row) ∧ (l.rowsBy x').Perm (l.rowsBy x) ∧
          ∀ s ∈ l.signatures, Signature.codec.decode (ProjectListing.row s) = .ok s ∧
            (ProjectListing.row s).get? "classification" = some (.str s.classify.name)) := by
  have hsession : sessionOf store i' = sessionOf store i := by rw [sessionOf, sessionOf, bearer]
  have hlisted : listed? project i'.query = listed? project i.query := by
    rw [listed?, listed?, ← Query.filter_unsorted, pairs, Query.filter_unsorted]
  rw [handle_projectSignatures path verb sort, handle_projectSignatures path' verb' sort', hsession, hlisted]
  refine ⟨fun world => by rw [questions_bind, questions_bind]; rfl, fun t h run => ?_⟩
  obtain ⟨t₁, t₂, y, rfl, fetched, hend⟩ := transcript_bind_iff.1 run
  obtain ⟨rfl, rfl⟩ := transcript_done_iff.1 hend
  refine ⟨listingHandled x' y, fetched.bind .done, ?_⟩
  rw [List.append_nil]
  rcases fetchListing_cases fetched with ⟨a, rfl, hstatus⟩ | ⟨l, pages, rfl, walked⟩
  · exact .inl ⟨rfl, hstatus⟩
  have hperm : ∀ x : Option SortSpec, (l.rowsBy x).Perm l.rows := by
    intro x
    cases x with
    | none => exact .refl _
    | some spec => exact (SortSpec.arranged_apply spec l.rows).perm
  refine .inr ⟨l, pages, walked, rfl, rfl, hperm x, (hperm x').trans (hperm x).symm, fun s hs => ?_⟩
  obtain ⟨v, hv⟩ := walked.exists_decode hs
  refine ⟨ProjectListing.decode_row hv, ?_⟩
  rw [ProjectListing.get?_row, if_pos rfl]

end Console

namespace Sample

/-- A listing as it comes, and the same one from the last id to the first. -/
def listing : Incoming := request .get "/projects/p-1/signatures?pageSize=5" ""

def listingById : Incoming := request .get "/projects/p-1/signatures?sort=signatureID&pageSize=5&direction=desc" ""

/-- Whatever is asked for is a page of two records, each an array of its first fields. -/
def twoRecords (_ : List Call) (_ : Call) : Except Failure Reply :=
  .ok ⟨200, "\x7b\"signatures\": [[\"s-1\", \"cla\", \"user\"], [\"s-2\", \"cla\", \"user\"]]\x7d"⟩

/-- Both are answered, with the same records in their orders. -/
theorem listing_reordered : ∃ t h h' l, (console.handle moment store listing).Transcript t h ∧
    (console.handle moment store listingById).Transcript t h' ∧
    h.answer = .ok (ProjectListing.toJson l (l.rowsBy none)) ∧
    h'.answer = .ok (l.toJson (l.rowsBy (some ⟨"signatureID", .text, .desc⟩))) ∧
    (l.rowsBy (some ⟨"signatureID", .text, .desc⟩)).Perm (l.rowsBy none) := by
  have hstatus : ((console.handle moment store listing).result twoRecords []).answer.status = 200 := by decide +kernel
  have sort : Query.sort listing.query = .ok none := except_toOption_eq_some_iff.1 (by decide +kernel)
  have sort' : Query.sort listingById.query = .ok (some ⟨"signatureID", .text, .desc⟩) :=
    except_toOption_eq_some_iff.1 (by decide +kernel)
  obtain ⟨t, run, -⟩ := exists_transcript twoRecords (console.handle moment store listing) []
  have path : Target.ofPath? listing.path = some (.guarded (.projectSignatures "p-1")) := by decide +kernel
  have path' : Target.ofPath? listingById.path = some (.guarded (.projectSignatures "p-1")) := by decide +kernel
  have pairs : Query.unsorted listingById.query = Query.unsorted listing.query := by decide +kernel
  obtain ⟨-, hruns⟩ := Console.listing_only_reordered console moment store path rfl path' rfl rfl pairs sort sort'
  obtain ⟨h', run', hrefused | ⟨l, pages, -, hanswer, hanswer', -, hperm, -⟩⟩ := hruns t _ run
  · rw [hstatus] at hrefused
    exact absurd hrefused.2 (by decide)
  · exact ⟨t, _, h', l, run, run', hanswer, hanswer', hperm⟩

end Sample
end SignatureDesk
