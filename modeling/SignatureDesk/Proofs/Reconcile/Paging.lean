/-
The walk over the pages of a listing. A source answers each lookup from the ones
before it, so it may answer the same query differently the next time. `turn`
lays out where such a source leads, page by page, without regard to any limit:
the lookups before each page and the query it is asked by. A walk is then the
turns up to the first page that is the last, because nothing is said of where to
go on (`SignaturePage.GoesOn`), it could not be had, or it is as many as there may be.
-/
import SignatureDesk.Reconcile.Listing
import SignatureDesk.Proofs.Dialogue.Transcript
import SignatureDesk.Proofs.Json.Members
import SignatureDesk.Proofs.Reconcile.Accounting

namespace SignatureDesk

open Dialogue

/-- A source of what is looked up. -/
abbrev Source := List Lookup → (q : Lookup) → Except Failure q.Found

namespace SignaturePage

/-- The page says where to go on: behind a last key, which is more than white space. -/
def GoesOn (page : SignaturePage) : Prop := ∃ key, page.lastKeyScanned = some key ∧ Text.isBlank key = false

variable {page : SignaturePage}

theorem cursor?_eq_some_iff {key : String} :
    page.cursor? = some key ↔ page.lastKeyScanned = some key ∧ Text.isBlank key = false := by
  simp [cursor?, Option.filter_eq_some_iff]

theorem isSome_cursor?_iff : page.cursor?.isSome = true ↔ page.GoesOn := by
  simp only [Option.isSome_iff_exists, cursor?_eq_some_iff, GoesOn]

theorem cursor?_eq_none_iff : page.cursor? = none ↔ ¬ page.GoesOn := by
  rw [← isSome_cursor?_iff, Option.not_isSome_iff_eq_none]

instance : Decidable page.GoesOn := decidable_of_iff _ isSome_cursor?_iff

theorem isSome_cursor? : page.cursor?.isSome = decide page.GoesOn := by
  rw [Bool.eq_iff_iff, isSome_cursor?_iff, decide_eq_true_iff]

end SignaturePage

namespace ProjectListing

variable (source : Source) (projectId : String) (first : PageQuery)

/-- The query behind a page: the first one, at the page's cursor. -/
def following (first : PageQuery) : Except Failure SignaturePage → PageQuery
  | .ok page => { first with nextKey := page.cursor? }
  | .error _ => first

/-- The lookups before a page, counted from zero, and the page's own query. -/
def turn : Nat → List Lookup × PageQuery
  | 0 => ([], first)
  | k + 1 =>
    let before := turn k
    (before.1 ++ [.page projectId before.2],
     following first (source before.1 (.page projectId before.2)))

/-- The query that a page is asked by. -/
def query (k : Nat) : PageQuery := (turn source projectId first k).2

/-- What the source has for a page. -/
def found (k : Nat) : Except Failure SignaturePage :=
  source (turn source projectId first k).1 (.page projectId (query source projectId first k))

/-- The records of a page that could be had. -/
def recordsOf : Except Failure SignaturePage → List Signature
  | .ok page => page.records
  | .error _ => []

/-- The records of `n` pages from one on, put together. -/
def gathered (k n : Nat) : List Signature :=
  (List.range n).flatMap fun j => recordsOf (found source projectId first (k + j))

theorem turn_fst (k : Nat) :
    (turn source projectId first k).1 =
      (List.range k).map fun j => Lookup.page projectId (query source projectId first j) := by
  induction k with
  | zero => rfl
  | succ k ih => simp [turn, ih, List.range_succ, query]

theorem query_succ {k : Nat} {page : SignaturePage} (h : found source projectId first k = .ok page) :
    query source projectId first (k + 1) = { first with nextKey := page.cursor? } := by
  rw [found, query] at h
  rw [query, turn]
  simp only [h, following]

/-- All queries are the first one but for the place where they start. -/
theorem query_nextKey (k : Nat) (key : Option String) :
    { query source projectId first k with nextKey := key } = { first with nextKey := key } := by
  cases k with
  | zero => rfl
  | succ k =>
    rw [query, turn]
    simp only
    generalize source _ _ = reply
    cases reply <;> rfl

theorem gathered_succ (k n : Nat) :
    gathered source projectId first k (n + 1) =
      recordsOf (found source projectId first k) ++ gathered source projectId first (k + 1) n := by
  simp [gathered, List.range_succ_eq_map, List.flatMap_map, Nat.add_assoc, Nat.add_comm 1]

/-! ## Walks -/

/-- How a walk goes on behind a page. -/
def behind : Nat → PageQuery → Except Failure SignaturePage → Search (Except Failure Walk)
  | _, _, .error e => .done (.error e)
  | 0, _, .ok page => .done (.ok ⟨page.records, 1, page.cursor?.isSome⟩)
  | more + 1, query, .ok page =>
    match page.cursor? with
    | none => .done (.ok ⟨page.records, 1, false⟩)
    | some key =>
      (walk projectId more { query with nextKey := some key }).run.bind fun rest =>
        .done (rest.map fun rest => ⟨page.records ++ rest.signatures, rest.pages + 1, rest.truncated⟩)

theorem run_walk (more : Nat) (query : PageQuery) :
    (walk projectId more query).run = .ask (.page projectId query) (behind projectId more query) := by
  have hsucc : ∀ (more : Nat) (page : SignaturePage),
      ExceptT.run (match page.cursor? with
        | none => pure (Walk.mk page.records 1 false)
        | some key => do
          let rest ← walk projectId more { query with nextKey := some key }
          return Walk.mk (page.records ++ rest.signatures) (rest.pages + 1) rest.truncated) =
      behind projectId (more + 1) query (.ok page) := by
    intro more page
    rw [behind]
    cases page.cursor? with
    | none => rfl
    | some key =>
      refine congrArg (Dialogue.bind _) (funext fun rest => ?_)
      cases rest <;> rfl
  cases more with
  | zero =>
    refine congrArg (Dialogue.ask (Lookup.page projectId query)) (funext fun reply => ?_)
    cases reply <;> rfl
  | succ more =>
    refine congrArg (Dialogue.ask (Lookup.page projectId query)) (funext fun reply => ?_)
    cases reply with
    | error e => rfl
    | ok page => exact hsucc more page

theorem questions_walk (more k : Nat) :
    (walk projectId more (query source projectId first k)).run.questions source
        (turn source projectId first k).1 =
      (behind projectId more (query source projectId first k) (found source projectId first k)).questions
        source (turn source projectId first (k + 1)).1 := by
  rw [run_walk]
  rfl

theorem result_walk (more k : Nat) :
    (walk projectId more (query source projectId first k)).run.result source
        (turn source projectId first k).1 =
      (behind projectId more (query source projectId first k) (found source projectId first k)).result
        source (turn source projectId first (k + 1)).1 := by
  rw [run_walk]
  rfl

/-- A page is the last of at most `limit` when there may be no more, when it cannot
be had, or when it does not say where to go on. -/
def IsLast (limit k : Nat) : Prop :=
  limit ≤ k + 1 ∨ ∀ page, found source projectId first k = .ok page → ¬ page.GoesOn

/-- Behind a page that is not the last comes the one at its cursor. -/
theorem exists_of_not_isLast {limit k : Nat} (h : ¬ IsLast source projectId first limit k) :
    ∃ page key, found source projectId first k = .ok page ∧
      page.lastKeyScanned = some key ∧ Text.isBlank key = false ∧
      query source projectId first (k + 1) = { first with nextKey := some key } := by
  rw [IsLast, not_or] at h
  obtain ⟨-, h⟩ := h
  push Not at h
  obtain ⟨page, hf, key, hkey, hblank⟩ := h
  have hcursor : page.cursor? = some key := SignaturePage.cursor?_eq_some_iff.2 ⟨hkey, hblank⟩
  exact ⟨page, key, hf, hkey, hblank, by rw [query_succ source projectId first hf, hcursor]⟩

/-- What a walk from page `k` on has come to once it has ended with the `n`th page behind it. -/
def outcome (k n : Nat) : Except Failure Walk :=
  (found source projectId first (k + n)).map fun page =>
    ⟨gathered source projectId first k (n + 1), n + 1, page.GoesOn⟩

theorem outcome_zero {k : Nat} : outcome source projectId first k 0 =
    (found source projectId first k).map fun page => ⟨page.records, 1, page.cursor?.isSome⟩ := by
  rw [outcome, Nat.add_zero]
  cases hf : found source projectId first k with
  | error e => rfl
  | ok page => simp [Except.map, gathered, hf, recordsOf, SignaturePage.isSome_cursor?]

theorem outcome_succ {k n : Nat} {page : SignaturePage} (h : found source projectId first k = .ok page) :
    outcome source projectId first k (n + 1) =
      (outcome source projectId first (k + 1) n).map fun rest =>
        ⟨page.records ++ rest.signatures, rest.pages + 1, rest.truncated⟩ := by
  have hk : k + (n + 1) = k + 1 + n := by omega
  rw [outcome, outcome, hk, gathered_succ, h]
  cases found source projectId first (k + 1 + n) <;> rfl

/-- A walk from page `k` on, which `more` pages may follow, ends with the `n`th page behind it. -/
structure Ends (more k n : Nat) : Prop where
  last : IsLast source projectId first (k + more + 1) (k + n)
  before : ∀ j, j < n → ¬ IsLast source projectId first (k + more + 1) (k + j)
  asked : (walk projectId more (query source projectId first k)).run.questions source
    (turn source projectId first k).1 = (turn source projectId first (k + n + 1)).1
  comes : (walk projectId more (query source projectId first k)).run.result source
    (turn source projectId first k).1 = outcome source projectId first k n

/-- A walk ends with a page that is the last. -/
theorem ends_of_isLast {more k : Nat} (h : IsLast source projectId first (k + more + 1) k) :
    Ends source projectId first more k 0 := by
  have hbehind : behind projectId more (query source projectId first k) (found source projectId first k) =
      .done (outcome source projectId first k 0) := by
    rw [outcome_zero]
    cases hf : found source projectId first k with
    | error e => cases more <;> rfl
    | ok page =>
      cases more with
      | zero => rfl
      | succ more =>
        have hc : page.cursor? = none :=
          SignaturePage.cursor?_eq_none_iff.2 (h.elim (fun h => by omega) fun h => h page hf)
        simp [behind, hc, Except.map]
  refine ⟨h, by simp, ?_, ?_⟩
  · rw [questions_walk, hbehind]
    rfl
  · rw [result_walk, hbehind]
    rfl

/-- A walk goes on behind a page with a cursor. -/
theorem ends_of_cursor {more k n : Nat} {page : SignaturePage} {key : String}
    (hf : found source projectId first k = .ok page) (hc : page.cursor? = some key)
    (h : Ends source projectId first more (k + 1) n) : Ends source projectId first (more + 1) k (n + 1) := by
  -- The walk goes on by the query of page `k`, moved to the cursor, which is that of page `k + 1`.
  have hquery : { query source projectId first k with nextKey := some key } =
      query source projectId first (k + 1) := by
    rw [query_nextKey, query_succ source projectId first hf, hc]
  have hk : ∀ j, k + (j + 1) = k + 1 + j := by omega
  refine ⟨by rw [hk more, hk n]; exact h.last, ?_, ?_, ?_⟩
  · intro j hj
    rw [hk more]
    cases j with
    | zero =>
      rintro (h | h)
      · omega
      · rw [Nat.add_zero] at h
        exact h page hf ⟨key, SignaturePage.cursor?_eq_some_iff.1 hc⟩
    | succ j =>
      rw [hk j]
      exact h.before j (by omega)
  · rw [questions_walk, hf, behind, hc]
    simp only [hquery]
    rw [questions_bind, h.asked, hk n]
    rfl
  · rw [result_walk, hf, behind, hc]
    simp only [hquery]
    rw [result_bind, h.comes, outcome_succ source projectId first hf]
    rfl

/-- A walk from a page on takes its turns up to the first page that is the last. -/
theorem walk_ends (more k : Nat) : ∃ n, Ends source projectId first more k n := by
  induction more generalizing k with
  | zero => exact ⟨0, ends_of_isLast source projectId first (.inl (Nat.le_refl _))⟩
  | succ more ih =>
    by_cases hlast : IsLast source projectId first (k + (more + 1) + 1) k
    · exact ⟨0, ends_of_isLast source projectId first hlast⟩
    · obtain ⟨page, key, hf, hkey, hblank, -⟩ := exists_of_not_isLast source projectId first hlast
      obtain ⟨n, h⟩ := ih (k + 1)
      exact ⟨n + 1, ends_of_cursor source projectId first hf
        (SignaturePage.cursor?_eq_some_iff.2 ⟨hkey, hblank⟩) h⟩

/-! ## Listings -/

theorem get?_row (s : Signature) (key : String) :
    (row s).get? key =
      if key = "classification" then some (.str s.classify.name)
      else (Signature.codec.encode s).canonical.get? key := by
  have hobj : ∃ ms, Signature.codec.encode s = .obj ms := ⟨_, rfl⟩
  obtain ⟨ms, hms⟩ := hobj
  rw [row, hms]
  simp only
  rw [Json.canonical_append_member, Json.canonical, Json.get?, Json.get?, Json.lookup_insertMember]
  rfl

theorem run_load (projectId : String) (pageSize : UInt32) (maxPages : Nat) (filter : PageQuery) :
    (load pageSize maxPages projectId filter).run =
      (walk projectId (maxPages - 1) { filter with pageSize := some (filter.pageSize.getD pageSize) }).run.bind
        fun w => .done (w.map fun w => ⟨projectId, w.signatures, w.pages, w.truncated⟩) := by
  refine congrArg (Dialogue.bind _) (funext fun w => ?_)
  cases w <;> rfl

/-- **The paged walk.** A listing asks for page after page, each at the cursor of the one before
it and otherwise by the query it was given, up to the first page that does not say where to go on, cannot
be had, or is as many as there may be. It holds the records of all these pages in order, each
with its class, and counts the classes, unless the last page could not be had. -/
theorem load_walks (source : Source) (pageSize : UInt32) (maxPages : Nat) (projectId : String)
    (filter : PageQuery) :
    let first := { filter with pageSize := some (filter.pageSize.getD pageSize) }
    let listing := (load pageSize maxPages projectId filter).run
    ∃ n, IsLast source projectId first maxPages n ∧
      (∀ k, k < n → ¬ IsLast source projectId first maxPages k) ∧
      n + 1 ≤ max maxPages 1 ∧
      listing.questions source [] =
        (List.range (n + 1)).map (fun k => .page projectId (query source projectId first k)) ∧
      query source projectId first 0 = first ∧
      (∀ k, k < n → ∃ page key, found source projectId first k = .ok page ∧
        page.lastKeyScanned = some key ∧ Text.isBlank key = false ∧
        query source projectId first (k + 1) = { first with nextKey := some key }) ∧
      listing.result source [] = ((found source projectId first n).map fun page =>
        ⟨projectId, gathered source projectId first 0 (n + 1), n + 1, page.GoesOn⟩) ∧
      (∀ l, listing.result source [] = .ok l →
        (∀ key, l.rows.map (·.get? key) = l.signatures.map fun s =>
          if key = "classification" then some (.str s.classify.name)
          else (Signature.codec.encode s).canonical.get? key) ∧
        (l.counts.map (·.1)).Nodup ∧
        ∀ name m, (name, m) ∈ l.counts ↔
          ∃ c : SignatureClass, name = c.name ∧ m = l.signatures.countP (·.classify = c) ∧ 0 < m) := by
  intro first listing
  obtain ⟨n, hlast, hgoing, hquestions, hresult⟩ := walk_ends source projectId first (maxPages - 1) 0
  have hlimit : ∀ k, IsLast source projectId first (0 + (maxPages - 1) + 1) (0 + k) ↔
      IsLast source projectId first maxPages k := by
    intro k
    rw [IsLast, IsLast, Nat.zero_add, Nat.zero_add]
    exact or_congr_left (by omega)
  simp only [hlimit] at hlast hgoing
  have hload : listing = _ := run_load projectId pageSize maxPages filter
  refine ⟨n, hlast, hgoing, ?_, ?_, rfl, fun k hk => exists_of_not_isLast _ _ _ (hgoing k hk), ?_,
    fun l _ => ⟨fun key => ?_, ?_, fun name m => ?_⟩⟩
  · cases n with
    | zero => omega
    | succ n =>
      have h := hgoing n (by omega)
      rw [IsLast, not_or] at h
      omega
  · rw [hload, questions_bind]
    exact hquestions.trans (by rw [turn_fst, Nat.zero_add])
  · rw [hload, result_bind]
    refine (congrArg _ hresult).trans ?_
    rw [outcome, Nat.zero_add]
    cases found source projectId first n <;> rfl
  · simp only [rows, List.map_map, Function.comp_def, get?_row]
  · rw [counts_eq]
    exact nodup_classCounts _
  · rw [counts_eq]
    exact mem_classCounts_iff

end ProjectListing
end SignatureDesk
