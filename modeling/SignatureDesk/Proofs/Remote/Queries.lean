/-
Page queries on the wire. The pairs of a query stand behind the path they are put
behind and are read from there again, from the path itself and from the address
that it has below a base.
-/
import SignatureDesk.Proofs.Listing.Queries
import SignatureDesk.Proofs.Remote.Placement
import SignatureDesk.Proofs.Url.Tidy

namespace SignatureDesk

/-- The query that pairs make behind a path. -/
def asked (pairs : List (String × String)) : Option (List Char) :=
  if pairs = [] then none else some (Url.Form.writeChars pairs)

/-- A path as it goes over the wire, with the pairs behind it. -/
def wired (path : String) (pairs : List (String × String)) : String :=
  String.ofList (path.toList ++ Url.tailOf (asked pairs))

/-- What stands before the query. -/
def pathPart (wire : String) : String := String.ofList (wire.toList.takeWhile (· ≠ '?'))

/-- The query, if there is one. -/
def queryPart (wire : String) : Option String := (wire.toList.dropWhile (· ≠ '?')).tail?.map String.ofList

/-- A query carries pairs: it is there when there are any, and is read as these, in order. -/
structure Carries (query : Option String) (pairs : List (String × String)) : Prop where
  none_iff : query = none ↔ pairs = []
  read : (query.map Url.Form.read).getD [] = pairs

theorem carries_asked (pairs : List (String × String)) : Carries ((asked pairs).map String.ofList) pairs := by
  rw [asked]
  split
  next h => exact ⟨by simp [h], by simp [h]⟩
  next h => exact ⟨by simp [h], Url.Form.read_write pairs⟩

theorem kept_of_asked {pairs : List (String × String)} {text : List Char} (h : asked pairs = some text) :
    ∀ c ∈ text, (Text.isAscii c && Url.keptInQuery c) = true := by
  rw [asked] at h
  split at h
  · cases h
  · cases h
    exact fun c hc => Url.Form.kept_of_mem_writeChars hc

theorem stop_of_tailOf {query : Option (List Char)} {c : Char} (h : c ∈ (Url.tailOf query).head?) : c = '?' := by
  cases query with
  | none => simp [Url.tailOf] at h
  | some q => simpa [Url.tailOf, eq_comm] using h

section

variable {path : String} {parts : List (List Char)} (parted : Url.Parted path parts)
  (pairs : List (String × String))

include parted

theorem getLast?_parts {c : Char} (h : (['/'].intercalate parts).getLast? = some c) : 32 < c.toNat := by
  have hc : c ∈ path.toList := by
    rw [parted.toList]
    exact List.mem_cons_of_mem _ (List.mem_of_getLast? h)
  exact (parted.shown c hc).1

/-- A query is put behind a tidy path as it is. -/
theorem queried_eq : queried path pairs = .ok (wired path pairs) := by
  rw [queried, except_mapError_ok_iff]
  by_cases hpairs : pairs = []
  · simp [hpairs, Url.withQuery, wired, asked, Url.tailOf]
  rw [Url.withQuery_parts parted.toList parted.plain parted.ne_nil (fun _ => getLast?_parts parted) hpairs,
    parted.segments, wired, asked, if_neg hpairs, parted.toList]
  rfl

theorem split_wired : (wired path pairs).toList.takeWhile (· ≠ '?') = path.toList ∧
    (wired path pairs).toList.dropWhile (· ≠ '?') = Url.tailOf (asked pairs) := by
  have hpath : ∀ c ∈ path.toList, decide (c ≠ '?') = true := fun c hc => decide_eq_true (parted.shown c hc).2
  have hstop : ∀ c ∈ (Url.tailOf (asked pairs)).head?, decide (c ≠ '?') = false := fun c hc => by
    simp [stop_of_tailOf hc]
  rw [wired, String.toList_ofList]
  exact ⟨Text.takeWhile_run hpath hstop, Text.dropWhile_run hpath hstop⟩

theorem pathPart_wired : pathPart (wired path pairs) = path := by
  rw [pathPart, (split_wired parted pairs).1, String.ofList_toList]

theorem queryPart_wired : queryPart (wired path pairs) = (asked pairs).map String.ofList := by
  rw [queryPart, (split_wired parted pairs).2]
  cases asked pairs <;> rfl

theorem Base.Rooted.parse_wired {b : Base} {root : Url} (rooted : b.Rooted root) :
    Url.parse (b.address (wired path pairs)) = .ok (.web { root with
      segments := root.segments.dropLast ++ parts.map Url.segment
      query := (asked pairs).map String.ofList }) := by
  have hstop : ∀ c ∈ (['/'].intercalate parts ++ Url.tailOf (asked pairs)).head?, decide (c = '/') = false := by
    intro c hc
    rw [List.head?_append, Option.mem_def, Option.or_eq_some_iff] at hc
    rcases hc with hc | ⟨-, hc⟩
    · exact decide_eq_false fun heq => parted.single (heq ▸ hc)
    · rw [stop_of_tailOf hc]
      decide
  have hdrop : (wired path pairs).toList.dropWhile (· = '/') =
      ['/'].intercalate parts ++ Url.tailOf (asked pairs) := by
    rw [wired, String.toList_ofList, parted.toList]
    exact Text.dropWhile_run (s := ['/']) (by simp) hstop
  exact rooted.parse_parts parted.plain parted.ne_nil (fun _ => kept_of_asked)
    (fun _ _ => getLast?_parts parted) hdrop

end

/-- A base ends in the slash that its paths begin with. -/
theorem Base.Rooted.path_eq {b : Base} {root : Url} (rooted : b.Rooted root) :
    root.path = Url.pathOf root.segments.dropLast ++ "/" := by
  have hplain : ∀ part ∈ [([] : List Char)], Url.PlainPart part := by
    intro part hp
    rw [List.mem_singleton.1 hp]
    exact ⟨by simp, by decide, by decide⟩
  have hpath : "".toList.dropWhile (· = '/') = ['/'].intercalate [[]] ++ Url.tailOf none := rfl
  have hparse := rooted.parse_parts hplain (by simp) (by simp) (by simp) hpath
  rw [rooted.parse] at hparse
  have hroot := Url.Address.web.inj (Except.ok.inj hparse)
  have hsegments : root.segments = root.segments.dropLast ++ [""] := congrArg Url.segments hroot
  calc root.path
      = Url.pathOf (root.segments.dropLast ++ [""]) := by rw [← hsegments, Url.path]
    _ = Url.pathOf root.segments.dropLast ++ "/" := by rw [Url.pathOf_append]; rfl

/-- A page query goes over the wire as it is. Its pairs are read from the query behind its path, and
from that of its address below any base, where the path is that of the base and its own; there is
no query when there are no pairs. Queries go over the wire alike when they ask for the same page. -/
theorem page_queries_intact {path : String} (tidy : Url.IsTidy path) (q : PageQuery) :
    (∃ wire, queried path q.toPairs = .ok wire ∧ pathPart wire = path ∧ Carries (queryPart wire) q.toPairs ∧
      ∀ (b : Base) (root : Url), b.Rooted root → ∃ front u, root.path = front ++ "/" ∧
        Url.parse (b.address wire) = .ok (.web u) ∧ u.path = front ++ path ∧ Carries u.query q.toPairs ∧
        u = { root with segments := u.segments, query := u.query }) ∧
    ∀ q', queried path q.toPairs = queried path q'.toPairs ↔ q.Agrees q' := by
  obtain ⟨parts, parted⟩ := tidy.parted
  have hread : ∀ pairs, Carries (queryPart (wired path pairs)) pairs := fun pairs => by
    rw [queryPart_wired parted]
    exact carries_asked pairs
  refine ⟨⟨wired path q.toPairs, queried_eq parted _, pathPart_wired parted _, hread _, ?_⟩, fun q' => ?_⟩
  · intro b root rooted
    refine ⟨_, _, rooted.path_eq, rooted.parse_wired parted q.toPairs, ?_, carries_asked _, rfl⟩
    rw [Url.path, Url.pathOf_append, parted.pathOf]
  · rw [queried_eq parted, queried_eq parted, Except.ok.injEq, ← PageQuery.toPairs_eq_iff]
    refine ⟨fun h => ?_, congrArg _⟩
    rw [← (hread q.toPairs).read, h, (hread q'.toPairs).read]

namespace Sample

/-- A query whose key holds what means something to addresses and to forms. -/
def pageQuery : PageQuery :=
  ⟨some 100, some "k 1+2&x=%20ü#", none, some "acme corp", some "company", some false⟩

theorem pageQuery_intact : ∃ wire u,
    queried "/v3/signatures/project/p-1" pageQuery.toPairs = .ok wire ∧
    pathPart wire = "/v3/signatures/project/p-1" ∧ Carries (queryPart wire) pageQuery.toPairs ∧
    Url.parse ((Base.ofText "http://cla.test/api/").address wire) = .ok (.web u) ∧
    u.path = "/api/v3/signatures/project/p-1" ∧ Carries u.query pageQuery.toPairs ∧
    queried "/v3/signatures/project/p-1" pageQuery.toPairs ≠
      queried "/v3/signatures/project/p-1" { pageQuery with nextKey := some "k 1 2&x=%20ü#" }.toPairs := by
  have tidy : Url.IsTidy "/v3/signatures/project/p-1" :=
    ⟨by decide +kernel, by decide +kernel, List.forall_iff_forall_mem.1 (by decide +kernel), by decide +kernel⟩
  have rooted : (Base.ofText "http://cla.test/api/").Rooted
      ⟨"http", "", none, .name "cla.test", none, ["api", ""], none, none⟩ :=
    ⟨except_toOption_eq_some_iff.1 (by decide +kernel), rfl, rfl⟩
  obtain ⟨⟨wire, hwire, hpath, hquery, below⟩, alike⟩ := page_queries_intact tidy pageQuery
  obtain ⟨front, u, hfront, hparse, hu, hcarries, -⟩ := below _ _ rooted
  obtain rfl : "/api" = front := (String.append_left_inj "/").1 hfront
  refine ⟨wire, u, hwire, hpath, hquery, hparse, hu, hcarries, fun h => ?_⟩
  exact absurd ((alike _).1 h).nextKey (by decide)

end Sample
end SignatureDesk
