/-
Where a call goes. An id is put into a path as it is, so whether it stays in its
place depends on what it holds: `Endpoint.Contained` says when it does. A call
at such an endpoint goes to the root of its service with the parts of the
endpoint as the last segments, one for one, and to nothing else: the query is
that of the page asked for, if a page is asked for, and there is no fragment.
-/
import SignatureDesk.Proofs.Outcome
import SignatureDesk.Proofs.Remote.Endpoint
import SignatureDesk.Proofs.Remote.Wire

namespace SignatureDesk

namespace Endpoint

/-- An id that stays in its place: it is something, nothing in it means anything to an
address, and it does not decode to a dot segment. -/
structure IsContained (id : String) : Prop where
  ne : id ≠ ""
  plain : ∀ c ∈ id.toList, Url.special c = false
  dot : Url.percentDecode id.toList ≠ [46]
  dots : Url.percentDecode id.toList ≠ [46, 46]

/-- All ids stay in their place; nor is anything cleaned away from the last one. -/
structure Contained (e : Endpoint String) : Prop where
  ids : ∀ id ∈ e.ids, IsContained id
  last : ∀ c, e.path.toList.getLast? = some c → 32 < c.toNat

theorem Contained.plainPart {e : Endpoint String} (h : e.Contained) :
    ∀ text ∈ e.parts.map Part.text, Url.PlainPart text := by
  intro text ht
  obtain ⟨part, hp, rfl⟩ := List.mem_map.1 ht
  cases part with
  | word s => exact plainPart_of_isPlainWord (List.all_eq_true.1 (parts_isPlain e) _ hp)
  | id i =>
    have hi := h.ids i (mem_ids hp)
    exact .of_decode hi.plain hi.dot hi.dots

theorem Contained.getLast?_parts {e : Endpoint String} (h : e.Contained) {c : Char}
    (hc : (['/'].intercalate (e.parts.map Part.text)).getLast? = some c) : 32 < c.toNat := by
  rw [← path_eq] at hc
  refine h.last c ?_
  rw [← List.takeWhile_append_dropWhile (p := (· = '/')) (l := e.path.toList), List.getLast?_append, hc]
  rfl

/-! ## Where a call goes -/

/-- The address of the endpoint below a root, with pairs as its query. -/
def url (e : Endpoint String) (root : Url) (pairs : List (String × String)) : Url :=
  { root with
    segments := root.segments.dropLast ++ e.segments
    query := if pairs.isEmpty then none else some (Url.Form.write pairs) }

theorem Contained.slash_not_mem {e : Endpoint String} (h : e.Contained) : ∀ s ∈ e.segments, '/' ∉ s.toList := by
  intro s hs hc
  obtain ⟨part, hp, rfl⟩ := List.mem_map.1 hs
  have hplain := (h.plainPart _ (List.mem_map_of_mem hp)).encoded
  exact (Url.special_eq_false_iff.1 (hplain.plain _ hc)).1 rfl

/-- Below one root, endpoints with the same path are the same up to what their ids decode to. -/
theorem Contained.eq_of_path {e e' : Endpoint String} (h : e.Contained) (h' : e'.Contained)
    (hservice : e.service = e'.service) {root : Url} {pairs pairs' : List (String × String)}
    (hpath : (e.url root pairs).path = (e'.url root pairs').path) :
    (e.map fun id => Url.percentDecode id.toList) = e'.map fun id => Url.percentDecode id.toList := by
  have hsame : Url.pathOf e.segments = Url.pathOf e'.segments := by
    simpa [url, Url.path, Url.pathOf_append, String.append_right_inj] using hpath
  have hne : ∀ e : Endpoint String, e.segments ≠ [] := fun e => by simp [segments, parts_ne_nil]
  have hsegments := Url.pathOf_inj h.slash_not_mem h'.slash_not_mem (hne e) (hne e') hsame
  exact eq_of_segments (fun id hid => (h.ids id hid).ne) (fun id hid => (h'.ids id hid).ne) hservice hsegments

/-- The path of a call to the endpoint. Only pages of a listing are asked for with pairs. -/
inductive CalledAt : Endpoint String → List (String × String) → String → Prop
  | plain (e : Endpoint String) : CalledAt e [] e.path
  | page {p : String} {q : PageQuery} {path : String} :
      queried (Cla.listingPath p) q.toPairs = .ok path → CalledAt (.listing p) q.toPairs path

end Endpoint

namespace Base

/-- The address of a service is read as an address of the web without a query. -/
structure Rooted (b : Base) (root : Url) : Prop where
  parse : Url.parse (b.address "") = .ok (.web root)
  query : root.query = none
  fragment : root.fragment = none

theorem Rooted.parse_parts {b : Base} {root : Url} (rooted : b.Rooted root) {parts : List (List Char)}
    (h : ∀ part ∈ parts, Url.PlainPart part) (hne : parts ≠ []) {query : Option (List Char)}
    (hq : ∀ q, query = some q → ∀ c ∈ q, (Text.isAscii c && Url.keptInQuery c) = true)
    (hlast : query = none → ∀ c, (['/'].intercalate parts).getLast? = some c → 32 < c.toNat)
    {path : String} (hpath : path.toList.dropWhile (· = '/') = ['/'].intercalate parts ++ Url.tailOf query) :
    Url.parse (b.address path) =
      .ok (.web { root with
        segments := root.segments.dropLast ++ parts.map Url.segment
        query := query.map String.ofList }) := by
  have hbase := rooted.parse
  rw [Base.address_eq] at hbase ⊢
  rw [hpath]
  exact Url.parse_parts hbase rooted.query rooted.fragment h hne hq hlast

end Base

/-- The services' addresses are read as addresses of the web without queries. -/
structure Link.Rooted (l : Link) (root : Service → Url) : Prop where
  parse (s : Service) : Url.parse ((l.base s).address "") = .ok (.web (root s))
  query (s : Service) : (root s).query = none
  fragment (s : Service) : (root s).fragment = none

namespace Link

variable {l : Link} {root : Service → Url} {e : Endpoint String}

theorem Rooted.base (rooted : l.Rooted root) (s : Service) : (l.base s).Rooted (root s) :=
  ⟨rooted.parse s, rooted.query s, rooted.fragment s⟩

theorem listingPath_toList (p : String) :
    (Cla.listingPath p).toList =
      '/' :: ['/'].intercalate ((Endpoint.listing p).parts.map Endpoint.Part.text) := by
  delta Cla.listingPath
  simp only [String.toList_append, Endpoint.parts, List.map_cons, List.map_nil, Endpoint.Part.text,
    List.intercalate, List.intersperse, List.flatten_cons, List.flatten_nil, List.append_nil]
  rfl

/-- The path of a page: that of its listing with its parts encoded, and the query. -/
theorem page_path {p : String} {q : PageQuery} {path : String} (hin : (Endpoint.listing p).Contained)
    (hpairs : q.toPairs ≠ []) (h : queried (Cla.listingPath p) q.toPairs = .ok path) :
    path.toList.dropWhile (· = '/') =
      ['/'].intercalate ((Endpoint.listing p).parts.map fun part => (Url.segment part.text).toList) ++
        Url.tailOf (some (Url.Form.writeChars q.toPairs)) := by
  rw [queried, except_mapError_ok_iff, Url.withQuery_parts (listingPath_toList p) hin.plainPart
    (by simp [Endpoint.parts_ne_nil]) (fun _ => hin.getLast?_parts) hpairs] at h
  rw [← Except.ok.inj h, String.toList_ofList, List.dropWhile_cons_of_pos (by decide), List.map_map]
  rfl

/-- The address of an endpoint whose ids stay in their place. -/
theorem Rooted.parse_path (rooted : l.Rooted root) (hin : e.Contained) :
    Url.parse ((l.base e.service).address e.path) = .ok (.web (e.url (root e.service) [])) := by
  have hpath : e.path.toList.dropWhile (· = '/') =
      ['/'].intercalate (e.parts.map Endpoint.Part.text) ++ Url.tailOf none := by
    rw [Endpoint.path_eq, Url.tailOf, List.append_nil]
  rw [(rooted.base e.service).parse_parts hin.plainPart (by simp [Endpoint.parts_ne_nil])
    (fun _ h => by cases h) (fun _ _ => hin.getLast?_parts) hpath, List.map_map]
  rfl

/-- The address of a page of a listing whose id stays in its place. -/
theorem Rooted.parse_page (rooted : l.Rooted root) {p : String} {q : PageQuery} {path : String}
    (hin : (Endpoint.listing p).Contained) (hpairs : q.toPairs ≠ [])
    (h : queried (Cla.listingPath p) q.toPairs = .ok path) :
    Url.parse ((l.base .cla).address path) =
      .ok (.web ((Endpoint.listing p).url (root .cla) q.toPairs)) := by
  have hencoded : ∀ part ∈ (Endpoint.listing p).parts.map fun part => (Url.segment part.text).toList,
      Url.PlainPart part := by
    intro text ht
    obtain ⟨part, hp, rfl⟩ := List.mem_map.1 ht
    exact (hin.plainPart _ (List.mem_map_of_mem hp)).encoded
  have hkept : ∀ text, some (Url.Form.writeChars q.toPairs) = some text →
      ∀ c ∈ text, (Text.isAscii c && Url.keptInQuery c) = true := by
    rintro _ ⟨⟩ c hc
    exact Url.Form.kept_of_mem_writeChars hc
  rw [(rooted.base .cla).parse_parts hencoded (by simp [Endpoint.parts_ne_nil]) hkept (fun h => by cases h)
    (page_path hin hpairs h), List.map_map]
  simp [Endpoint.url, Endpoint.segments, Function.comp_def, Url.segment_segment, hpairs, Url.Form.write]

theorem Rooted.parse_at (rooted : l.Rooted root) (hin : e.Contained) {pairs : List (String × String)}
    {path : String} (hat : e.CalledAt pairs path) :
    Url.parse ((l.base e.service).address path) = .ok (.web (e.url (root e.service) pairs)) := by
  cases hat with
  | plain => exact rooted.parse_path hin
  | @page p q path hq =>
    by_cases hpairs : q.toPairs = []
    · rw [hpairs] at hq ⊢
      rw [queried, except_mapError_ok_iff] at hq
      obtain rfl : Cla.listingPath p = path := Except.ok.inj hq
      exact rooted.parse_path hin
    · exact rooted.parse_page hin hpairs hq

/-- A call at an endpoint whose ids stay in their place goes to the address of the endpoint. -/
theorem request_at (rooted : l.Rooted root) {c : Call} {r : Request} (h : l.request c = .ok r)
    {pairs : List (String × String)} (hservice : c.service = e.service)
    (hat : e.CalledAt pairs c.path) (hin : e.Contained) : r.url = e.url (root e.service) pairs := by
  have hparsed := (request_ok h).2
  rw [hservice, rooted.parse_at hin hat] at hparsed
  exact (Url.Address.web.inj (Except.ok.inj hparsed)).symm

end Link
end SignatureDesk
