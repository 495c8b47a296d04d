/-
Paths that mean themselves. A path of slashes and unreserved characters without dot
segments is written in an address as it stands: each of its parts stays in its place,
and no part is encoded.
-/
import SignatureDesk.Proofs.Url.Parts

namespace SignatureDesk.Url

open Text

def isUnreserved (c : Char) : Bool :=
  isAsciiLetter c || isAsciiDigit c || c = '-' || c = '.' || c = '_' || c = '~'

/-- One slash in front, then nothing but slashes and unreserved characters, and no dot segments. -/
structure IsTidy (path : String) : Prop where
  slash : path.toList.head? = some '/'
  single : path.toList[1]? ≠ some '/'
  plain : ∀ c ∈ path.toList, c = '/' ∨ isUnreserved c = true
  dots : ∀ part ∈ path.toList.splitOn '/', part ≠ ['.'] ∧ part ≠ ['.', '.']

theorem isAscii_of_isUnreserved {c : Char} (h : isUnreserved c = true) : isAscii c = true := by
  by_cases htilde : c = '~'
  · subst htilde
    decide
  · refine Form.isAscii_of_isPlain ?_
    simp only [isUnreserved, Form.isPlain, htilde, Bool.or_eq_true, decide_eq_true_eq, or_false] at h ⊢
    grind

theorem of_isUnreserved {c : Char} (h : isUnreserved c = true) :
    32 < c.toNat ∧ special c = false ∧ c ≠ '%' ∧ (isAscii c && keptInPath c) = true :=
  forall_ascii (p := fun c => isUnreserved c = true →
    32 < c.toNat ∧ special c = false ∧ c ≠ '%' ∧ (isAscii c && keptInPath c) = true)
    (by decide) (isAscii_of_isUnreserved h) h

/-- A part of unreserved characters that is no dot segment stays in its place as it is. -/
theorem plainPart_of_isUnreserved {part : List Char} (h : ∀ c ∈ part, isUnreserved c = true)
    (hdots : part ≠ ['.'] ∧ part ≠ ['.', '.']) : PlainPart part := by
  have hdecode := percentDecode_eq_flatMap fun c hc => (of_isUnreserved (h c hc)).2.2.1
  refine .of_decode (fun c hc => (of_isUnreserved (h c hc)).2.1) ?_ ?_
  · exact fun hdot => hdots.1 (flatMap_utf8EncodeChar_inj (hdecode ▸ hdot))
  · exact fun hdot => hdots.2 (flatMap_utf8EncodeChar_inj (hdecode ▸ hdot))

theorem segment_eq_self {part : List Char} (h : ∀ c ∈ part, isUnreserved c = true) :
    segment part = String.ofList part := by
  rw [segment, percentEncode_eq_self fun c hc => (of_isUnreserved (h c hc)).2.2.2]

/-- A tidy path as parts between slashes, each of which stays in its place as it is. -/
structure Parted (path : String) (parts : List (List Char)) : Prop where
  toList : path.toList = '/' :: ['/'].intercalate parts
  ne_nil : parts ≠ []
  single : (['/'].intercalate parts).head? ≠ some '/'
  plain : ∀ part ∈ parts, PlainPart part
  segment : ∀ part ∈ parts, segment part = String.ofList part
  shown : ∀ c ∈ path.toList, 32 < c.toNat ∧ c ≠ '?'

theorem IsTidy.parted {path : String} (h : IsTidy path) : ∃ parts, Parted path parts := by
  obtain ⟨rest, hpath⟩ : ∃ rest, path.toList = '/' :: rest := List.head?_eq_some_iff.1 h.slash
  have hjoin : ['/'].intercalate (rest.splitOn '/') = rest := List.intercalate_splitOn '/'
  have hsplit : path.toList.splitOn '/' = [] :: rest.splitOn '/' := by
    rw [hpath, ← List.nil_append ('/' :: rest), List.splitOn_append_cons_self, List.splitOn_nil,
      List.singleton_append]
  have hunreserved : ∀ part ∈ rest.splitOn '/', ∀ c ∈ part, isUnreserved c = true := by
    intro part hp c hc
    obtain ⟨hrest, hslash⟩ := of_mem_splitOn hp hc
    exact (h.plain c (by simp [hpath, hrest])).resolve_left hslash
  refine ⟨rest.splitOn '/', ?_, List.splitOn_ne_nil _ _, ?_, ?_, ?_, ?_⟩
  · rw [hjoin, hpath]
  · have hsingle := h.single
    rw [hpath] at hsingle
    rw [hjoin, List.head?_eq_getElem?]
    exact hsingle
  · exact fun part hp => plainPart_of_isUnreserved (hunreserved part hp) (h.dots part (by simp [hsplit, hp]))
  · exact fun part hp => segment_eq_self (hunreserved part hp)
  · intro c hc
    rcases h.plain c hc with rfl | hc
    · decide
    · exact ⟨(of_isUnreserved hc).1, (special_eq_false_iff.1 (of_isUnreserved hc).2.1).2.2.1⟩

theorem Parted.segments {path : String} {parts : List (List Char)} (h : Parted path parts) :
    (parts.map fun part => (Url.segment part).toList) = parts := by
  calc (parts.map fun part => (Url.segment part).toList)
      = parts.map id := List.map_congr_left fun part hp => by simp [h.segment part hp]
    _ = parts := List.map_id parts

/-- The parts of a tidy path are the segments of its address, which are written as the path. -/
theorem Parted.pathOf {path : String} {parts : List (List Char)} (h : Parted path parts) :
    pathOf (parts.map Url.segment) = path := by
  rw [← String.toList_inj, pathOf_toList (by simp [h.ne_nil]), h.toList, List.map_map]
  exact congrArg (fun parts => '/' :: ['/'].intercalate parts) h.segments

end SignatureDesk.Url
