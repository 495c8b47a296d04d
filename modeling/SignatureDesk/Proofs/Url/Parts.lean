/-
The parts of a path. A part that holds nothing special and is no dot segment, in
any spelling, stays in its place between slashes: below a base, and when a path
is brought into normal form to put a query behind it.
-/
import SignatureDesk.Proofs.Url.Address
import SignatureDesk.Proofs.Url.Form

namespace SignatureDesk.Url

open Text

/-- A character that means something to an address, or that it drops. -/
def special (c : Char) : Bool := "/\\?#\t\n\r".toList.contains c

theorem special_eq_false_iff {c : Char} :
    special c = false ↔ c ≠ '/' ∧ c ≠ '\\' ∧ c ≠ '?' ∧ c ≠ '#' ∧ c ≠ '\t' ∧ c ≠ '\n' ∧ c ≠ '\r' := by
  simp [special]

/-- A part that stays in its place. -/
structure PlainPart (part : List Char) : Prop where
  plain : ∀ c ∈ part, special c = false
  dot : isSingleDot (segment part) = false
  dots : isDoubleDot (segment part) = false

/-! ## Encoded parts -/

theorem segment_segment (part : List Char) : segment (segment part).toList = segment part := by
  rw [segment, segment, String.toList_ofList,
    percentEncode_eq_self fun _ => kept_of_mem_percentEncode keepsCodes_path]

theorem segment_ne_empty {part : List Char} (h : part ≠ []) : segment part ≠ "" := by
  intro hs
  have hencode : percentEncode keptInPath part = [] := by simpa [segment, ← String.toList_inj] using hs
  cases part with
  | nil => exact h rfl
  | cons c s =>
    rcases percentEncode_cons_cases keptInPath c s with hc | ⟨_, hc⟩ <;> simp [hencode] at hc

theorem mem_percentEncode {keep : Char → Bool} {s : List Char} {c : Char} (h : c ∈ percentEncode keep s) :
    c ∈ s ∨ c = '%' ∨ (hexValue? c).isSome := by
  obtain ⟨d, hd, h⟩ := List.mem_flatMap.1 h
  split at h
  · obtain rfl := List.mem_singleton.1 h
    exact .inl hd
  · obtain ⟨b, -, h⟩ := List.mem_flatMap.1 h
    exact .inr (mem_percentByte h)

theorem special_of_hexValue? {c : Char} (h : (hexValue? c).isSome) : special c = false :=
  forall_ascii (p := fun c => (hexValue? c).isSome → special c = false) (by decide)
    (isAscii_of_hexValue? h) h

theorem PlainPart.encoded {part : List Char} (h : PlainPart part) : PlainPart (segment part).toList where
  plain c hc := by
    rw [segment, String.toList_ofList] at hc
    rcases mem_percentEncode hc with hc | rfl | hc
    · exact h.plain c hc
    · decide
    · exact special_of_hexValue? hc
  dot := by rw [segment_segment, h.dot]
  dots := by rw [segment_segment, h.dots]

/-! ## Dot segments -/

/-- A text that is lowered to a spelling of `.` and more decodes to it and more. -/
theorem percentDecode_of_lower {s w : List Char}
    (h : s.map asciiLowerChar = '.' :: w ∨ s.map asciiLowerChar = '%' :: '2' :: 'e' :: w) :
    ∃ rest, rest.map asciiLowerChar = w ∧ percentDecode s = 46 :: percentDecode rest := by
  simp only [List.map_eq_cons_iff] at h
  rcases h with ⟨a, rest, rfl, ha, hrest⟩ | ⟨a, _, rfl, ha, b, _, rfl, hb, c, rest, rfl, hc, hrest⟩
  · obtain rfl : a = '.' := (eq_or_of_asciiLowerChar ha).elim id (·.trans (by decide))
    exact ⟨rest, hrest, percentDecode_cons_of_ne (by decide) rest⟩
  · obtain rfl : a = '%' := (eq_or_of_asciiLowerChar ha).elim id (·.trans (by decide))
    obtain rfl : b = '2' := (eq_or_of_asciiLowerChar hb).elim id (·.trans (by decide))
    refine ⟨rest, hrest, ?_⟩
    rcases eq_or_of_asciiLowerChar hc with rfl | rfl <;> exact percentDecode_percent _

theorem percentDecode_of_isSingleDot {s : String} (h : isSingleDot s = true) :
    percentDecode s.toList = [46] := by
  obtain ⟨rest, hrest, hs⟩ := percentDecode_of_lower (s := s.toList) (w := []) (by
    simpa [isSingleDot, asciiLower, ← String.toList_inj] using h)
  rw [hs, List.map_eq_nil_iff.1 hrest]
  rfl

theorem percentDecode_of_isDoubleDot {s : String} (h : isDoubleDot s = true) :
    percentDecode s.toList = [46, 46] := by
  have hlower : s.toList.map asciiLowerChar = ['.', '.'] ∨
      s.toList.map asciiLowerChar = ['%', '2', 'e', '.'] ∨
      s.toList.map asciiLowerChar = ['.', '%', '2', 'e'] ∨
      s.toList.map asciiLowerChar = ['%', '2', 'e', '%', '2', 'e'] := by
    simpa [isDoubleDot, asciiLower, ← String.toList_inj] using h
  obtain ⟨w, hw, hs⟩ : ∃ w, (w = ['.'] ∨ w = ['%', '2', 'e']) ∧
      (s.toList.map asciiLowerChar = '.' :: w ∨ s.toList.map asciiLowerChar = '%' :: '2' :: 'e' :: w) := by
    rcases hlower with h | h | h | h
    · exact ⟨_, .inl rfl, .inl h⟩
    · exact ⟨_, .inl rfl, .inr h⟩
    · exact ⟨_, .inr rfl, .inl h⟩
    · exact ⟨_, .inr rfl, .inr h⟩
  obtain ⟨rest, hrest, hs⟩ := percentDecode_of_lower hs
  obtain ⟨rest', hrest', hr⟩ := percentDecode_of_lower (s := rest) (w := []) (by simpa [hrest] using hw)
  rw [hs, hr, List.map_eq_nil_iff.1 hrest']
  rfl

/-- A part is no dot segment in any spelling when it does not decode to one. -/
theorem PlainPart.of_decode {part : List Char} (plain : ∀ c ∈ part, special c = false)
    (hdot : percentDecode part ≠ [46]) (hdots : percentDecode part ≠ [46, 46]) : PlainPart part := by
  have hdecode : percentDecode (segment part).toList = percentDecode part := by
    rw [segment, String.toList_ofList, percentDecode_percentEncode keepsCodes_path]
  refine ⟨plain, ?_, ?_⟩
  · exact Bool.eq_false_iff.2 fun h => hdot (hdecode ▸ percentDecode_of_isSingleDot h)
  · exact Bool.eq_false_iff.2 fun h => hdots (hdecode ▸ percentDecode_of_isDoubleDot h)

/-! ## Parts between slashes -/

theorem pathOf_toList {segments : List String} (hne : segments ≠ []) :
    (pathOf segments).toList = '/' :: ['/'].intercalate (segments.map String.toList) := by
  induction segments with
  | nil => exact absurd rfl hne
  | cons s segments ih =>
    rw [pathOf, List.map_cons, String.join_cons, String.toList_append, String.toList_append]
    cases segments with
    | nil => simp
    | cons next segments =>
      rw [← pathOf, ih (by simp)]
      simp

theorem pathOf_append (a b : List String) : pathOf (a ++ b) = pathOf a ++ pathOf b := by
  rw [← String.toList_inj]
  simp [pathOf]

/-- A path has only one way to be made of segments without slashes. -/
theorem pathOf_inj {a b : List String} (ha : ∀ s ∈ a, '/' ∉ s.toList) (hb : ∀ s ∈ b, '/' ∉ s.toList)
    (hane : a ≠ []) (hbne : b ≠ []) (h : pathOf a = pathOf b) : a = b := by
  rw [← String.toList_inj, pathOf_toList hane, pathOf_toList hbne, List.cons.injEq] at h
  have hsplit : ∀ {l : List String}, (∀ s ∈ l, '/' ∉ s.toList) → l ≠ [] →
      (['/'].intercalate (l.map String.toList)).splitOn '/' = l.map String.toList := by
    intro l hl hne
    refine List.splitOn_intercalate '/' (fun text ht => ?_) (by simpa using hne)
    obtain ⟨s, hs, rfl⟩ := List.mem_map.1 ht
    exact hl s hs
  have hmap : a.map String.toList = b.map String.toList := by rw [← hsplit ha hane, ← hsplit hb hbne, h.2]
  exact (List.map_inj_right fun _ _ => String.toList_injective).1 hmap

section

variable {parts : List (List Char)}

theorem splitOn_parts (h : ∀ part ∈ parts, PlainPart part) (hne : parts ≠ []) :
    (['/'].intercalate parts).splitOn '/' = parts :=
  List.splitOn_intercalate '/' (fun part hp hc => (special_eq_false_iff.1 ((h part hp).plain _ hc)).1 rfl) hne

theorem plainPath_intercalate (h : ∀ part ∈ parts, PlainPart part) (hne : parts ≠ []) :
    PlainPath (['/'].intercalate parts) where
  plain c hc := by
    rcases mem_intercalate hc with rfl | ⟨part, hp, hc⟩
    · decide
    · obtain ⟨-, h₁, h₂, h₃, -⟩ := special_eq_false_iff.1 ((h part hp).plain c hc)
      exact ⟨h₁, h₂, h₃⟩
  dots := by
    rw [splitOn_parts h hne]
    exact fun part hp => ⟨(h part hp).dot, (h part hp).dots⟩

/-- Nothing is cleaned away from a path with a query, nor from one without when it ends well. -/
theorem clean_append_tailOf (h : ∀ part ∈ parts, PlainPart part) {query : Option (List Char)}
    (hq : ∀ q, query = some q → ∀ c ∈ q, (isAscii c && keptInQuery c) = true)
    (hlast : query = none → ∀ c, (['/'].intercalate parts).getLast? = some c → 32 < c.toNat) :
    Clean (['/'].intercalate parts ++ tailOf query) := by
  have hpath : ∀ c ∈ ['/'].intercalate parts, c ≠ '\t' ∧ c ≠ '\n' ∧ c ≠ '\r' := by
    intro c hc
    rcases mem_intercalate hc with rfl | ⟨part, hp, hc⟩
    · decide
    · exact (special_eq_false_iff.1 ((h part hp).plain c hc)).2.2.2.2
  cases query with
  | none => exact ⟨by simpa [tailOf] using hpath, by simpa [tailOf] using hlast rfl⟩
  | some q =>
    have hquery : ∀ c ∈ '?' :: q, 32 < c.toNat := by
      intro c hc
      rcases List.mem_cons.1 hc with rfl | hc
      · decide
      · exact (kept_in_query (hq q rfl c hc)).1
    have hshown : ∀ c : Char, 32 < c.toNat → c ≠ '\t' ∧ c ≠ '\n' ∧ c ≠ '\r' := by
      rintro c hc
      refine ⟨?_, ?_, ?_⟩ <;> rintro rfl <;> revert hc <;> decide
    refine ⟨fun c hc => ?_, fun c hc => hquery c ?_⟩
    · rcases List.mem_append.1 hc with hc | hc
      · exact hpath c hc
      · exact hshown c (hquery c hc)
    · rw [tailOf, List.getLast?_append, List.getLast?_cons, Option.some_or] at hc
      exact List.mem_of_getLast? (by rw [List.getLast?_cons]; exact hc)

/-- Parts below a base are segments behind those of the base, one for one. -/
theorem parse_parts {s : List Char} {u : Url} (base : parse (String.ofList (s ++ ['/'])) = .ok (.web u))
    (hquery : u.query = none) (hfragment : u.fragment = none)
    (h : ∀ part ∈ parts, PlainPart part) (hne : parts ≠ []) {query : Option (List Char)}
    (hq : ∀ q, query = some q → ∀ c ∈ q, (isAscii c && keptInQuery c) = true)
    (hlast : query = none → ∀ c, (['/'].intercalate parts).getLast? = some c → 32 < c.toNat) :
    parse (String.ofList (s ++ '/' :: (['/'].intercalate parts ++ tailOf query))) =
      .ok (.web { u with
        segments := u.segments.dropLast ++ parts.map segment
        query := query.map String.ofList }) := by
  rw [parse_append base hquery hfragment (plainPath_intercalate h hne) hq (clean_append_tailOf h hq hlast),
    splitOn_parts h hne]

/-- The host that paths are brought into normal form on. -/
theorem parse_normalizer : parse (String.ofList ("http://upstream.invalid".toList ++ ['/'])) =
    .ok (.web ⟨"http", "", none, .name "upstream.invalid", none, [""], none, none⟩) :=
  except_toOption_eq_some_iff.1 (by decide +kernel)

/-- A path that a query is put behind has its parts encoded. -/
theorem withQuery_parts {path : String} (hpath : path.toList = '/' :: ['/'].intercalate parts)
    (h : ∀ part ∈ parts, PlainPart part) (hne : parts ≠ [])
    (hlast : ∀ c, (['/'].intercalate parts).getLast? = some c → 32 < c.toNat)
    {pairs : List (String × String)} (hpairs : pairs ≠ []) :
    withQuery path pairs = .ok (String.ofList ('/' ::
      (['/'].intercalate (parts.map fun part => (segment part).toList) ++
        tailOf (some (Form.writeChars pairs))))) := by
  have hkept : ∀ q, (none : Option (List Char)) = some q → ∀ c ∈ q, (isAscii c && keptInQuery c) = true := by
    simp
  have hparse := parse_parts parse_normalizer rfl rfl h hne hkept (fun _ => hlast)
  have haddress : "http://upstream.invalid" ++ path =
      String.ofList ("http://upstream.invalid".toList ++ '/' :: (['/'].intercalate parts ++ tailOf none)) := by
    simp [← String.toList_inj, hpath, tailOf]
  rw [withQuery, if_neg (by simpa using hpairs), haddress, hparse]
  refine congrArg Except.ok ?_
  rw [← String.toList_inj, String.toList_append, String.toList_append, Url.path, pathOf_toList (by simp [hne])]
  simp [extendQuery, Form.write, tailOf, Function.comp_def]

end

end SignatureDesk.Url
