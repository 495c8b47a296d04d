/-
Addresses below a base. When a base with a slash behind it is an address without
a query, a text that follows the slash is read as nothing but a path: its parts
become the last segments, one for one, provided that none of them is a dot
segment and that no character of it means anything else to an address. Reading
is followed stage by stage: what is cleaned away, the scheme, the host, the path.
Whatever follows the slash, the user is that of the base.
-/
import Mathlib.Data.List.TakeWhile
import SignatureDesk.Url.Basic
import SignatureDesk.Proofs.Outcome
import SignatureDesk.Proofs.Text.Scan
import SignatureDesk.Proofs.Url.Percent

namespace SignatureDesk.Url

open Text

/-! ## Cleaning -/

/-- A text that nothing is cleaned away from when it stands at the end of an address. -/
structure Clean (p : List Char) : Prop where
  inside : ∀ c ∈ p, c ≠ '\t' ∧ c ≠ '\n' ∧ c ≠ '\r'
  last : ∀ c, p.getLast? = some c → 32 < c.toNat

/-- What is kept of a text at the beginning of an address. -/
def leading (s : List Char) : List Char :=
  (s.dropWhile fun c => c.toNat ≤ 32).filter fun c => c ≠ '\t' && c ≠ '\n' && c ≠ '\r'

/-- What is kept of a text at the end of an address. -/
def trailing (p : List Char) : List Char :=
  (dropRightWhile (fun c => c.toNat ≤ 32) p).filter fun c => c ≠ '\t' && c ≠ '\n' && c ≠ '\r'

theorem cleaned_slash (s p : List Char) : cleaned (s ++ '/' :: p) = leading s ++ '/' :: trailing p := by
  rw [cleaned]
  simp only
  rw [dropWhile_append_stop (by decide), dropRightWhile_append_stop (by decide), List.filter_append,
    List.filter_cons_of_pos (by decide)]
  rfl

theorem Clean.trailing_eq {p : List Char} (hp : Clean p) : trailing p = p := by
  rw [trailing, dropRightWhile_eq_self fun c hc => decide_eq_false (by have := hp.last c hc; omega)]
  exact List.filter_eq_self.2 fun c hc => by simpa [and_assoc] using hp.inside c hc

/-- What is kept of a text at the beginning of an address is what is kept of it alone, with perhaps
white space behind. -/
theorem leading_eq_cleaned_append (s : List Char) : ∃ e, (∀ c ∈ e, c.toNat ≤ 32) ∧ leading s = cleaned s ++ e := by
  generalize hx : s.dropWhile (fun c => c.toNat ≤ 32) = x
  have hsplit : x = dropRightWhile (fun c => c.toNat ≤ 32) x ++ (x.reverse.takeWhile fun c => c.toNat ≤ 32).reverse := by
    rw [dropRightWhile, ← List.reverse_append, List.takeWhile_append_dropWhile, List.reverse_reverse]
  refine ⟨((x.reverse.takeWhile fun c => c.toNat ≤ 32).reverse).filter fun c => c ≠ '\t' && c ≠ '\n' && c ≠ '\r',
    fun c hc => ?_, ?_⟩
  · simpa using List.mem_takeWhile_imp (List.mem_reverse.1 (List.mem_filter.1 hc).1)
  · rw [leading, cleaned]
    simp only [hx]
    rw [← List.filter_append, ← hsplit]

/-! ## The scheme -/

/-- A slash behind the scheme is not part of it, whatever follows. -/
theorem takeScheme_append {x p : List Char} {scheme : String} {rest : List Char}
    (h : takeScheme (x ++ '/' :: p) = some (scheme, rest)) :
    ∃ y, rest = y ++ '/' :: p ∧ ∀ p', takeScheme (x ++ '/' :: p') = some (scheme, y ++ '/' :: p') := by
  rw [takeScheme, takeWhile_append_stop (by decide), dropWhile_append_stop (by decide)] at h
  split at h
  next c cs rest' ht hd =>
    split at h
    next hc =>
      simp only [Option.some.injEq, Prod.mk.injEq] at h
      obtain ⟨rfl, rfl⟩ := h
      cases hx : x.dropWhile fun c =>
          isAsciiLetter c || isAsciiDigit c || c = '+' || c = '-' || c = '.' with
      | nil =>
        rw [hx] at hd
        cases hd
      | cons d y =>
        rw [hx] at hd
        cases hd
        refine ⟨y, rfl, fun p' => ?_⟩
        rw [takeScheme, takeWhile_append_stop (by decide), dropWhile_append_stop (by decide), ht, hx]
        simp [hc]
    next => cases h
  next => cases h

/-- The scheme of a text that has one is that of every text that begins with it. -/
theorem takeScheme_extend {s : List Char} {scheme : String} {rest : List Char}
    (h : takeScheme s = some (scheme, rest)) (x : List Char) :
    takeScheme (s ++ x) = some (scheme, rest ++ x) := by
  rw [takeScheme] at h ⊢
  split at h
  next c cs rest' ht hd =>
    split at h
    next hc =>
      simp only [Option.some.injEq, Prod.mk.injEq] at h
      obtain ⟨rfl, rfl⟩ := h
      generalize hq : (fun c => isAsciiLetter c || isAsciiDigit c || decide (c = '+') || decide (c = '-') ||
        decide (c = '.')) = q at ht hd ⊢
      have hs : s = (c :: cs) ++ ':' :: rest' := by rw [← ht, ← hd, List.takeWhile_append_dropWhile]
      have hstop : q ':' = false := of_dropWhile_eq_cons hd
      have hall : ∀ d ∈ c :: cs, q d = true := fun d hmem => List.mem_takeWhile_imp (ht ▸ hmem)
      have hsplit : s ++ x = (c :: cs) ++ ':' :: (rest' ++ x) := by rw [hs]; simp
      rw [hsplit, takeWhile_append_stop hstop, dropWhile_append_stop hstop, List.takeWhile_eq_self_iff.2 hall,
        List.dropWhile_eq_nil_iff.2 hall]
      simp [hc]
    next => cases h
  next => cases h

/-! ## The path -/

/-- The parts that a path begins with lead somewhere, whatever follows them. -/
theorem resolve_append (passed parts : List String) :
    ∃ at_, ∀ rest, rest ≠ [] → resolve passed (parts ++ rest) = resolve at_ rest := by
  induction parts generalizing passed with
  | nil => exact ⟨passed, fun rest _ => rfl⟩
  | cons s parts ih =>
    have hstep : ∃ next, ∀ rest, rest ≠ [] → resolve passed (s :: rest) = resolve next rest := by
      by_cases hd : isDoubleDot s = true
      · exact ⟨up passed, fun rest h => by
          cases rest with
          | nil => exact absurd rfl h
          | cons => simp [resolve, hd]⟩
      by_cases hs : isSingleDot s = true
      · exact ⟨passed, fun rest h => by
          cases rest with
          | nil => exact absurd rfl h
          | cons => simp [resolve, hd, hs]⟩
      · exact ⟨s :: passed, fun rest h => by
          cases rest with
          | nil => exact absurd rfl h
          | cons => simp [resolve, hd, hs]⟩
    obtain ⟨next, hnext⟩ := hstep
    obtain ⟨at_, hat⟩ := ih next
    refine ⟨at_, fun rest h => ?_⟩
    rw [List.cons_append, hnext _ (by simp [h]), hat rest h]

/-- Parts without dot segments stay as they are. -/
theorem resolve_eq_append {passed parts : List String} (hne : parts ≠ [])
    (hdots : ∀ s ∈ parts, isSingleDot s = false ∧ isDoubleDot s = false) :
    resolve passed parts = passed.reverse ++ parts := by
  induction parts generalizing passed with
  | nil => exact absurd rfl hne
  | cons s parts ih =>
    obtain ⟨hs, hd⟩ := hdots s (by simp)
    cases parts with
    | nil => simp [resolve, hs, hd]
    | cons t parts =>
      rw [resolve]
      · simp only [hs, hd, Bool.false_eq_true, if_false]
        rw [ih (by simp) fun u hu => hdots u (by simp [hu])]
        simp
      · simp

/-- A segment of the path as it is written. -/
def segment (p : List Char) : String := String.ofList (percentEncode keptInPath p)

/-- The parts of a path that a base begins it with. -/
theorem readPath_parts {w : List Char} (hw : ∀ c, w.head? = some c → isSlash c = true) :
    ∃ parts : List (List Char), ∀ p : List Char, (∀ c ∈ p, c ≠ '\\') →
      readPath (w ++ '/' :: p) = resolve [] ((parts ++ p.splitOn '/').map segment) := by
  have hplain : ∀ p : List Char, (∀ c ∈ p, c ≠ '\\') →
      p.map (fun c => if isSlash c then '/' else c) = p := by
    intro p hp
    refine (List.map_congr_left fun c hc => ?_).trans (List.map_id p)
    have hc := hp c hc
    split
    next hs =>
      simp only [isSlash, hc, Bool.or_eq_true, decide_eq_true_eq, or_false] at hs
      exact hs.symm
    next => rfl
  cases w with
  | nil =>
    refine ⟨[], fun p hp => ?_⟩
    rw [List.nil_append, readPath]
    simp only [show isSlash '/' = true by decide, if_true]
    rw [hplain p hp]
    rfl
  | cons c w =>
    refine ⟨(w.map fun c => if isSlash c then '/' else c).splitOn '/', fun p hp => ?_⟩
    rw [List.cons_append, readPath]
    simp only [hw c rfl, if_true]
    rw [List.map_append, List.map_cons, hplain p hp]
    simp only [show isSlash '/' = true by decide, if_true]
    rw [List.splitOn_append_cons_self]
    rfl

theorem readPath_append {w : List Char} (hw : ∀ c, w.head? = some c → isSlash c = true) :
    ∃ pre, readPath (w ++ ['/']) = pre ++ [""] ∧
      ∀ p : List Char, (∀ c ∈ p, c ≠ '\\') →
        (∀ part ∈ p.splitOn '/', isSingleDot (segment part) = false ∧ isDoubleDot (segment part) = false) →
        readPath (w ++ '/' :: p) = pre ++ (p.splitOn '/').map segment := by
  obtain ⟨parts, hparts⟩ := readPath_parts hw
  obtain ⟨at_, hat⟩ := resolve_append [] (parts.map segment)
  have happend : ∀ p : List Char, (∀ c ∈ p, c ≠ '\\') →
      (∀ part ∈ p.splitOn '/', isSingleDot (segment part) = false ∧ isDoubleDot (segment part) = false) →
      readPath (w ++ '/' :: p) = at_.reverse ++ (p.splitOn '/').map segment := by
    intro p hp hdots
    have hne : (p.splitOn '/').map segment ≠ [] := by simp [List.splitOn_ne_nil]
    rw [hparts p hp, List.map_append, hat _ hne, resolve_eq_append hne]
    intro s hs
    obtain ⟨part, hpart, rfl⟩ := List.mem_map.1 hs
    exact hdots part hpart
  exact ⟨at_.reverse, happend [] (by simp) (by simp; decide), happend⟩

/-! ## The whole address -/

/-- A text that reads as nothing but a path below a base. -/
structure PlainPath (p : List Char) : Prop where
  plain : ∀ c ∈ p, c ≠ '\\' ∧ c ≠ '?' ∧ c ≠ '#'
  dots : ∀ part ∈ p.splitOn '/', isSingleDot (segment part) = false ∧ isDoubleDot (segment part) = false

/-- What stands behind a path: nothing, or a query that is kept as it is. -/
def tailOf : Option (List Char) → List Char
  | none => []
  | some query => '?' :: query

theorem readTail_tailOf {query : Option (List Char)}
    (h : ∀ q, query = some q → ∀ c ∈ q, (isAscii c && keptInQuery c) = true) :
    readTail (tailOf query) = (query.map String.ofList, none) := by
  cases query with
  | none => rfl
  | some q =>
    have hall : ∀ c ∈ '?' :: q, (decide (c ≠ '#')) = true := by
      intro c hc
      rcases List.mem_cons.1 hc with rfl | hc
      · decide
      · exact decide_eq_true (kept_in_query (h q rfl c hc)).2
    rw [tailOf, readTail]
    simp only
    rw [List.dropWhile_eq_nil_iff.2 hall, List.takeWhile_eq_self_iff.2 hall]
    simp only [percentEncode_eq_self (h q rfl), Option.map_some]

/-- What follows the host of a base is the beginning of a path, if anything. -/
theorem readTail_eq_none {s : List Char}
    (h : readTail (s.dropWhile fun c => !(c = '?' || c = '#')) = (none, none)) :
    s.dropWhile (fun c => !(c = '?' || c = '#')) = [] := by
  cases hd : s.dropWhile fun c => !(c = '?' || c = '#') with
  | nil => rfl
  | cons c rest =>
    have hc := of_dropWhile_eq_cons hd
    simp only [Bool.not_eq_false', Bool.or_eq_true, decide_eq_true_eq] at hc
    rw [hd, readTail] at h
    rcases hc with rfl | rfl
    · cases h
    · cases h

/-- The path of a base begins with a slash where it begins. -/
theorem isSlash_of_head? {z w : List Char} (hw : z.dropWhile (fun c => !endsAuthority c) = w)
    (hbase : ∀ c ∈ w ++ ['/'], (!(decide (c = '?') || decide (c = '#'))) = true) :
    ∀ c, w.head? = some c → isSlash c = true := by
  intro c hc
  cases w with
  | nil => cases hc
  | cons d w =>
    cases hc
    have hends := of_dropWhile_eq_cons hw
    have hplain := hbase c (by simp)
    simp only [endsAuthority, Bool.not_eq_eq_eq_not, Bool.not_true, Bool.not_false, Bool.or_eq_true,
      Bool.or_eq_false_iff, decide_eq_true_eq, decide_eq_false_iff_not] at hends hplain
    rcases hends with (hends | hends) | hends
    · exact hends
    · exact absurd hends hplain.1
    · exact absurd hends hplain.2

/-- Behind the host, the path goes up to the query, if there is one. -/
theorem path_append {w p : List Char} (hp : PlainPath p) (query : Option (List Char))
    (hbase : ∀ c ∈ w ++ ['/'], (!(decide (c = '?') || decide (c = '#'))) = true) :
    (w ++ '/' :: (p ++ tailOf query)).takeWhile (fun c => !(c = '?' || c = '#')) = w ++ '/' :: p ∧
      (w ++ '/' :: (p ++ tailOf query)).dropWhile (fun c => !(c = '?' || c = '#')) = tailOf query := by
  have hpath : ∀ c ∈ w ++ '/' :: p, (!(decide (c = '?') || decide (c = '#'))) = true := by
    intro c hc
    rcases List.mem_append.1 hc with hc | hc
    · exact hbase c (by simp [hc])
    rcases List.mem_cons.1 hc with rfl | hc
    · decide
    · simp [hp.plain c hc]
  have hsplit : w ++ '/' :: (p ++ tailOf query) = (w ++ '/' :: p) ++ tailOf query := by simp
  rw [hsplit, List.takeWhile_append_of_pos hpath, List.dropWhile_append_of_pos hpath]
  cases query <;> simp [tailOf]

theorem readWeb_append {scheme : String} {z : List Char} {u : Url}
    (h : readWeb scheme (z ++ ['/']) = .ok u) (hquery : u.query = none) (hfragment : u.fragment = none)
    {p : List Char} (hp : PlainPath p) {query : Option (List Char)}
    (hq : ∀ q, query = some q → ∀ c ∈ q, (isAscii c && keptInQuery c) = true) :
    readWeb scheme (z ++ '/' :: (p ++ tailOf query)) =
      .ok { u with
        segments := u.segments.dropLast ++ (p.splitOn '/').map segment
        query := query.map String.ofList } := by
  have hslash : (!endsAuthority '/') = false := by decide
  rw [readWeb, takeWhile_append_stop hslash, dropWhile_append_stop hslash] at h ⊢
  generalize hw : (z.dropWhile fun c => !endsAuthority c) = w at h ⊢
  simp only at h ⊢
  split at h
  · cases h
  next hhost =>
    rw [if_neg hhost]
    obtain ⟨host, hparse, h⟩ := except_bind_ok_iff.1 h
    obtain ⟨port, hport, h⟩ := except_bind_ok_iff.1 h
    simp only [hparse, hport, except_ok_bind]
    cases h
    have hnil := readTail_eq_none (Prod.ext hquery hfragment)
    have hbase := List.dropWhile_eq_nil_iff.1 hnil
    obtain ⟨pre, hpre, hread⟩ := readPath_append (isSlash_of_head? hw hbase)
    obtain ⟨hpath, htail⟩ := path_append hp query hbase
    rw [hpath, htail, List.takeWhile_eq_self_iff.2 hbase, hnil, readTail_tailOf hq, hpre,
      hread p (fun c hc => (hp.plain c hc).1) hp.dots, List.dropLast_concat]
    rfl

theorem dropWhile_slash_below (y p : List Char) :
    (y ++ '/' :: p).dropWhile isSlash =
      if (y.dropWhile isSlash).isEmpty then p.dropWhile isSlash else y.dropWhile isSlash ++ '/' :: p := by
  rw [List.dropWhile_append]
  rfl

/-- What is read as an address of the web has a scheme of the web, and what stands behind the slashes
is read below it. -/
theorem web_of_parse {s : List Char} {u : Url} (h : parse (String.ofList s) = .ok (.web u)) :
    ∃ scheme rest, takeScheme (cleaned s) = some (scheme, rest) ∧ scheme ≠ "file" ∧
      (defaultPort? scheme).isSome = true ∧ readWeb scheme (rest.dropWhile isSlash) = .ok u := by
  rw [parse, String.toList_ofList] at h
  cases hs : takeScheme (cleaned s) with
  | none =>
    rw [hs] at h
    cases h
  | some r =>
    obtain ⟨scheme, rest⟩ := r
    rw [hs] at h
    simp only at h
    split at h
    · obtain ⟨_, -, h⟩ := except_map_ok_iff.1 h
      cases h
    next hfile =>
      split at h
      next hport =>
        obtain ⟨u', hu, h⟩ := except_map_ok_iff.1 h
        cases h
        exact ⟨scheme, rest, rfl, hfile, hport, hu⟩
      next =>
        split at h
        · obtain ⟨_, -, h⟩ := except_map_ok_iff.1 h
          cases h
        · cases h

/-- Behind a base of the web, reading goes on at the host of the base. -/
theorem parse_slash {s : List Char} {u : Url} (h : parse (String.ofList (s ++ ['/'])) = .ok (.web u)) :
    ∃ scheme z, readWeb scheme (z ++ ['/']) = .ok u ∧ ∀ p, parse (String.ofList (s ++ '/' :: p)) =
      (readWeb scheme (z ++ '/' :: trailing p)).map .web := by
  obtain ⟨scheme, rest, hs, hfile, hport, hu⟩ := web_of_parse h
  rw [cleaned_slash, show trailing [] = [] from rfl] at hs
  obtain ⟨y, rfl, hy⟩ := takeScheme_append hs
  rw [dropWhile_slash_below] at hu
  split at hu
  · cases hu
  next hz =>
    refine ⟨scheme, y.dropWhile isSlash, hu, fun p => ?_⟩
    rw [parse, String.toList_ofList, cleaned_slash, hy]
    simp only
    rw [if_neg hfile, if_pos hport, dropWhile_slash_below, if_neg hz]

/-- A path below a base is read as segments behind those of the base. -/
theorem parse_append {s : List Char} {u : Url}
    (h : parse (String.ofList (s ++ ['/'])) = .ok (.web u)) (hquery : u.query = none)
    (hfragment : u.fragment = none) {p : List Char} (hp : PlainPath p) {query : Option (List Char)}
    (hq : ∀ q, query = some q → ∀ c ∈ q, (isAscii c && keptInQuery c) = true)
    (hclean : Clean (p ++ tailOf query)) :
    parse (String.ofList (s ++ '/' :: (p ++ tailOf query))) =
      .ok (.web { u with
        segments := u.segments.dropLast ++ (p.splitOn '/').map segment
        query := query.map String.ofList }) := by
  obtain ⟨scheme, z, hu, hparse⟩ := parse_slash h
  rw [hparse, hclean.trailing_eq, readWeb_append hu hquery hfragment hp hq]
  rfl

/-! ## Users -/

/-- The part before the host, with the user and the password. -/
def userPart (s : List Char) : List Char :=
  let authority := s.takeWhile fun c => !endsAuthority c
  ((splitUser authority).getD ([], authority)).1

/-- The user comes from the part before the host, and the segments from some path. -/
theorem readWeb_ok {scheme : String} {s : List Char} {u : Url} (h : readWeb scheme s = .ok u) :
    (u.user, u.password) = readUser (userPart s) ∧ ∃ w, u.segments = readPath w := by
  rw [readWeb] at h
  simp only at h
  split at h
  · cases h
  · obtain ⟨host, -, h⟩ := except_bind_ok_iff.1 h
    obtain ⟨port, -, h⟩ := except_bind_ok_iff.1 h
    cases h
    exact ⟨rfl, _, rfl⟩

theorem splitUser_append {e : List Char} (he : '@' ∉ e) (s : List Char) :
    splitUser (s ++ e) = (splitUser s).map fun r => (r.1, r.2 ++ e) := by
  have hcontains : (s ++ e).contains '@' = s.contains '@' := by simp [he]
  have hall : ∀ c ∈ e.reverse, decide (c ≠ '@') = true := by
    intro c hc
    have hne : c ≠ '@' := fun h => he (h ▸ List.mem_reverse.1 hc)
    simpa using hne
  have hback : (s ++ e).reverse.takeWhile (· ≠ '@') = e.reverse ++ s.reverse.takeWhile (· ≠ '@') := by
    rw [List.reverse_append, List.takeWhile_append_of_pos hall]
  have hshort : (s.reverse.takeWhile (· ≠ '@')).length ≤ s.length := by
    simpa using (List.takeWhile_sublist (l := s.reverse) (· ≠ '@')).length_le
  -- The user ends at the last at sign, which is searched from behind: past all of `e` first.
  rw [splitUser, splitUser, hcontains]
  by_cases hs : s.contains '@' = true
  · rw [if_pos hs, if_pos hs, hback]
    generalize s.reverse.takeWhile (· ≠ '@') = back at hshort ⊢
    have hlength : (s ++ e).length - (e.reverse ++ back).reverse.length - 1 = s.length - back.reverse.length - 1 := by
      simp only [List.length_append, List.length_reverse]
      omega
    simp only [Option.map_some, Option.some.injEq, Prod.mk.injEq]
    rw [hlength, List.take_append_of_le_length (by omega), List.reverse_append, List.reverse_reverse]
    exact ⟨rfl, rfl⟩
  · rw [if_neg hs, if_neg hs]
    rfl

/-- Characters that neither end the part with the host nor a user do not change the user. -/
theorem userPart_append {e : List Char} (he : ∀ c ∈ e, c ≠ '@' ∧ endsAuthority c = false) (s q : List Char) :
    userPart (s ++ e ++ '/' :: q) = userPart s := by
  have hauthority : ∃ e', '@' ∉ e' ∧ (s ++ e ++ '/' :: q).takeWhile (fun c => !endsAuthority c) =
      s.takeWhile (fun c => !endsAuthority c) ++ e' := by
    rw [takeWhile_append_stop (by decide), List.takeWhile_append]
    split
    next hs =>
      have hall : ∀ c ∈ s, (!endsAuthority c) = true :=
        List.takeWhile_eq_self_iff.1 ((List.takeWhile_prefix _).eq_of_length hs)
      refine ⟨e.takeWhile fun c => !endsAuthority c, fun hmem => ?_, by rw [List.takeWhile_eq_self_iff.2 hall]⟩
      exact (he _ ((List.takeWhile_prefix _).mem hmem)).1 rfl
    next => exact ⟨[], by simp, by simp⟩
  obtain ⟨e', he', hauthority⟩ := hauthority
  simp only [userPart]
  rw [hauthority, splitUser_append he']
  cases splitUser (s.takeWhile fun c => !endsAuthority c) <;> rfl

theorem userPart_slash (s q : List Char) : userPart (s ++ '/' :: q) = userPart s := by
  have hnone : ∀ c ∈ ([] : List Char), c ≠ '@' ∧ endsAuthority c = false := by simp
  simpa using userPart_append hnone s q

/-- Whatever stands below a base, it has the user and the password of the base. -/
theorem user_below {s p : List Char} {u u' : Url} (base : parse (String.ofList s) = .ok (.web u))
    (below : parse (String.ofList (s ++ '/' :: p)) = .ok (.web u')) :
    u'.user = u.user ∧ u'.password = u.password := by
  obtain ⟨scheme, rest, hscheme, -, -, hread⟩ := web_of_parse base
  obtain ⟨scheme', rest', hscheme', -, -, hread'⟩ := web_of_parse below
  obtain ⟨e, he, hleading⟩ := leading_eq_cleaned_append s
  rw [cleaned_slash, hleading, List.append_assoc, takeScheme_extend hscheme] at hscheme'
  cases hscheme'
  have hplain : ∀ c ∈ e, c ≠ '@' ∧ endsAuthority c = false := by
    intro c hc
    have hne : ∀ d : Char, 32 < d.toNat → c ≠ d := by
      rintro d hd rfl
      have hlow := he c hc
      omega
    have hends : endsAuthority c = false := by
      simp [endsAuthority, isSlash, hne '/' (by decide), hne '\\' (by decide), hne '?' (by decide),
        hne '#' (by decide)]
    exact ⟨hne '@' (by decide), hends⟩
  have hhost : (rest.dropWhile isSlash).isEmpty = false := by
    cases hz : rest.dropWhile isSlash with
    | nil =>
      rw [hz] at hread
      cases hread
    | cons => rfl
  rw [List.dropWhile_append, hhost, if_neg Bool.false_ne_true, ← List.append_assoc] at hread'
  have husers : (u'.user, u'.password) = (u.user, u.password) := by
    rw [(readWeb_ok hread').1, (readWeb_ok hread).1, userPart_append hplain]
  exact Prod.mk.inj husers

/-- Slashes at the end of a base make no difference to its user and password. -/
theorem user_beside {s slashes p : List Char} {u u' : Url} (hslashes : ∀ c ∈ slashes, c = '/')
    (base : parse (String.ofList (s ++ '/' :: slashes)) = .ok (.web u))
    (below : parse (String.ofList (s ++ '/' :: p)) = .ok (.web u')) :
    u'.user = u.user ∧ u'.password = u.password := by
  obtain ⟨scheme, rest, hscheme, -, -, hread⟩ := web_of_parse base
  obtain ⟨scheme', rest', hscheme', -, -, hread'⟩ := web_of_parse below
  rw [cleaned_slash] at hscheme hscheme'
  obtain ⟨y, rfl, hy⟩ := takeScheme_append hscheme
  rw [hy] at hscheme'
  cases hscheme'
  have hnothing : (trailing slashes).dropWhile isSlash = [] := by
    refine List.dropWhile_eq_nil_iff.2 fun c hc => ?_
    have hkept : c ∈ slashes.reverse.dropWhile fun c => c.toNat ≤ 32 := by
      simpa [dropRightWhile] using (List.mem_filter.1 hc).1
    have hmem : c ∈ slashes := List.mem_reverse.1 ((List.dropWhile_suffix _).subset hkept)
    rw [hslashes c hmem]
    decide
  rw [dropWhile_slash_below] at hread hread'
  split at hread
  · rw [hnothing] at hread
    cases hread
  next hz =>
    rw [if_neg hz] at hread'
    have husers : (u'.user, u'.password) = (u.user, u.password) := by
      rw [(readWeb_ok hread').1, (readWeb_ok hread).1, userPart_slash, userPart_slash]
    exact Prod.mk.inj husers

end SignatureDesk.Url
