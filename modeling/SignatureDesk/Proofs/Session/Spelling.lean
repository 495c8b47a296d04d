/-
How the id of a session may be spelled, and how a header names it. `Spells` lists
the spellings: the 32 digits of the id, each in either case, alone or with
hyphens, and with hyphens also in braces or behind `urn:uuid:`. A text is read as
an id just when it spells it (`read?_eq_some_iff`), and a header is taken for the
id that it names (`bearerSession_eq_ok_iff`).
-/
import Mathlib.Algebra.Group.Nat.Defs
import Mathlib.Data.List.Induction
import SignatureDesk.Session.Bearer
import SignatureDesk.Proofs.Outcome
import SignatureDesk.Proofs.Url.Parts

namespace SignatureDesk

open Text Url

namespace SessionId

/-! ## Digits -/

theorem hexValue?_eq_some_iff {c : Char} {n : Nat} :
    hexValue? c = some n ↔ n < 16 ∧ asciiLowerChar c = Nat.digitChar n := by
  constructor
  · intro h
    have hascii : isAscii c = true := isAscii_of_hexValue? (by simp [h])
    exact forall_ascii (p := fun c => ∀ n ∈ hexValue? c, n < 16 ∧ asciiLowerChar c = Nat.digitChar n)
      (by decide) hascii n h
  · rintro ⟨hn, hc⟩
    have hdigit : ∀ n, n < 16 → hexValue? (Nat.digitChar n) = some n ∧
        hexValue? (asciiUpperChar (Nat.digitChar n)) = some n := by decide
    rcases eq_or_of_asciiLowerChar hc with rfl | rfl
    · exact (hdigit n hn).1
    · exact (hdigit n hn).2

/-- The last digits of a number, zeros in front. -/
def lastDigits : Nat → Nat → List Char
  | 0, _ => []
  | width + 1, n => lastDigits width (n / 16) ++ [Nat.digitChar (n % 16)]

theorem lastDigits_zero (width : Nat) : lastDigits width 0 = List.replicate width '0' := by
  induction width with
  | zero => rfl
  | succ width ih => rw [lastDigits, Nat.zero_div, ih, List.replicate_succ']; rfl

theorem length_lastDigits (width n : Nat) : (lastDigits width n).length = width := by
  induction width generalizing n with
  | zero => rfl
  | succ width ih => rw [lastDigits, List.length_append, ih, List.length_singleton]

theorem mem_lastDigits {width n : Nat} {c : Char} (h : c ∈ lastDigits width n) :
    ∃ d, d < 16 ∧ c = Nat.digitChar d := by
  induction width generalizing n with
  | zero => cases h
  | succ width ih =>
    rcases List.mem_append.1 h with h | h
    · exact ih h
    · exact ⟨n % 16, by omega, List.mem_singleton.1 h⟩

/-- The letters among the digits are small. -/
theorem lower_lastDigits (width n : Nat) : (lastDigits width n).map asciiLowerChar = lastDigits width n := by
  have hdigit : ∀ d, d < 16 → asciiLowerChar (Nat.digitChar d) = Nat.digitChar d := by decide
  refine (List.map_congr_left fun c hc => ?_).trans (List.map_id _)
  obtain ⟨d, hd, rfl⟩ := mem_lastDigits hc
  exact hdigit d hd

theorem lastDigits_eq {width n : Nat} (hwidth : 0 < width) (hn : n < 16 ^ width) :
    lastDigits width n = List.replicate (width - (Nat.toDigits 16 n).length) '0' ++ Nat.toDigits 16 n := by
  induction width generalizing n with
  | zero => omega
  | succ width ih =>
    rw [lastDigits]
    by_cases hsmall : n < 16
    · rw [Nat.toDigits_of_lt_base hsmall, Nat.div_eq_of_lt hsmall, Nat.mod_eq_of_lt hsmall,
        lastDigits_zero]
      rfl
    · have hpos : 0 < width := by
        rcases Nat.eq_zero_or_pos width with rfl | h
        · omega
        · exact h
      have hdiv : n / 16 < 16 ^ width := by
        rw [Nat.div_lt_iff_lt_mul (by omega), ← Nat.pow_succ]
        exact hn
      have hdigits : Nat.toDigits 16 n = Nat.toDigits 16 (n / 16) ++ [Nat.digitChar (n % 16)] :=
        Nat.toDigits_of_base_le (by omega) (by omega)
      rw [ih hpos hdiv, hdigits, List.length_append, List.length_singleton, Nat.add_sub_add_right,
        List.append_assoc]

theorem foldlM_hexValue?_eq_some_iff {ds : List Char} {n : Nat} :
    ds.foldlM (fun n c => (hexValue? c).map (n * 16 + ·)) 0 = some n ↔
      n < 16 ^ ds.length ∧ ds.map asciiLowerChar = lastDigits ds.length n := by
  induction ds using List.reverseRecOn generalizing n with
  | nil => simp [lastDigits]; omega
  | append_singleton ds c ih =>
    have hstep : (ds ++ [c]).foldlM (fun n c => (hexValue? c).map (n * 16 + ·)) 0 = some n ↔
        ∃ m d, ds.foldlM (fun n c => (hexValue? c).map (n * 16 + ·)) 0 = some m ∧
          hexValue? c = some d ∧ m * 16 + d = n := by
      rw [List.foldlM_append]
      simp [Option.bind_eq_some_iff]
    rw [hstep, List.length_append, List.length_singleton, lastDigits, List.map_append, Nat.pow_succ]
    constructor
    · rintro ⟨m, d, hm, hd, rfl⟩
      obtain ⟨hlt, hlower⟩ := ih.1 hm
      obtain ⟨hd, hc⟩ := hexValue?_eq_some_iff.1 hd
      have hdiv : (m * 16 + d) / 16 = m := by omega
      have hmod : (m * 16 + d) % 16 = d := by omega
      refine ⟨by omega, ?_⟩
      rw [hdiv, hmod, hlower, List.map_singleton, hc]
    · rintro ⟨hlt, hlower⟩
      obtain ⟨hlower, hc⟩ := List.append_inj' hlower rfl
      refine ⟨n / 16, n % 16, ih.2 ⟨by omega, hlower⟩, hexValue?_eq_some_iff.2 ⟨by omega, ?_⟩, by omega⟩
      simpa using hc

/-- The digits write the id, each in either case. -/
structure WrittenBy (id : SessionId) (ds : List Char) : Prop where
  length : ds.length = 32
  lower : ds.map asciiLowerChar = id.digits

theorem digits_eq {id : SessionId} (h : id.number < 16 ^ 32) : id.digits = lastDigits 32 id.number :=
  (lastDigits_eq (by omega) h).symm

namespace WrittenBy

variable {id : SessionId} {ds : List Char}

/-- Digits of a greater number would be more than 32. -/
theorem number_lt (h : id.WrittenBy ds) : id.number < 16 ^ 32 := by
  rw [← Nat.length_toDigits_le_iff (by omega) (by omega)]
  have hcount := congrArg List.length h.lower
  simp only [List.length_map, h.length, digits, List.length_append, List.length_replicate] at hcount
  omega

theorem isSome_hexValue? (h : id.WrittenBy ds) {c : Char} (hc : c ∈ ds) : (hexValue? c).isSome := by
  have hlower : asciiLowerChar c ∈ lastDigits 32 id.number := by
    rw [← digits_eq h.number_lt, ← h.lower]
    exact List.mem_map_of_mem hc
  obtain ⟨d, hd, hc⟩ := mem_lastDigits hlower
  rw [hexValue?_eq_some_iff.2 ⟨hd, hc⟩]
  rfl

/-- A character that is no digit is not among the digits. -/
theorem ne_of_mem (h : id.WrittenBy ds) {c d : Char} (hc : c ∈ ds) (hd : hexValue? d = none) : c ≠ d := by
  rintro rfl
  simpa [hd] using h.isSome_hexValue? hc

end WrittenBy

theorem ofDigits?_eq_some_iff {ds : List Char} {id : SessionId} :
    ofDigits? ds = some id ↔ id.WrittenBy ds := by
  rw [ofDigits?]
  split
  next hlength =>
    have hid : ∀ n, SessionId.mk n = id ↔ n = id.number := fun n => by
      cases id
      simp
    simp only [Option.map_eq_some_iff, hid, exists_eq_right, foldlM_hexValue?_eq_some_iff, hlength]
    constructor
    · rintro ⟨hlt, hlower⟩
      exact ⟨hlength, by rw [hlower, digits_eq hlt]⟩
    · intro h
      exact ⟨h.number_lt, by rw [h.lower, digits_eq h.number_lt]⟩
  next hlength =>
    constructor
    · intro h
      cases h
    · intro h
      exact absurd h.length hlength

/-! ## Hyphens -/

theorem flatten_groups (ns : List Nat) (ds : List Char) :
    (groups ns ds).flatten = ds.take (ns.foldr (· + ·) 0) := by
  induction ns generalizing ds with
  | nil => simp [groups]
  | cons n ns ih => rw [groups, List.flatten_cons, ih, List.foldr_cons, List.take_add]

theorem filter_intercalate (gs : List (List Char)) :
    (['-'].intercalate gs).filter (· ≠ '-') = gs.flatten.filter (· ≠ '-') := by
  match gs with
  | [] => rfl
  | [g] => simp
  | g :: g' :: gs =>
    have ih := filter_intercalate (g' :: gs)
    have hhyphen : ['-'].filter (· ≠ '-') = [] := rfl
    rw [List.intercalate_cons_cons, List.filter_append, List.filter_append, ih, hhyphen, List.append_nil,
      ← List.filter_append]
    rfl

/-- Without the hyphens the digits are left. -/
theorem filter_hyphenated {id : SessionId} {ds : List Char} (h : id.WrittenBy ds) :
    (hyphenated ds).filter (· ≠ '-') = ds := by
  rw [hyphenated, filter_intercalate, flatten_groups,
    List.take_of_length_le (by simp [groupLengths, h.length])]
  exact List.filter_eq_self.2 fun c hc => by simpa using h.ne_of_mem hc (by decide)

theorem ofHyphenated?_eq_some_iff {s : List Char} {id : SessionId} :
    ofHyphenated? s = some id ↔ ∃ ds, id.WrittenBy ds ∧ s = hyphenated ds := by
  rw [ofHyphenated?]
  constructor
  · intro h
    split at h
    next hs => exact ⟨_, ofDigits?_eq_some_iff.1 h, hs.symm⟩
    next => cases h
  · rintro ⟨ds, h, rfl⟩
    rw [filter_hyphenated h, if_pos rfl, ofDigits?_eq_some_iff]
    exact h

/-! ## Spellings -/

/-- The spellings of an id that are accepted. -/
inductive Spells (id : SessionId) : List Char → Prop
  | plain {ds} : id.WrittenBy ds → Spells id ds
  | hyphenated {ds} : id.WrittenBy ds → Spells id (hyphenated ds)
  | braced {ds} : id.WrittenBy ds → Spells id ('\x7b' :: (SessionId.hyphenated ds ++ ['\x7d']))
  | urn {ds} : id.WrittenBy ds → Spells id ("urn:uuid:".toList ++ SessionId.hyphenated ds)

theorem length_hyphenated {id : SessionId} {ds : List Char} (h : id.WrittenBy ds) :
    (hyphenated ds).length = 36 := by
  simp [hyphenated, groups, groupLengths, h.length]

/-- A text that begins with a digit is nothing but digits, or digits with hyphens. -/
theorem read?_of_digit {s : String} {c : Char} {rest : List Char} (hs : s.toList = c :: rest)
    (hc : (hexValue? c).isSome) :
    read? s = if s.toList.length = 32 then ofDigits? s.toList else ofHyphenated? s.toList := by
  have hne : ∀ d, hexValue? d = none → c ≠ d := by
    rintro d hd rfl
    simp [hd] at hc
  rw [read?, hs]
  split
  next h =>
    rw [List.cons.injEq] at h
    exact absurd h.1 (hne _ (by decide))
  next =>
    rw [if_neg]
    intro h
    obtain ⟨_, h⟩ := List.isPrefixOf_iff_prefix.1 h
    exact hne 'u' (by decide) (List.cons.inj h).1.symm

theorem read?_eq_some_iff {s : String} {id : SessionId} : read? s = some id ↔ id.Spells s.toList := by
  constructor
  · intro h
    rw [read?] at h
    generalize s.toList = cs at h ⊢
    split at h
    next rest =>
      split at h
      next hlast =>
        obtain ⟨ds, hds, hrest⟩ := ofHyphenated?_eq_some_iff.1 h
        obtain ⟨front, rfl⟩ := List.getLast?_eq_some_iff.1 hlast
        rw [List.dropLast_concat] at hrest
        rw [hrest]
        exact .braced hds
      next => cases h
    next =>
      split at h
      next hurn =>
        obtain ⟨rest, rfl⟩ := List.isPrefixOf_iff_prefix.1 hurn
        rw [List.drop_left] at h
        obtain ⟨ds, hds, rfl⟩ := ofHyphenated?_eq_some_iff.1 h
        exact .urn hds
      split at h
      next => exact .plain (ofDigits?_eq_some_iff.1 h)
      next =>
        obtain ⟨ds, hds, rfl⟩ := ofHyphenated?_eq_some_iff.1 h
        exact .hyphenated hds
  · generalize hcs : s.toList = cs
    intro h
    cases h with
    | plain h =>
      obtain ⟨c, rest, rfl⟩ := List.exists_cons_of_length_pos (l := cs) (by simp [h.length])
      rw [read?_of_digit hcs (h.isSome_hexValue? (by simp)), hcs, if_pos h.length, ofDigits?_eq_some_iff]
      exact h
    | @hyphenated ds h =>
      obtain ⟨c, rest, rfl⟩ := List.exists_cons_of_length_pos (l := ds) (by simp [h.length])
      have hhead : ∃ rest', SessionId.hyphenated (c :: rest) = c :: rest' := ⟨_, rfl⟩
      obtain ⟨rest', hhead⟩ := hhead
      have hlength := length_hyphenated h
      rw [read?_of_digit (hcs.trans hhead) (h.isSome_hexValue? (by simp)), hcs, if_neg (by omega),
        ofHyphenated?_eq_some_iff]
      exact ⟨_, h, rfl⟩
    | @braced ds h =>
      rw [read?, hcs]
      simp only [List.getLast?_concat, List.dropLast_concat, if_true]
      exact ofHyphenated?_eq_some_iff.2 ⟨ds, h, rfl⟩
    | @urn ds h =>
      have hurn : "urn:uuid:".toList.isPrefixOf ("urn:uuid:".toList ++ SessionId.hyphenated ds) = true :=
        List.isPrefixOf_iff_prefix.2 (List.prefix_append _ _)
      have hmark : "urn:uuid:".toList = 'u' :: "rn:uuid:".toList := by decide
      rw [read?, hcs]
      split
      next h =>
        rw [hmark] at h
        cases h
      next =>
        rw [if_pos hurn, List.drop_left, ofHyphenated?_eq_some_iff]
        exact ⟨ds, h, rfl⟩

/-- The written form of an id of 128 bits is one of its spellings. -/
theorem spells_write {id : SessionId} (h : id.number < 16 ^ 32) : id.Spells id.write.toList := by
  rw [write, String.toList_ofList]
  refine .hyphenated ⟨?_, ?_⟩
  · rw [digits_eq h, length_lastDigits]
  · rw [digits_eq h, lower_lastDigits]

theorem mem_hyphenated {ds : List Char} {c : Char} (h : c ∈ hyphenated ds) : c = '-' ∨ c ∈ ds := by
  by_cases hc : c = '-'
  · exact .inl hc
  · have hfilter : c ∈ (hyphenated ds).filter (· ≠ '-') := List.mem_filter.2 ⟨h, by simpa using hc⟩
    rw [hyphenated, filter_intercalate, flatten_groups] at hfilter
    exact .inr (List.mem_of_mem_take (List.mem_filter.1 hfilter).1)

/-- Spellings are made of visible characters. -/
theorem Spells.visible {id : SessionId} {s : List Char} (h : id.Spells s) :
    ∀ c ∈ s, 32 < c.toNat ∧ c.toNat < 127 := by
  have hdigit : ∀ {ds}, id.WrittenBy ds → ∀ c ∈ ds, 32 < c.toNat ∧ c.toNat < 127 := by
    intro ds hds c hc
    have hvalue := hds.isSome_hexValue? hc
    exact forall_ascii (p := fun c => (hexValue? c).isSome → 32 < c.toNat ∧ c.toNat < 127) (by decide)
      (isAscii_of_hexValue? hvalue) hvalue
  have hhyphenated : ∀ {ds}, id.WrittenBy ds → ∀ c ∈ SessionId.hyphenated ds, 32 < c.toNat ∧ c.toNat < 127 := by
    intro ds hds c hc
    rcases mem_hyphenated hc with rfl | hc
    · decide
    · exact hdigit hds c hc
  intro c hc
  cases h with
  | plain h => exact hdigit h c hc
  | hyphenated h => exact hhyphenated h c hc
  | braced h =>
    simp only [List.mem_cons, List.mem_append, List.not_mem_nil, or_false] at hc
    rcases hc with rfl | hc | rfl
    · decide
    · exact hhyphenated h c hc
    · decide
  | urn h =>
    rcases List.mem_append.1 hc with hc | hc
    · have hmark : ("urn:uuid:".toList.all fun c => 32 < c.toNat && c.toNat < 127) = true := by
        decide
      simpa using List.all_eq_true.1 hmark c hc
    · exact hhyphenated h c hc

end SessionId

/-! ## Headers -/

/-- The header is the word `Bearer`, a space and a spelling of the id, with blanks around it. -/
def Names (header : Option (List UInt8)) (id : SessionId) : Prop :=
  ∃ before spelling after, id.Spells spelling ∧ (∀ c ∈ before ++ after, c = ' ' ∨ c = '\t') ∧
    header = some (utf8 (String.ofList ("Bearer ".toList ++ (before ++ spelling ++ after))))

/-- An id of 128 bits is named by its written form. -/
theorem names_write {id : SessionId} (h : id.number < 2 ^ 128) :
    Names (some (utf8 ("Bearer " ++ id.write))) id := by
  refine ⟨[], id.write.toList, [], SessionId.spells_write (by omega), by simp, ?_⟩
  rw [List.nil_append, List.append_nil, ← String.toList_append, String.ofList_toList]

/-- A character that a header may hold. -/
def isHeaderChar (c : Char) : Bool := c = '\t' || (32 ≤ c.toNat && c.toNat < 127)

theorem isAscii_of_isHeaderChar {c : Char} (h : isHeaderChar c = true) : isAscii c = true := by
  simp only [isHeaderChar, Bool.or_eq_true, Bool.and_eq_true, decide_eq_true_eq] at h
  rcases h with rfl | h
  · decide
  · exact decide_eq_true (by omega)

/-- Texts of such characters have one byte for each of them. -/
theorem utf8_header {cs : List Char} (h : ∀ c ∈ cs, isHeaderChar c = true) :
    cs.flatMap String.utf8EncodeChar = cs.map fun c => UInt8.ofNat c.toNat := by
  induction cs with
  | nil => rfl
  | cons c cs ih =>
    have hc : String.utf8EncodeChar c = [UInt8.ofNat c.toNat] :=
      forall_ascii (p := fun c => String.utf8EncodeChar c = [UInt8.ofNat c.toNat]) (by decide)
        (isAscii_of_isHeaderChar (h c (by simp)))
    rw [List.flatMap_cons, hc, ih fun d hd => h d (by simp [hd])]
    rfl

theorem headerText?_eq_some_iff {bytes : List UInt8} {s : String} :
    headerText? bytes = some s ↔ bytes = utf8 s ∧ ∀ c ∈ s.toList, isHeaderChar c = true := by
  have hchar : ∀ n, n < 256 → ((UInt8.ofNat n = 9 || (32 ≤ UInt8.ofNat n && UInt8.ofNat n < 127)) =
      isHeaderChar (Char.ofNat n)) ∧ (Char.ofNat n).toNat = n := by decide +kernel
  have hbyte : ∀ b : UInt8, (b = 9 || (32 ≤ b && b < 127)) = isHeaderChar (Char.ofNat b.toNat) ∧
      (Char.ofNat b.toNat).toNat = b.toNat := by
    intro b
    have h := hchar b.toNat b.toNat_lt
    rwa [UInt8.ofNat_toNat] at h
  rw [headerText?]
  simp only [fun b => (hbyte b).1, Option.ite_none_right_eq_some, Option.some.injEq, List.all_eq_true, utf8]
  constructor
  · rintro ⟨hall, rfl⟩
    have hchars : ∀ c ∈ bytes.map fun b => Char.ofNat b.toNat, isHeaderChar c = true := by
      simpa using hall
    rw [String.toList_ofList]
    refine ⟨?_, hchars⟩
    rw [utf8_header hchars, List.map_map]
    refine (List.map_id' bytes).symm.trans (List.map_congr_left fun b _ => ?_)
    simp [(hbyte b).2]
  · rintro ⟨rfl, hall⟩
    have hback : ∀ c ∈ s.toList, Char.ofNat (UInt8.ofNat c.toNat).toNat = c := fun c hc =>
      forall_ascii (p := fun c => Char.ofNat (UInt8.ofNat c.toNat).toNat = c) (by decide)
        (isAscii_of_isHeaderChar (hall c hc))
    rw [utf8_header hall]
    refine ⟨fun b hb => ?_, ?_⟩
    · obtain ⟨c, hc, rfl⟩ := List.mem_map.1 hb
      rw [hback c hc]
      exact hall c hc
    · have hmap : s.toList.map (fun c => Char.ofNat (UInt8.ofNat c.toNat).toNat) = s.toList :=
        (List.map_congr_left hback).trans (List.map_id _)
      rw [List.map_map]
      exact (congrArg String.ofList hmap).trans String.ofList_toList

theorem behind?_eq_some_iff {mark s rest : String} : behind? mark s = some rest ↔ s = mark ++ rest := by
  rw [behind?, Option.ite_none_right_eq_some, List.isPrefixOf_iff_prefix, ← String.toList_inj,
    String.toList_append, Option.some.injEq]
  constructor
  · rintro ⟨⟨t, ht⟩, rfl⟩
    rw [← ht, ← String.length_toList, List.drop_left, String.toList_ofList]
  · intro h
    rw [h]
    refine ⟨List.prefix_append _ _, ?_⟩
    rw [← String.length_toList, List.drop_left, String.ofList_toList]

/-- Trimming takes white space away from both ends. -/
theorem trimChars_split (s : List Char) :
    ∃ before after, (∀ c ∈ before ++ after, isWhite c = true) ∧ s = before ++ trimChars s ++ after := by
  refine ⟨s.takeWhile isWhite, ((s.dropWhile isWhite).reverse.takeWhile isWhite).reverse, ?_, ?_⟩
  · intro c hc
    rcases List.mem_append.1 hc with hc | hc
    · exact List.mem_takeWhile_imp hc
    · exact List.mem_takeWhile_imp (List.mem_reverse.1 hc)
  · rw [trimChars, trimLeft, trimRight, dropRightWhile, List.append_assoc, ← List.reverse_append,
      List.takeWhile_append_dropWhile, List.reverse_reverse, List.takeWhile_append_dropWhile]

theorem trimChars_append {before s after : List Char} (hwhite : ∀ c ∈ before ++ after, isWhite c = true)
    (hs : ∀ c ∈ s, isWhite c = false) : trimChars (before ++ s ++ after) = s := by
  have hright : trimRight (s ++ after) = s := by
    rw [trimRight, dropRightWhile, List.reverse_append, dropWhile_run, List.reverse_reverse]
    · exact fun c hc => hwhite c (by simp [List.mem_reverse.1 hc])
    · exact fun c hc => hs c (List.mem_reverse.1 (List.mem_of_mem_head? hc))
  rw [trimChars, trimLeft, List.append_assoc]
  cases s with
  | nil =>
    rw [List.nil_append, ← List.append_nil (before ++ after), dropWhile_run hwhite (by simp)]
    rfl
  | cons c s =>
    rw [List.dropWhile_append_of_pos fun c hc => hwhite c (by simp [hc]), List.cons_append,
      List.dropWhile_cons_of_neg (by simp [hs c (by simp)])]
    exact hright

/-- White space that a header may hold is a space or a tab. -/
theorem blank_iff {c : Char} : (isHeaderChar c = true ∧ isWhite c = true) ↔ c = ' ' ∨ c = '\t' := by
  constructor
  · rintro ⟨hheader, hwhite⟩
    exact forall_ascii (p := fun c => isHeaderChar c = true → isWhite c = true → c = ' ' ∨ c = '\t')
      (by decide) (isAscii_of_isHeaderChar hheader) hheader hwhite
  · rintro (rfl | rfl) <;> decide

theorem bearerSession_steps {header : Option (List UInt8)} {id : SessionId} :
    bearerSession header = .ok id ↔ ∃ bytes value token, header = some bytes ∧
      headerText? bytes = some value ∧ behind? "Bearer " value = some token ∧
        SessionId.read? (trim token) = some id := by
  rw [bearerSession]
  cases header with
  | none => simp
  | some bytes =>
    cases htext : headerText? bytes with
    | none => simp [htext]
    | some value =>
      cases hbehind : behind? "Bearer " value with
      | none => simp [htext, hbehind]
      | some token => cases hread : SessionId.read? (trim token) <;> simp [htext, hbehind, hread]

/-- A header is taken for the id that it names. -/
theorem bearerSession_eq_ok_iff {header : Option (List UInt8)} {id : SessionId} :
    bearerSession header = .ok id ↔ Names header id := by
  rw [bearerSession_steps]
  constructor
  · rintro ⟨bytes, value, token, rfl, htext, hbehind, hread⟩
    obtain ⟨rfl, hchars⟩ := headerText?_eq_some_iff.1 htext
    obtain rfl := behind?_eq_some_iff.1 hbehind
    have hspells := SessionId.read?_eq_some_iff.1 hread
    obtain ⟨before, after, hwhite, htoken⟩ := trimChars_split token.toList
    rw [trim, String.toList_ofList] at hspells
    refine ⟨before, _, after, hspells, fun c hc => blank_iff.1 ⟨hchars c ?_, hwhite c hc⟩, ?_⟩
    · rw [String.toList_append, htoken]
      simp only [List.mem_append] at hc ⊢
      tauto
    · rw [← htoken, ← String.toList_append, String.ofList_toList]
  · rintro ⟨before, spelling, after, hspells, hblank, rfl⟩
    have hvisible := hspells.visible
    refine ⟨_, _, String.ofList (before ++ spelling ++ after), rfl, headerText?_eq_some_iff.2 ⟨rfl, ?_⟩,
      behind?_eq_some_iff.2 (by rw [← String.toList_inj]; simp), ?_⟩
    · intro c hc
      have hword : ("Bearer ".toList.all isHeaderChar) = true := by decide
      simp only [String.toList_ofList, List.mem_append] at hc
      rcases hc with hc | (hc | hc) | hc
      · exact List.all_eq_true.1 hword c hc
      · exact (blank_iff.2 (hblank c (by simp [hc]))).1
      · have hc := hvisible c hc
        simp [isHeaderChar]
        omega
      · exact (blank_iff.2 (hblank c (by simp [hc]))).1
    · have hwhite : ∀ c ∈ before ++ after, isWhite c = true := fun c hc => (blank_iff.2 (hblank c hc)).2
      have hsolid : ∀ c ∈ spelling, isWhite c = false := by
        intro c hc
        have hascii : isAscii c = true := decide_eq_true (by have := (hvisible c hc).2; omega)
        exact forall_ascii (p := fun c => 32 < c.toNat → isWhite c = false) (by decide) hascii (hvisible c hc).1
      rw [trim, String.toList_ofList, trimChars_append hwhite hsolid, SessionId.read?_eq_some_iff,
        String.toList_ofList]
      exact hspells

end SignatureDesk
