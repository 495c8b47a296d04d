/-
Form notation and back. What is written holds no ampersand and no equals sign but
those between the pairs and inside of them, so it falls into the pairs again, and
each key and each value is read as the text that was written, whatever that holds.
-/
import SignatureDesk.Proofs.Text.Scan
import SignatureDesk.Proofs.Text.Utf8
import SignatureDesk.Proofs.Url.Percent

namespace SignatureDesk.Url.Form

open Text

/-! ## What a written text holds -/

theorem isAscii_of_isPlain {c : Char} (h : isPlain c = true) : isAscii c = true := by
  have hle : ∀ d : Char, d.toNat < 128 → c ≤ d → isAscii c = true := fun d hd hc =>
    decide_eq_true (Nat.lt_of_le_of_lt hc hd)
  simp only [isPlain, isAsciiLetter, isAsciiUpper, isAsciiLower, isAsciiDigit, Bool.or_eq_true,
    Bool.and_eq_true, decide_eq_true_eq] at h
  rcases h with (((((⟨-, h⟩ | ⟨-, h⟩) | ⟨-, h⟩) | rfl) | rfl) | rfl) | rfl
  · exact hle 'Z' (by decide) h
  · exact hle 'z' (by decide) h
  · exact hle '9' (by decide) h
  all_goals decide

theorem isPlain_of_hexValue? {c : Char} (h : (hexValue? c).isSome) : isPlain c = true :=
  forall_ascii (p := fun c => (hexValue? c).isSome → isPlain c = true) (by decide) (isAscii_of_hexValue? h) h

/-- A plain character is kept in a query, and has no meaning in a form. -/
theorem of_isPlain {c : Char} (h : isPlain c = true) :
    (isAscii c && keptInQuery c) = true ∧ c ≠ '%' ∧ c ≠ '+' ∧ c ≠ '&' ∧ c ≠ '=' :=
  forall_ascii (p := fun c => isPlain c = true →
    (isAscii c && keptInQuery c) = true ∧ c ≠ '%' ∧ c ≠ '+' ∧ c ≠ '&' ∧ c ≠ '=')
    (by decide) (isAscii_of_isPlain h) h

theorem mem_encode {s : List Char} {c : Char} (h : c ∈ encode s) : c = '+' ∨ c = '%' ∨ isPlain c = true := by
  obtain ⟨d, -, hd⟩ := List.mem_flatMap.1 h
  split at hd
  · exact .inl (List.mem_singleton.1 hd)
  split at hd
  next hp =>
    obtain rfl := List.mem_singleton.1 hd
    exact .inr (.inr hp)
  next =>
    obtain ⟨b, -, hb⟩ := List.mem_flatMap.1 hd
    exact .inr ((mem_percentByte hb).imp_right isPlain_of_hexValue?)

theorem ne_of_mem_encode {s : List Char} {c : Char} (h : c ∈ encode s) : c ≠ '&' ∧ c ≠ '=' := by
  rcases mem_encode h with rfl | rfl | hc
  · decide
  · decide
  · exact (of_isPlain hc).2.2.2

/-- The pairs stand between ampersands. -/
theorem writeChars_eq (pairs : List (String × String)) :
    writeChars pairs = ['&'].intercalate (pairs.map writePair) := by
  induction pairs with
  | nil => rfl
  | cons p rest ih =>
    cases rest with
    | nil => simp [writeChars]
    | cons q rest =>
      change writePair p ++ '&' :: writeChars (q :: rest) = _
      rw [ih]
      simp

theorem mem_writePair {p : String × String} {c : Char} (h : c ∈ writePair p) :
    c = '=' ∨ ∃ s, c ∈ encode s := by
  rcases List.mem_append.1 h with h | h
  · exact .inr ⟨_, h⟩
  · exact (List.mem_cons.1 h).imp_right fun h => ⟨_, h⟩

/-- A written query holds nothing but what is kept in one. -/
theorem kept_of_mem_writeChars {pairs : List (String × String)} {c : Char} (h : c ∈ writeChars pairs) :
    (isAscii c && keptInQuery c) = true := by
  rw [writeChars_eq] at h
  rcases mem_intercalate h with rfl | ⟨_, hp, h⟩
  · decide
  obtain ⟨p, -, rfl⟩ := List.mem_map.1 hp
  rcases mem_writePair h with rfl | ⟨s, h⟩
  · decide
  rcases mem_encode h with rfl | rfl | h
  · decide
  · decide
  · exact (of_isPlain h).1

/-! ## Keys and values -/

/-- What a character of a written text stands for before codes are read. -/
def unplus (c : Char) : Char := if c = '+' then ' ' else c

theorem unplus_of_ne {c : Char} (h : c ≠ '+') : unplus c = c := if_neg h

theorem decode_eq (s : List Char) : decode s = ofUtf8Lossy (percentDecode (s.map unplus)) := rfl

theorem map_unplus_percentBytes (bs : List UInt8) :
    (bs.flatMap percentByte).map unplus = bs.flatMap percentByte := by
  have hfixed : ∀ c ∈ bs.flatMap percentByte, unplus c = id c := by
    intro c hc
    obtain ⟨b, -, hc⟩ := List.mem_flatMap.1 hc
    rcases mem_percentByte hc with rfl | hc
    · rfl
    · exact unplus_of_ne (of_isPlain (isPlain_of_hexValue? hc)).2.2.1
  rw [List.map_congr_left hfixed, List.map_id]

theorem percentDecode_encode (s : List Char) :
    percentDecode ((encode s).map unplus) = s.flatMap String.utf8EncodeChar := by
  induction s with
  | nil => rfl
  | cons c s ih =>
    rw [encode, List.flatMap_cons, ← encode, List.map_append, List.flatMap_cons]
    split
    next hspace =>
      subst hspace
      rw [List.map_singleton, List.singleton_append, show unplus '+' = ' ' from rfl,
        percentDecode_cons_of_ne (by decide), ih]
    next =>
    split
    next hplain =>
      obtain ⟨-, hpercent, hplus, -⟩ := of_isPlain hplain
      rw [List.map_singleton, List.singleton_append, unplus_of_ne hplus, percentDecode_cons_of_ne hpercent, ih]
    next =>
      rw [map_unplus_percentBytes, percentDecode_percentBytes, ih]

theorem decode_encode (s : List Char) : decode (encode s) = String.ofList s := by
  rw [decode_eq, percentDecode_encode, ofUtf8Lossy_flatMap]

/-! ## Pairs -/

theorem readPair_writePair (p : String × String) : readPair (writePair p) = p := by
  have hkey : ∀ c ∈ encode p.1.toList, decide (c ≠ '=') = true := fun c hc =>
    decide_eq_true (ne_of_mem_encode hc).2
  have hstop : ∀ c ∈ ('=' :: encode p.2.toList).head?, decide (c ≠ '=') = false := by simp
  rw [readPair, writePair, takeWhile_run hkey hstop, dropWhile_run hkey hstop, List.drop_one, List.tail_cons,
    decode_encode, decode_encode, String.ofList_toList, String.ofList_toList]

/-- What is written is read as the pairs it was written of. -/
theorem read_write (pairs : List (String × String)) : read (write pairs) = pairs := by
  by_cases hne : pairs = []
  · subst hne
    simp [read, write, writeChars]
  have hsep : ∀ part ∈ pairs.map writePair, '&' ∉ part := by
    intro part hp hc
    obtain ⟨p, -, rfl⟩ := List.mem_map.1 hp
    rcases mem_writePair hc with h | ⟨s, h⟩
    · cases h
    · exact (ne_of_mem_encode h).1 rfl
  have hfull : ∀ part ∈ pairs.map writePair, (!part.isEmpty) = true := by
    intro part hp
    obtain ⟨p, -, rfl⟩ := List.mem_map.1 hp
    simp [writePair]
  rw [read, write, String.toList_ofList, writeChars_eq, List.splitOn_intercalate '&' hsep (by simpa using hne),
    List.filter_eq_self.2 hfull, List.map_map]
  exact List.map_id'' readPair_writePair pairs

end SignatureDesk.Url.Form
