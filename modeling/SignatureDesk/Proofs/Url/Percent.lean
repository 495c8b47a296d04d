/-
Percent encoding. What is encoded decodes to the same bytes as it would have before, since a
percent sign is kept: texts that are encoded alike are those that decode alike. An encoded
text holds nothing but what is kept, so encoding it again changes nothing.
-/
import SignatureDesk.Proofs.Text.Ascii
import SignatureDesk.Url.Form

namespace SignatureDesk.Url

open Text

/-! ## Digits -/

theorem hexValue?_digit : ∀ n, n < 16 → hexValue? (asciiUpperChar (Nat.digitChar n)) = some n := by
  decide

theorem hexValue?_percent : hexValue? '%' = none := by decide

/-- The byte that two digits in front stand for, and what follows them. -/
def twoDigits? : List Char → Option (UInt8 × List Char)
  | a :: b :: rest =>
    match hexValue? a, hexValue? b with
    | some high, some low => some (UInt8.ofNat (high * 16 + low), rest)
    | _, _ => none
  | _ => none

theorem percentDecode_cons_of_ne {c : Char} (h : c ≠ '%') (s : List Char) :
    percentDecode (c :: s) = String.utf8EncodeChar c ++ percentDecode s := by
  match s with
  | [] => simp [percentDecode]
  | [d] => simp [percentDecode]
  | a :: b :: rest => rw [percentDecode, if_neg h]

theorem percentDecode_percent (s : List Char) :
    percentDecode ('%' :: s) =
      match twoDigits? s with
      | some (b, rest) => b :: percentDecode rest
      | none => String.utf8EncodeChar '%' ++ percentDecode s := by
  match s with
  | [] => simp [percentDecode, twoDigits?]
  | [d] => simp [percentDecode, twoDigits?]
  | a :: b :: rest =>
    rw [percentDecode, if_pos rfl, twoDigits?]
    cases hexValue? a <;> cases hexValue? b <;> rfl

theorem percentByte_eq (b : UInt8) :
    percentByte b = ['%', asciiUpperChar (Nat.digitChar (b.toNat / 16)),
      asciiUpperChar (Nat.digitChar (b.toNat % 16))] := rfl

theorem percentDecode_percentByte (b : UInt8) (s : List Char) :
    percentDecode (percentByte b ++ s) = b :: percentDecode s := by
  have hb : b.toNat < 256 := b.toNat_lt
  have hvalue : UInt8.ofNat (b.toNat / 16 * 16 + b.toNat % 16) = b := by
    rw [show b.toNat / 16 * 16 + b.toNat % 16 = b.toNat by omega]
    simp
  rw [percentByte_eq]
  simp only [List.cons_append, List.nil_append]
  rw [percentDecode_percent, twoDigits?, hexValue?_digit _ (by omega), hexValue?_digit _ (by omega)]
  simp only [hvalue]

theorem percentDecode_percentBytes (bs : List UInt8) (s : List Char) :
    percentDecode (bs.flatMap percentByte ++ s) = bs ++ percentDecode s := by
  induction bs with
  | nil => rfl
  | cons b bs ih => rw [List.flatMap_cons, List.append_assoc, percentDecode_percentByte, ih]; rfl

theorem percentDecode_eq_flatMap {s : List Char} (h : ∀ c ∈ s, c ≠ '%') :
    percentDecode s = s.flatMap String.utf8EncodeChar := by
  induction s with
  | nil => rfl
  | cons c s ih =>
    rw [percentDecode_cons_of_ne (h c (by simp)), ih fun d hd => h d (by simp [hd]), List.flatMap_cons]

/-! ## Encoding and decoding -/

/-- A set of characters that holds all that codes are made of. -/
structure KeepsCodes (keep : Char → Bool) : Prop where
  percent : (isAscii '%' && keep '%') = true
  digits : ∀ c, (hexValue? c).isSome → (isAscii c && keep c) = true

section

variable {keep : Char → Bool}

theorem percentEncode_cons_kept {c : Char} (h : (isAscii c && keep c) = true) (s : List Char) :
    percentEncode keep (c :: s) = c :: percentEncode keep s := by
  rw [percentEncode, List.flatMap_cons, if_pos h]
  rfl

theorem percentEncode_cons_other {c : Char} (h : (isAscii c && keep c) = false) (s : List Char) :
    percentEncode keep (c :: s) = (String.utf8EncodeChar c).flatMap percentByte ++ percentEncode keep s := by
  rw [percentEncode, List.flatMap_cons, if_neg (by simp [h])]
  rfl

/-- What is encoded begins as it did, or with a percent sign. -/
theorem percentEncode_cons_cases (keep : Char → Bool) (c : Char) (s : List Char) :
    percentEncode keep (c :: s) = c :: percentEncode keep s ∨
      ∃ rest, percentEncode keep (c :: s) = '%' :: rest := by
  cases h : isAscii c && keep c with
  | true => exact .inl (percentEncode_cons_kept h s)
  | false =>
    rw [percentEncode_cons_other h]
    cases hb : String.utf8EncodeChar c with
    | nil =>
      have hlen := String.length_utf8EncodeChar c
      have hpos := Char.utf8Size_pos c
      simp [hb] at hlen
      omega
    | cons b bs => exact .inr ⟨_, rfl⟩

/-- Digits are kept, so two of them stand in front just where they did. -/
theorem twoDigits?_percentEncode (hkeep : KeepsCodes keep) (s : List Char) :
    twoDigits? (percentEncode keep s) = (twoDigits? s).map fun r => (r.1, percentEncode keep r.2) := by
  have hnone : ∀ c s, hexValue? c = none → twoDigits? (c :: s) = none := by
    intro c s hc
    cases s <;> simp [twoDigits?, hc]
  have hsecond : ∀ a c s, hexValue? c = none → twoDigits? (a :: c :: s) = none := by
    intro a c s hc
    simp [twoDigits?, hc]
  match s with
  | [] => rfl
  | [a] =>
    rcases percentEncode_cons_cases keep a [] with h | ⟨rest, h⟩
    · rw [h]
      rfl
    · rw [h, hnone _ _ hexValue?_percent]
      rfl
  | a :: b :: rest =>
    cases ha : hexValue? a with
    | none =>
      rw [hnone a _ ha]
      rcases percentEncode_cons_cases keep a (b :: rest) with h | ⟨_, h⟩
      · rw [h, hnone a _ ha]
        rfl
      · rw [h, hnone _ _ hexValue?_percent]
        rfl
    | some high =>
      rw [percentEncode_cons_kept (hkeep.digits a (by simp [ha]))]
      cases hb : hexValue? b with
      | none =>
        rw [hsecond a b _ hb]
        rcases percentEncode_cons_cases keep b rest with h | ⟨_, h⟩
        · rw [h, hsecond a b _ hb]
          rfl
        · rw [h, hsecond _ _ _ hexValue?_percent]
          rfl
      | some low =>
        rw [percentEncode_cons_kept (hkeep.digits b (by simp [hb]))]
        simp [twoDigits?, ha, hb]

theorem length_of_twoDigits? {s rest : List Char} {b : UInt8} (h : twoDigits? s = some (b, rest)) :
    rest.length < s.length := by
  match s with
  | [] => cases h
  | [_] => cases h
  | x :: y :: s =>
    rw [twoDigits?] at h
    split at h
    · cases h
      simp only [List.length_cons]
      omega
    · cases h

/-- Encoding does not change what a text decodes to. -/
theorem percentDecode_percentEncode (hkeep : KeepsCodes keep) (s : List Char) :
    percentDecode (percentEncode keep s) = percentDecode s := by
  -- A percent sign takes two digits with it, so the induction is on the length.
  induction hn : s.length using Nat.strongRecOn generalizing s with
  | ind n ih =>
    subst hn
    cases s with
    | nil => rfl
    | cons c s =>
      have hs := ih s.length (by simp) s rfl
      by_cases hc : c = '%'
      · subst hc
        rw [percentEncode_cons_kept hkeep.percent, percentDecode_percent,
          percentDecode_percent, twoDigits?_percentEncode hkeep]
        cases ht : twoDigits? s with
        | none => simp [hs]
        | some r =>
          have hlen : r.2.length < s.length := length_of_twoDigits? ht
          simp [ih r.2.length (by simp; omega) r.2 rfl]
      · cases hk : isAscii c && keep c with
        | true =>
          rw [percentEncode_cons_kept hk, percentDecode_cons_of_ne hc, percentDecode_cons_of_ne hc, hs]
        | false =>
          rw [percentEncode_cons_other hk, percentDecode_percentBytes, percentDecode_cons_of_ne hc, hs]

/-- What is kept as a whole is as it was. -/
theorem percentEncode_eq_self {s : List Char} (h : ∀ c ∈ s, (isAscii c && keep c) = true) :
    percentEncode keep s = s := by
  induction s with
  | nil => rfl
  | cons c s ih =>
    rw [percentEncode_cons_kept (h c (by simp)), ih fun d hd => h d (by simp [hd])]

theorem mem_percentByte {b : UInt8} {c : Char} (h : c ∈ percentByte b) : c = '%' ∨ (hexValue? c).isSome := by
  have hb : b.toNat < 256 := b.toNat_lt
  simp only [percentByte_eq, List.mem_cons, List.not_mem_nil, or_false] at h
  rcases h with rfl | rfl | rfl
  · exact .inl rfl
  · exact .inr (by simp [hexValue?_digit _ (show b.toNat / 16 < 16 by omega)])
  · exact .inr (by simp [hexValue?_digit _ (show b.toNat % 16 < 16 by omega)])

theorem kept_of_mem_percentByte (hkeep : KeepsCodes keep) {b : UInt8} {c : Char}
    (h : c ∈ percentByte b) : (isAscii c && keep c) = true := by
  rcases mem_percentByte h with rfl | h
  · exact hkeep.percent
  · exact hkeep.digits c h

/-- An encoded text holds nothing but what is kept. -/
theorem kept_of_mem_percentEncode (hkeep : KeepsCodes keep) {s : List Char} {c : Char}
    (h : c ∈ percentEncode keep s) : (isAscii c && keep c) = true := by
  obtain ⟨d, -, hd⟩ := List.mem_flatMap.1 h
  split at hd
  next hk =>
    obtain rfl := List.mem_singleton.1 hd
    exact hk
  next =>
    obtain ⟨b, -, hb⟩ := List.mem_flatMap.1 hd
    exact kept_of_mem_percentByte hkeep hb

end

/-! ## What is kept in each part -/

theorem isAscii_of_hexValue? {c : Char} (h : (hexValue? c).isSome) : isAscii c = true := by
  rw [hexValue?] at h
  simp only [isAscii, decide_eq_true_eq]
  split at h
  next hc => exact Nat.lt_of_le_of_lt hc.2 (by decide)
  split at h
  next hc => exact Nat.lt_of_le_of_lt hc.2 (by decide)
  split at h
  next hc => exact Nat.lt_of_le_of_lt hc.2 (by decide)
  · cases h

theorem keepsCodes_path : KeepsCodes keptInPath where
  percent := by decide
  digits c h := forall_ascii (p := fun c => (hexValue? c).isSome → (isAscii c && keptInPath c) = true)
    (by decide) (isAscii_of_hexValue? h) h

theorem kept_in_query {c : Char} (h : (isAscii c && keptInQuery c) = true) :
    32 < c.toNat ∧ c ≠ '#' := by
  have hc : isAscii c = true := by simp at h; exact h.1
  exact forall_ascii (p := fun c => (isAscii c && keptInQuery c) = true → 32 < c.toNat ∧ c ≠ '#')
    (by decide) hc h

end SignatureDesk.Url
