/-
The bytes of a text are read as that text. A character is written in as many bytes
as it needs, so its second byte is within the bounds that the first one sets, and
reading goes on right behind its last.
-/
import SignatureDesk.Text.Utf8

namespace SignatureDesk.Text

namespace Utf8

deriving instance DecidableEq for Lead

/-! ## First bytes -/

theorem lead?_one : ∀ a, a < 0x80 → lead? (UInt8.ofNat a) = some ⟨a, 0, 0x80, 0xBF⟩ := by
  decide

theorem lead?_two : ∀ a, a < 32 → 2 ≤ a → lead? (UInt8.ofNat (a + 0xC0)) = some ⟨a, 1, 0x80, 0xBF⟩ := by
  decide

theorem lead?_three : ∀ a, a < 16 → lead? (UInt8.ofNat (a + 0xE0)) =
    some ⟨a, 2, if a = 0 then 0xA0 else 0x80, if a = 13 then 0x9F else 0xBF⟩ := by
  decide

theorem lead?_four : ∀ a, a < 5 → lead? (UInt8.ofNat (a + 0xF0)) =
    some ⟨a, 3, if a = 0 then 0x90 else 0x80, if a = 4 then 0x8F else 0xBF⟩ := by
  decide

/-! ## The bytes behind them -/

section

variable {d : Nat} (hd : d < 64)

include hd

/-- A byte within bounds adds its six bits. -/
theorem follow_bounded {low high : UInt8} (hlow : low.toNat ≤ d + 0x80) (hhigh : d + 0x80 ≤ high.toNat)
    (n value : Nat) (rest : List UInt8) :
    follow (n + 1) low high value (UInt8.ofNat (d + 0x80) :: rest) =
      follow n 0x80 0xBF (value * 64 + d) rest := by
  have hbyte : (UInt8.ofNat (d + 0x80)).toNat = d + 0x80 := by
    rw [UInt8.toNat_ofNat']
    omega
  have hin : low ≤ UInt8.ofNat (d + 0x80) ∧ UInt8.ofNat (d + 0x80) ≤ high := by
    rw [UInt8.le_iff_toNat_le, UInt8.le_iff_toNat_le, hbyte]
    exact ⟨hlow, hhigh⟩
  rw [follow, if_pos hin, hbyte, Nat.add_sub_cancel]

theorem follow_any (n value : Nat) (rest : List UInt8) :
    follow (n + 1) 0x80 0xBF value (UInt8.ofNat (d + 0x80) :: rest) =
      follow n 0x80 0xBF (value * 64 + d) rest := by
  have hlow : (0x80 : UInt8).toNat ≤ d + 0x80 := Nat.le_add_left _ _
  have hhigh : d + 0x80 ≤ (0xBF : UInt8).toNat := Nat.add_le_add_right (Nat.le_of_lt_succ hd) 0x80
  exact follow_bounded hd hlow hhigh n value rest

end

theorem scan_lead {b : UInt8} {l : Lead} (h : lead? b = some l) {bytes rest : List UInt8} {value : Nat}
    (hfollow : follow l.more l.low l.high l.bits bytes = (some value, rest)) :
    scan (b :: bytes) = some (Char.ofNat value) :: scan rest := by
  rw [scan, h]
  simp only [hfollow, Option.map_some]

/-! ## Characters -/

section

variable {a b d e : Nat} (rest : List UInt8)

theorem scan_two (ha : a < 32) (hshort : 2 ≤ a) (hb : b < 64) :
    scan (UInt8.ofNat (a + 0xC0) :: UInt8.ofNat (b + 0x80) :: rest) =
      some (Char.ofNat (a * 64 + b)) :: scan rest := by
  refine scan_lead (lead?_two a ha hshort) ?_
  rw [follow_any hb, follow]

/-- Three bytes of no character that fits in two, and of no surrogate. -/
theorem scan_three (ha : a < 16) (hb : b < 64) (hd : d < 64) (hshort : a = 0 → 32 ≤ b)
    (hsurrogate : a = 13 → b < 32) :
    scan (UInt8.ofNat (a + 0xE0) :: UInt8.ofNat (b + 0x80) :: UInt8.ofNat (d + 0x80) :: rest) =
      some (Char.ofNat ((a * 64 + b) * 64 + d)) :: scan rest := by
  refine scan_lead (lead?_three a ha) ?_
  have hlow : (if a = 0 then (0xA0 : UInt8) else 0x80).toNat ≤ b + 0x80 := by
    split <;> simp
    omega
  have hhigh : b + 0x80 ≤ (if a = 13 then (0x9F : UInt8) else 0xBF).toNat := by split <;> simp <;> omega
  rw [follow_bounded hb hlow hhigh, follow_any hd, follow]

/-- Four bytes of no character that fits in three, and of none past the last. -/
theorem scan_four (ha : a < 5) (hb : b < 64) (hd : d < 64) (he : e < 64) (hshort : a = 0 → 16 ≤ b)
    (hlast : a = 4 → b < 16) :
    scan (UInt8.ofNat (a + 0xF0) :: UInt8.ofNat (b + 0x80) :: UInt8.ofNat (d + 0x80) ::
        UInt8.ofNat (e + 0x80) :: rest) =
      some (Char.ofNat (((a * 64 + b) * 64 + d) * 64 + e)) :: scan rest := by
  refine scan_lead (lead?_four a ha) ?_
  have hlow : (if a = 0 then (0x90 : UInt8) else 0x80).toNat ≤ b + 0x80 := by
    split <;> simp
    omega
  have hhigh : b + 0x80 ≤ (if a = 4 then (0x8F : UInt8) else 0xBF).toNat := by split <;> simp <;> omega
  rw [follow_bounded hb hlow hhigh, follow_any hd, follow_any he, follow]

end

/-- The bytes of a character are read as that character, and no further. -/
theorem scan_utf8EncodeChar (c : Char) (rest : List UInt8) :
    scan (String.utf8EncodeChar c ++ rest) = some c :: scan rest := by
  have hvalid : c.toNat < 0xD800 ∨ 0xDFFF < c.toNat ∧ c.toNat < 0x110000 := c.valid
  suffices h : scan (String.utf8EncodeChar c ++ rest) = some (Char.ofNat c.toNat) :: scan rest by
    rwa [Char.ofNat_toNat] at h
  unfold String.utf8EncodeChar
  rw [show c.val.toNat = c.toNat from rfl]
  generalize c.toNat = v at hvalid
  dsimp only
  split
  next hone => exact scan_lead (lead?_one v (by omega)) rfl
  next hone =>
  split
  next htwo =>
    have h := scan_two (a := v / 64 % 32) (b := v % 64) rest (by omega) (by omega) (by omega)
    rwa [show v / 64 % 32 * 64 + v % 64 = v by omega] at h
  next htwo =>
  split
  next hthree =>
    have h := scan_three (a := v / 4096 % 16) (b := v / 64 % 64) (d := v % 64) rest
      (by omega) (by omega) (by omega) (by omega) (by omega)
    rwa [show (v / 4096 % 16 * 64 + v / 64 % 64) * 64 + v % 64 = v by omega] at h
  next hthree =>
    have h := scan_four (a := v / 262144 % 8) (b := v / 4096 % 64) (d := v / 64 % 64) (e := v % 64) rest
      (by omega) (by omega) (by omega) (by omega) (by omega) (by omega)
    rwa [show ((v / 262144 % 8 * 64 + v / 4096 % 64) * 64 + v / 64 % 64) * 64 + v % 64 = v by omega] at h

theorem scan_flatMap (s : List Char) : scan (s.flatMap String.utf8EncodeChar) = s.map some := by
  induction s with
  | nil => rw [List.flatMap_nil, scan, List.map_nil]
  | cons c s ih => rw [List.flatMap_cons, scan_utf8EncodeChar, ih, List.map_cons]

end Utf8

/-! ## Texts -/

theorem ofUtf8Lossy_flatMap (s : List Char) :
    ofUtf8Lossy (s.flatMap String.utf8EncodeChar) = String.ofList s := by
  simp [ofUtf8Lossy, Utf8.scan_flatMap, Function.comp_def]

theorem flatMap_utf8EncodeChar_inj {s t : List Char}
    (h : s.flatMap String.utf8EncodeChar = t.flatMap String.utf8EncodeChar) : s = t := by
  have hread := congrArg ofUtf8Lossy h
  rwa [ofUtf8Lossy_flatMap, ofUtf8Lossy_flatMap, String.ofList_inj] at hread

end SignatureDesk.Text
