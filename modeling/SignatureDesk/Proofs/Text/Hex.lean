/-
Bytes written as pairs of hexadecimal digits are read back, so no two lists of bytes are
written alike.
-/
import Mathlib.Logic.Function.Basic
import SignatureDesk.Text.Hex

namespace SignatureDesk.Text

theorem hexValue?_digitChar : ∀ n, n < 16 → hexValue? (Nat.digitChar n) = some n := by
  decide

theorem exists_of_mem_hex {bytes : List UInt8} {c : Char} (h : c ∈ hex bytes) : ∃ n, n < 16 ∧ c = Nat.digitChar n := by
  obtain ⟨b, -, hc⟩ := List.mem_flatMap.1 h
  have hbyte := b.toNat_lt
  rw [hexPair, List.mem_cons, List.mem_singleton] at hc
  rcases hc with rfl | rfl
  · exact ⟨b.toNat / 16, by omega, rfl⟩
  · exact ⟨b.toNat % 16, by omega, rfl⟩

theorem ofHex?_hex (bytes : List UInt8) : ofHex? (hex bytes) = some bytes := by
  induction bytes with
  | nil => rfl
  | cons b bytes ih =>
    have hbyte := b.toNat_lt
    have hhigh := hexValue?_digitChar (b.toNat / 16) (by omega)
    have hlow := hexValue?_digitChar (b.toNat % 16) (by omega)
    have hvalue : b.toNat / 16 * 16 + b.toNat % 16 = b.toNat := by omega
    rw [hex, List.flatMap_cons, ← hex, hexPair, List.cons_append, List.singleton_append, ofHex?, hhigh, hlow, ih]
    simp only [Option.bind_eq_bind, Option.bind_some, hvalue, UInt8.ofNat_toNat]

theorem hex_injective : Function.Injective hex := by
  intro bytes bytes' h
  have hread := ofHex?_hex bytes
  rw [h, ofHex?_hex] at hread
  exact (Option.some.inj hread).symm

end SignatureDesk.Text
