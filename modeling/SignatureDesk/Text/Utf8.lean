/-
UTF-8. Every text has its bytes; the bytes of no text are read all the same, a
longest run of bytes that could begin a character and does not go on as one
counting as a single broken place.
-/
namespace SignatureDesk.Text

/-- The bytes of a text. -/
def utf8 (s : String) : List UInt8 := s.toList.flatMap String.utf8EncodeChar

namespace Utf8

/-- What a first byte promises: its own bits, how many bytes follow, and the
bounds of the second byte. -/
structure Lead where
  bits : Nat
  more : Nat
  low : UInt8
  high : UInt8

def lead? (b : UInt8) : Option Lead :=
  if b < 0x80 then some ⟨b.toNat, 0, 0x80, 0xBF⟩
  else if b < 0xC2 then none
  else if b < 0xE0 then some ⟨b.toNat - 0xC0, 1, 0x80, 0xBF⟩
  else if b < 0xF0 then
    some ⟨b.toNat - 0xE0, 2, if b = 0xE0 then 0xA0 else 0x80, if b = 0xED then 0x9F else 0xBF⟩
  else if b < 0xF5 then
    some ⟨b.toNat - 0xF0, 3, if b = 0xF0 then 0x90 else 0x80, if b = 0xF4 then 0x8F else 0xBF⟩
  else none

/-- Reads the bytes after the first, the next of them within bounds and the
others anywhere in the continuation range. -/
def follow : Nat → UInt8 → UInt8 → Nat → List UInt8 → Option Nat × List UInt8
  | 0, _, _, value, rest => (some value, rest)
  | _ + 1, _, _, _, [] => (none, [])
  | n + 1, low, high, value, b :: rest =>
    if low ≤ b ∧ b ≤ high then follow n 0x80 0xBF (value * 64 + (b.toNat - 0x80)) rest
    else (none, b :: rest)

theorem length_follow (n : Nat) (low high : UInt8) (value : Nat) (bytes : List UInt8) :
    (follow n low high value bytes).2.length ≤ bytes.length := by
  induction n generalizing low high value bytes with
  | zero => simp [follow]
  | succ n ih =>
    cases bytes with
    | nil => simp [follow]
    | cons b rest =>
      rw [follow]
      split
      · exact Nat.le_succ_of_le (ih _ _ _ _)
      · simp

/-- The characters of some bytes, none standing for a broken place. -/
def scan : List UInt8 → List (Option Char)
  | [] => []
  | b :: rest =>
    match lead? b with
    | none => none :: scan rest
    | some l =>
      let r := follow l.more l.low l.high l.bits rest
      r.1.map Char.ofNat :: scan r.2
termination_by bytes => bytes.length
decreasing_by
  · simp
  · exact Nat.lt_succ_of_le (length_follow _ _ _ _ _)

end Utf8

/-- The text that has these bytes, if one does. -/
def ofUtf8? (bytes : List UInt8) : Option String :=
  ((Utf8.scan bytes).mapM id).map String.ofList

/-- The text of some bytes, with the replacement character at broken places. -/
def ofUtf8Lossy (bytes : List UInt8) : String :=
  String.ofList ((Utf8.scan bytes).map (·.getD '\ufffd'))

end SignatureDesk.Text
