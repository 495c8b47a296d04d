/-
Members of objects by key. A member that is put in its place is found under its
key, and under no other key has anything changed, whatever the order of the
members is.
-/
import SignatureDesk.Json.Basic

namespace SignatureDesk.Json

theorem lookup_cons_key {α : Type} (m : String × α) (ms : List (String × α)) (k : String) :
    (m :: ms).lookup k = if k = m.1 then some m.2 else ms.lookup k := by
  rw [List.lookup_cons]
  by_cases hk : k = m.1
  · simp [hk]
  · simp [hk, beq_false_of_ne hk]

theorem lookup_insertMember (key k : String) (v : Json) (ms : Members) :
    (insertMember key v ms).lookup k = if k = key then some v else ms.lookup k := by
  induction ms with
  | nil => rw [insertMember, lookup_cons_key]
  | cons m rest ih =>
    obtain ⟨k', v'⟩ := m
    rw [insertMember]
    split
    · rw [lookup_cons_key]
    next heq =>
      obtain rfl := Std.compare_eq_iff_eq.1 heq
      simp only [lookup_cons_key]
      split <;> rfl
    next hgt =>
      have hne : key ≠ k' := by
        rintro rfl
        simp at hgt
      simp only [lookup_cons_key, ih]
      by_cases hk : k = key
      · subst hk
        simp [hne]
      · simp [hk]

theorem canonicalMembers_append (ms ns : Members) :
    canonicalMembers (ms ++ ns) = canonicalMembers ms ++ canonicalMembers ns := by
  induction ms with
  | nil => rfl
  | cons m ms ih =>
    rw [List.cons_append, canonicalMembers, canonicalMembers, ih]
    rfl

/-- A member behind all others is put in its place last. -/
theorem canonical_append_member (ms : Members) (key : String) (v : Json) :
    (obj (ms ++ [(key, v)])).canonical =
      obj (insertMember key v.canonical (sortMembers (canonicalMembers ms))) := by
  simp [canonical, canonicalMembers_append, canonicalMembers, sortMembers]

end SignatureDesk.Json
