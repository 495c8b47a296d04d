/-
Values in canonical form. The members of an object are sorted by key, each key
standing once with the last value it was given (`lookup_sortMembers`); a value
in that form is left as it is (`canonical_canonical`), and no place of it is
unread unless one was before.
-/
import Mathlib.Data.List.Induction
import Mathlib.Data.List.Perm.Basic
import SignatureDesk.Proofs.Json.Members

namespace SignatureDesk.Json

/-! ## Members sorted by key -/

/-- The keys ascend, so that none stands twice. -/
def Ascending (ms : Members) : Prop := ms.Pairwise fun m n => compare m.1 n.1 = .lt

-- Members are put in place one by one from the front, so inductions on what is sorted go from the end.
theorem sortMembers_append_member (ms : Members) (m : String × Json) :
    sortMembers (ms ++ [m]) = insertMember m.1 m.2 (sortMembers ms) := by
  simp [sortMembers]

theorem mem_insertMember {key : String} {v : Json} {ms : Members} {m : String × Json}
    (h : m ∈ insertMember key v ms) : m = (key, v) ∨ m ∈ ms := by
  induction ms with
  | nil => simpa [insertMember] using h
  | cons n rest ih =>
    rw [insertMember] at h
    split at h
    · simpa using h
    · simp only [List.mem_cons] at h ⊢
      tauto
    · simp only [List.mem_cons] at h ⊢
      rcases h with h | h
      · exact .inr (.inl h)
      · have := ih h
        tauto

theorem mem_of_mem_sortMembers {ms : Members} {m : String × Json} (h : m ∈ sortMembers ms) : m ∈ ms := by
  induction ms using List.reverseRecOn with
  | nil => simp [sortMembers] at h
  | append_singleton ms n ih =>
    rw [sortMembers_append_member] at h
    rcases mem_insertMember h with rfl | h
    · simp
    · exact List.mem_append_left _ (ih h)

theorem Ascending.insertMember {ms : Members} (h : Ascending ms) (key : String) (v : Json) :
    Ascending (insertMember key v ms) := by
  induction ms with
  | nil => simp [Json.insertMember, Ascending]
  | cons n rest ih =>
    obtain ⟨hfirst, hrest⟩ := List.pairwise_cons.1 h
    rw [Json.insertMember]
    split
    next hlt =>
      refine List.pairwise_cons.2 ⟨fun m hm => ?_, h⟩
      rcases List.mem_cons.1 hm with rfl | hm
      · exact hlt
      · exact Std.TransCmp.lt_trans hlt (hfirst m hm)
    next heq =>
      obtain rfl := Std.compare_eq_iff_eq.1 heq
      exact List.pairwise_cons.2 ⟨hfirst, hrest⟩
    next hgt =>
      refine List.pairwise_cons.2 ⟨fun m hm => ?_, ih hrest⟩
      rcases mem_insertMember hm with rfl | hm
      · exact Std.OrientedCmp.lt_of_gt hgt
      · exact hfirst m hm

theorem ascending_sortMembers (ms : Members) : Ascending (sortMembers ms) := by
  induction ms using List.reverseRecOn with
  | nil => exact List.Pairwise.nil
  | append_singleton ms m ih =>
    rw [sortMembers_append_member]
    exact ih.insertMember m.1 m.2

theorem Ascending.nodup {ms : Members} (h : Ascending ms) : (ms.map Prod.fst).Nodup := by
  rw [List.Nodup, List.pairwise_map]
  refine h.imp ?_
  intro m n hlt heq
  simp [heq] at hlt

/-- The last value that a key was given stands under it. -/
theorem lookup_sortMembers (ms : Members) (k : String) : (sortMembers ms).lookup k = ms.reverse.lookup k := by
  induction ms using List.reverseRecOn with
  | nil => rfl
  | append_singleton ms m ih =>
    rw [sortMembers_append_member, lookup_insertMember, ih, List.reverse_append, List.reverse_singleton,
      List.singleton_append, lookup_cons_key]

theorem insertMember_perm {key : String} {v : Json} {ms : Members} (h : key ∉ ms.map Prod.fst) :
    (insertMember key v ms).Perm ((key, v) :: ms) := by
  induction ms with
  | nil => exact List.Perm.refl _
  | cons n rest ih =>
    simp only [List.map_cons, List.mem_cons, not_or] at h
    rw [insertMember]
    split
    · exact List.Perm.refl _
    next heq => exact absurd (Std.compare_eq_iff_eq.1 heq) h.1
    · exact ((ih h.2).cons n).trans (List.Perm.swap _ _ _)

/-- Members of different keys are only put in order. -/
theorem sortMembers_perm {ms : Members} (h : (ms.map Prod.fst).Nodup) : (sortMembers ms).Perm ms := by
  induction ms using List.reverseRecOn with
  | nil => exact List.Perm.refl _
  | append_singleton ms m ih =>
    rw [List.map_append, List.nodup_append] at h
    obtain ⟨hms, -, hnew⟩ := h
    have hkey : m.1 ∉ (sortMembers ms).map Prod.fst := by
      intro hm
      obtain ⟨n, hn, hkey⟩ := List.mem_map.1 hm
      exact hnew n.1 (List.mem_map_of_mem (mem_of_mem_sortMembers hn)) m.1 (by simp) hkey
    rw [sortMembers_append_member]
    exact (insertMember_perm hkey).trans (((ih hms).cons m).trans (List.perm_append_singleton m ms).symm)

theorem Ascending.eq_of_perm {ms ns : Members} (hms : Ascending ms) (hns : Ascending ns) (h : ms.Perm ns) :
    ms = ns := by
  refine h.eq_of_pairwise ?_ hms hns
  intro m n _ _ hlt hgt
  rw [Std.OrientedCmp.gt_of_lt hlt] at hgt
  cases hgt

/-- Of members of different keys each is found again once they are sorted. -/
theorem lookup_sortMembers_of_nodup {ms : Members} (h : (ms.map Prod.fst).Nodup) (k : String) :
    (sortMembers ms).lookup k = ms.lookup k := by
  induction ms using List.reverseRecOn with
  | nil => rfl
  | append_singleton ms m ih =>
    rw [List.map_append, List.nodup_append] at h
    obtain ⟨hms, -, hnew⟩ := h
    rw [sortMembers_append_member, lookup_insertMember, ih hms, List.lookup_append]
    by_cases hk : k = m.1
    · have hnone : ms.lookup k = none := by
        refine List.lookup_eq_none_iff.2 fun n hn => ?_
        have hne := hnew n.1 (List.mem_map_of_mem hn) m.1 (by simp)
        simpa [hk] using hne.symm
      rw [if_pos hk, hnone, lookup_cons_key, if_pos hk, Option.none_or]
    · rw [if_neg hk, lookup_cons_key, if_neg hk, List.lookup_nil, Option.or_none]

/-- The order that members of different keys stand in is lost when they are sorted. -/
theorem sortMembers_eq_of_perm {ms ns : Members} (hns : Ascending ns) (h : ms.Perm ns) : sortMembers ms = ns := by
  have hnodup : (ms.map Prod.fst).Nodup := (h.map Prod.fst).nodup_iff.2 hns.nodup
  exact (ascending_sortMembers ms).eq_of_perm hns ((sortMembers_perm hnodup).trans h)

/-! ## Canonical values -/

theorem canonicalItems_eq_map (items : List Json) : canonicalItems items = items.map canonical := by
  induction items with
  | nil => rfl
  | cons v rest ih => rw [canonicalItems, ih, List.map_cons]

theorem canonicalMembers_eq_map (ms : Members) : canonicalMembers ms = ms.map fun m => (m.1, m.2.canonical) := by
  induction ms with
  | nil => rfl
  | cons m rest ih => rw [canonicalMembers, ih, List.map_cons]

theorem map_fst_canonicalMembers (ms : Members) : (canonicalMembers ms).map Prod.fst = ms.map Prod.fst := by
  simp [canonicalMembers_eq_map]

theorem lookup_canonicalMembers (ms : Members) (k : String) :
    (canonicalMembers ms).lookup k = (ms.lookup k).map canonical := by
  induction ms with
  | nil => rfl
  | cons m rest ih =>
    rw [canonicalMembers, lookup_cons_key, lookup_cons_key, ih]
    split <;> rfl

theorem canonicalMembers_insertMember (key : String) (v : Json) (ms : Members) :
    canonicalMembers (insertMember key v ms) = insertMember key v.canonical (canonicalMembers ms) := by
  induction ms with
  | nil => rfl
  | cons m rest ih =>
    rw [insertMember, canonicalMembers, insertMember]
    cases compare key m.1 with
    | lt => rfl
    | eq => rfl
    | gt => exact congrArg _ ih

theorem canonicalMembers_sortMembers (ms : Members) :
    canonicalMembers (sortMembers ms) = sortMembers (canonicalMembers ms) := by
  induction ms using List.reverseRecOn with
  | nil => rfl
  | append_singleton ms m ih =>
    rw [sortMembers_append_member, canonicalMembers_insertMember, ih, canonicalMembers_append]
    exact (sortMembers_append_member _ (m.1, m.2.canonical)).symm

mutual

/-- A canonical value is left as it is. -/
theorem canonical_canonical : (v : Json) → v.canonical.canonical = v.canonical
  | .arr items => by simp only [canonical, canonicalItems_canonicalItems items]
  | .obj members => by
    have hsorted := sortMembers_eq_of_perm (ascending_sortMembers (canonicalMembers members)) (List.Perm.refl _)
    simp only [canonical, canonicalMembers_sortMembers, canonicalMembers_canonicalMembers members, hsorted]
  | .null | .bool _ | .num _ | .str _ | .unread _ => rfl

theorem canonicalItems_canonicalItems :
    (items : List Json) → canonicalItems (canonicalItems items) = canonicalItems items
  | [] => rfl
  | v :: rest => by simp only [canonicalItems, canonical_canonical v, canonicalItems_canonicalItems rest]

theorem canonicalMembers_canonicalMembers :
    (ms : Members) → canonicalMembers (canonicalMembers ms) = canonicalMembers ms
  | [] => rfl
  | (k, v) :: rest => by simp only [canonicalMembers, canonical_canonical v, canonicalMembers_canonicalMembers rest]

end

/-! ## Values read in full -/

theorem intactItems_iff {items : List Json} : intactItems items = true ↔ ∀ v ∈ items, v.intact = true := by
  induction items with
  | nil => simp [intactItems]
  | cons v rest ih => simp [intactItems, ih]

theorem intactMembers_iff {ms : Members} : intactMembers ms = true ↔ ∀ m ∈ ms, m.2.intact = true := by
  induction ms with
  | nil => simp [intactMembers]
  | cons m rest ih => simp [intactMembers, ih]

theorem intactMembers_append {ms ns : Members} :
    intactMembers (ms ++ ns) = true ↔ intactMembers ms = true ∧ intactMembers ns = true := by
  simp only [intactMembers_iff, List.mem_append, or_imp, forall_and]

mutual

theorem intact_canonical : (v : Json) → v.intact = true → v.canonical.intact = true
  | .arr items, h => intactItems_canonicalItems items h
  | .obj members, h => by
    have hmembers := intactMembers_iff.1 (intactMembers_canonicalMembers members h)
    rw [canonical, intact]
    exact intactMembers_iff.2 fun m hm => hmembers m (mem_of_mem_sortMembers hm)
  | .null, h | .bool _, h | .num _, h | .str _, h | .unread _, h => h

theorem intactItems_canonicalItems :
    (items : List Json) → intactItems items = true → intactItems (canonicalItems items) = true
  | [], h => h
  | v :: rest, h => by
    rw [intactItems, Bool.and_eq_true] at h
    rw [canonicalItems, intactItems, Bool.and_eq_true]
    exact ⟨intact_canonical v h.1, intactItems_canonicalItems rest h.2⟩

theorem intactMembers_canonicalMembers :
    (ms : Members) → intactMembers ms = true → intactMembers (canonicalMembers ms) = true
  | [], h => h
  | (k, v) :: rest, h => by
    rw [intactMembers, Bool.and_eq_true] at h
    rw [canonicalMembers, intactMembers, Bool.and_eq_true]
    exact ⟨intact_canonical v h.1, intactMembers_canonicalMembers rest h.2⟩

end

mutual

theorem delimited_of_intact : (v : Json) → v.intact = true → v.delimited = true
  | .arr items, h => delimitedItems_of_intact items h
  | .obj members, h => delimitedMembers_of_intact members h
  | .null, _ | .bool _, _ | .num _, _ | .str _, _ => rfl

theorem delimitedItems_of_intact : (vs : List Json) → intactItems vs = true → delimitedItems vs = true
  | [], _ => rfl
  | v :: vs, h => by
    simp only [intactItems, delimitedItems, Bool.and_eq_true] at h ⊢
    exact ⟨delimited_of_intact v h.1, delimitedItems_of_intact vs h.2⟩

theorem delimitedMembers_of_intact : (ms : Members) → intactMembers ms = true → delimitedMembers ms = true
  | [], _ => rfl
  | (k, v) :: ms, h => by
    simp only [intactMembers, delimitedMembers, Bool.and_eq_true] at h ⊢
    exact ⟨delimited_of_intact v h.1, delimitedMembers_of_intact ms h.2⟩

end

end SignatureDesk.Json
