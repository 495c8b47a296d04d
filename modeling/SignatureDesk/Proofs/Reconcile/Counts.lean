/-
Numbers under names. Counting a name once more keeps the names in order and changes the number
of no other (`lookup_more`), so of names that are counted one by one each has the number of
times it was among them (`Tallies.foldl`). The report counts the records of a listing in one loop, and
a listing that was fetched the classes of its rows in another; both come to the same (`counts_eq`).
-/
import Mathlib.Data.List.Perm.Basic
import SignatureDesk.Proofs.Json.Members
import SignatureDesk.Reconcile.Listing

namespace SignatureDesk

namespace Counts

/-- The names ascend, so that none stands twice. -/
def Ascending (counts : Counts) : Prop := counts.Pairwise fun a b => compare a.1 b.1 = .lt

/-- The numbers are those of how often each name is in a list; a name that is not has none. -/
structure Tallies (counts : Counts) (names : List String) : Prop where
  ascending : counts.Ascending
  found : ∀ name, counts.lookup name = if name ∈ names then some (names.count name) else none

variable {counts : Counts} {names : List String}

theorem fst_of_mem_more {name : String} {entry : String × Nat} (h : entry ∈ counts.more name) :
    entry.1 = name ∨ ∃ other ∈ counts, other.1 = entry.1 := by
  induction counts with
  | nil =>
    rw [more, List.mem_singleton] at h
    exact .inl (congrArg Prod.fst h)
  | cons other rest ih =>
    rw [more] at h
    split at h
    · rcases List.mem_cons.1 h with rfl | h
      · exact .inl rfl
      · exact .inr ⟨entry, h, rfl⟩
    · rcases List.mem_cons.1 h with rfl | h
      · exact .inr ⟨other, List.mem_cons_self, rfl⟩
      · exact .inr ⟨entry, List.mem_cons_of_mem _ h, rfl⟩
    · rcases List.mem_cons.1 h with rfl | h
      · exact .inr ⟨_, List.mem_cons_self, rfl⟩
      · exact (ih h).imp_right fun ⟨n, hn, hname⟩ => ⟨n, List.mem_cons_of_mem _ hn, hname⟩

theorem Ascending.more (h : counts.Ascending) (name : String) : (counts.more name).Ascending := by
  induction counts with
  | nil => exact List.pairwise_singleton _ _
  | cons other rest ih =>
    obtain ⟨hfirst, hrest⟩ := List.pairwise_cons.1 h
    rw [Counts.more]
    split
    next hlt =>
      refine List.pairwise_cons.2 ⟨fun entry hentry => ?_, h⟩
      rcases List.mem_cons.1 hentry with rfl | hentry
      · exact hlt
      · exact Std.TransCmp.lt_trans hlt (hfirst entry hentry)
    · exact List.pairwise_cons.2 ⟨hfirst, hrest⟩
    next hgt =>
      refine List.pairwise_cons.2 ⟨fun entry hentry => ?_, ih hrest⟩
      rcases fst_of_mem_more hentry with hname | ⟨n, hn, hname⟩
      · rw [hname]
        exact Std.OrientedCmp.lt_of_gt hgt
      · rw [← hname]
        exact hfirst n hn

theorem Ascending.nodup (h : counts.Ascending) : (counts.map (·.1)).Nodup := by
  rw [List.Nodup, List.pairwise_map]
  refine h.imp fun hlt heq => ?_
  simp [heq] at hlt

theorem Ascending.lookup_eq_some_iff (h : counts.Ascending) {name : String} {n : Nat} :
    counts.lookup name = some n ↔ (name, n) ∈ counts := by
  induction counts with
  | nil => simp
  | cons other rest ih =>
    obtain ⟨hfirst, hrest⟩ := List.pairwise_cons.1 h
    rw [Json.lookup_cons_key, List.mem_cons]
    by_cases hname : name = other.1
    · have hout : (name, n) ∉ rest := by
        intro hmem
        have hlt := hfirst _ hmem
        simp [hname] at hlt
      simp [hname, Prod.ext_iff, eq_comm, hname ▸ hout]
    · have hne : (name, n) ≠ other := fun heq => hname (congrArg Prod.fst heq)
      simp [hname, hne, ih hrest]

-- The order of the names is needed where a name is put before all others: it must not come again behind them.
theorem lookup_more (h : counts.Ascending) (name key : String) :
    (counts.more name).lookup key =
      if key = name then some ((counts.lookup name).getD 0 + 1) else counts.lookup key := by
  induction counts with
  | nil => simp [more, Json.lookup_cons_key]
  | cons other rest ih =>
    obtain ⟨hfirst, hrest⟩ := List.pairwise_cons.1 h
    rw [more]
    split
    next hlt =>
      have hnew : (other :: rest).lookup name = none := by
        refine List.lookup_eq_none_iff.2 fun entry hentry => ?_
        have hbehind : compare name entry.1 = .lt := by
          rcases List.mem_cons.1 hentry with rfl | hentry
          · exact hlt
          · exact Std.TransCmp.lt_trans hlt (hfirst entry hentry)
        rw [bne_iff_ne]
        rintro rfl
        simp at hbehind
      rw [hnew, Json.lookup_cons_key]
      rfl
    next heq =>
      have hname : name = other.1 := Std.compare_eq_iff_eq.1 heq
      simp only [Json.lookup_cons_key, hname, if_true, Option.getD_some]
      split <;> rfl
    next hgt =>
      have hne : name ≠ other.1 := by
        rintro rfl
        simp at hgt
      simp only [Json.lookup_cons_key, if_neg hne, ih hrest]
      by_cases hkey : key = other.1
      · rw [if_pos hkey, if_pos hkey, if_neg (hkey ▸ hne.symm)]
      · rw [if_neg hkey, if_neg hkey]

/-- One name more is one more in the numbers. -/
theorem Tallies.more (h : counts.Tallies names) (name : String) : (counts.more name).Tallies (names ++ [name]) where
  ascending := h.ascending.more name
  found key := by
    rw [lookup_more h.ascending, h.found, h.found, List.count_append]
    by_cases hkey : key = name
    · subst hkey
      by_cases hmem : key ∈ names <;> simp [hmem, List.count_eq_zero_of_not_mem]
    · simp [hkey, List.count_eq_zero_of_not_mem]

theorem tallies_nil : Tallies [] [] := ⟨List.Pairwise.nil, fun _ => rfl⟩

theorem Tallies.foldl (h : counts.Tallies names) (more : List String) :
    (more.foldl (fun counts name => counts.more name) counts).Tallies (names ++ more) := by
  induction more generalizing counts names with
  | nil => simpa using h
  | cons name more ih => simpa using ih (h.more name)

theorem Tallies.mem_iff (h : counts.Tallies names) {name : String} {n : Nat} :
    (name, n) ∈ counts ↔ n = names.count name ∧ 0 < n := by
  rw [← h.ascending.lookup_eq_some_iff, h.found]
  by_cases hmem : name ∈ names
  · have hpos : 0 < names.count name := List.count_pos_iff.2 hmem
    rw [if_pos hmem, Option.some_inj]
    exact ⟨fun heq => ⟨heq.symm, heq ▸ hpos⟩, fun heq => heq.1.symm⟩
  · rw [if_neg hmem, List.count_eq_zero_of_not_mem hmem]
    simp

theorem Tallies.getD_lookup (h : counts.Tallies names) (name : String) :
    (counts.lookup name).getD 0 = names.count name := by
  rw [h.found]
  split
  · rfl
  next hmem => exact (List.count_eq_zero_of_not_mem hmem).symm

end Counts

/-! ## The loops -/

theorem tallies_classCounts (records : List Signature) :
    (classCounts records).Tallies (records.map (·.classify.name)) := by
  have h := Counts.tallies_nil.foldl (records.map (·.classify.name))
  rwa [List.foldl_map] at h

/-- A listing counts the classes of its rows as the report counts its records. -/
theorem ProjectListing.counts_eq (l : ProjectListing) : l.counts = classCounts l.signatures := by
  rw [counts, List.foldl_map]
  rfl

end SignatureDesk
