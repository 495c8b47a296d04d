/-
Lists in the order of a comparison. `Arranged cmp l s` says that `s` has the items of
`l` in the order of `cmp`, and those that compare equal in the places they had in
`l`; where the comparison is a total preorder there is one such list (`Arranged.unique`).
Sorting arranges (`arranged_mergeSort`), and sorting what is arranged already arranges
by the new comparison first and by the old one where that is undecided (`Arranged.resort`).
-/
import SignatureDesk.AllowList.Entries

namespace SignatureDesk

open Std

variable {α β : Type} {cmp cmp' : α → α → Ordering}

/-! ## Comparisons -/

/-- Comparing what two things have is a total preorder when comparing that is. -/
theorem TransCmp.on (cmp : α → α → Ordering) [TransCmp cmp] (f : β → α) : TransCmp fun a b => cmp (f a) (f b) where
  eq_swap := OrientedCmp.eq_swap
  isLE_trans := TransCmp.isLE_trans

/-- One comparison, and another where that is undecided. -/
theorem TransCmp.thenBy [TransCmp cmp] [TransCmp cmp'] : TransCmp fun a b => (cmp a b).then (cmp' a b) :=
  inferInstanceAs (TransCmp (compareLex cmp cmp'))

/-- Compares what is there; what is missing comes last. -/
def missingLast (cmp : α → α → Ordering) : Option α → Option α → Ordering
  | some a, some b => cmp a b
  | some _, none => .lt
  | none, some _ => .gt
  | none, none => .eq

instance [TransCmp cmp] : TransCmp (missingLast cmp) where
  eq_swap {a b} := by
    cases a with
    | none => cases b <;> rfl
    | some a =>
      cases b with
      | none => rfl
      | some b =>
        show cmp a b = (cmp b a).swap
        exact OrientedCmp.eq_swap
  isLE_trans {a b c} hab hbc := by
    cases a <;> cases b <;> cases c <;> simp only [missingLast] at hab hbc ⊢ <;> try trivial
    exact TransCmp.isLE_trans hab hbc

/-! ## Sorting -/

/-- Sorting puts a list in order, and what compares equal keeps the order it had. -/
theorem pairwise_mergeSort_stable (cmp : α → α → Ordering) [TransCmp cmp] {r : α → α → Prop} {l : List α}
    (h : l.Pairwise r) :
    (l.mergeSort fun a b => (cmp a b).isLE).Pairwise fun a b => cmp a b = .lt ∨ cmp a b = .eq ∧ r a b := by
  have trans : ∀ a b c, (cmp a b).isLE → (cmp b c).isLE → (cmp a c).isLE := fun _ _ _ => TransCmp.isLE_trans
  have total : ∀ a b, (cmp a b).isLE || (cmp b a).isLE := by
    intro a b
    have hswap : cmp b a = (cmp a b).swap := OrientedCmp.eq_swap
    rw [hswap]
    cases cmp a b <;> rfl
  -- Sorting is sorting by the places as well, and no two places are the same.
  rw [← List.mergeSort_zipIdx, List.pairwise_map]
  have sorted := List.pairwise_mergeSort (List.zipIdxLE_trans trans) (List.zipIdxLE_total total) l.zipIdx
  have places := (List.mergeSort_perm l.zipIdx (List.zipIdxLE fun a b => (cmp a b).isLE)).map (·.2)
  have distinct := places.nodup_iff.2 (by rw [List.zipIdx_map_snd]; exact List.nodup_range')
  refine (sorted.and (List.pairwise_map.1 distinct)).imp_of_mem fun {x y} hx hy ⟨hle, hne⟩ => ?_
  rw [List.mem_mergeSort, List.mem_zipIdx_iff_getElem?] at hx hy
  obtain ⟨hi, hx⟩ := List.getElem?_eq_some_iff.1 hx
  obtain ⟨hj, hy⟩ := List.getElem?_eq_some_iff.1 hy
  cases hcmp : cmp x.1 y.1 with
  | lt => exact .inl rfl
  | gt => simp [List.zipIdxLE, hcmp] at hle
  | eq =>
    have hback : cmp y.1 x.1 = .eq := OrientedCmp.eq_symm hcmp
    simp [List.zipIdxLE, hcmp, hback] at hle
    have hr := List.pairwise_iff_getElem.1 h x.2 y.2 hi hj (by omega)
    rw [hx, hy] at hr
    exact .inr ⟨rfl, hr⟩

/-! ## Arrangements -/

/-- Compares items, and their places where that is undecided. -/
def byPlace (cmp : α → α → Ordering) (x y : α × Nat) : Ordering := (cmp x.1 y.1).then (compare x.2 y.2)

instance [TransCmp cmp] : TransCmp (byPlace cmp) :=
  have := TransCmp.on cmp (Prod.fst : α × Nat → α)
  have := TransCmp.on (compare : Nat → Nat → Ordering) (Prod.snd : α × Nat → Nat)
  TransCmp.thenBy

/-- The items of `l` in the order of `cmp`; what compares equal stands as it does in `l`. -/
def Arranged (cmp : α → α → Ordering) (l arranged : List α) : Prop :=
  ∃ placed : List (α × Nat), placed.Perm l.zipIdx ∧ placed.map (·.1) = arranged ∧
    placed.Pairwise fun x y => byPlace cmp x y = .lt

theorem Arranged.perm {l s : List α} (h : Arranged cmp l s) : s.Perm l := by
  obtain ⟨placed, perm, rfl, -⟩ := h
  have h := perm.map (·.1)
  rwa [List.zipIdx_map_fst] at h

theorem Arranged.pairwise {l s : List α} (h : Arranged cmp l s) : s.Pairwise fun a b => (cmp a b).isLE := by
  obtain ⟨placed, -, rfl, ordered⟩ := h
  rw [List.pairwise_map]
  refine ordered.imp fun {x y} h => ?_
  cases hcmp : cmp x.1 y.1 <;> simp [byPlace, hcmp] at h ⊢

/-- A list is its own arrangement when nothing is told apart. -/
theorem arranged_self (l : List α) : Arranged (fun _ _ => .eq) l l := by
  refine ⟨l.zipIdx, .refl _, List.zipIdx_map_fst 0 l, ?_⟩
  have places := List.pairwise_lt_range' (s := 0) (n := l.length)
  rw [← List.zipIdx_map_snd, List.pairwise_map] at places
  exact places.imp fun h => by simpa [byPlace, Nat.compare_eq_lt] using h

/-- The order decides where everything stands. -/
theorem Arranged.unique [TransCmp cmp] {l s s' : List α} (h : Arranged cmp l s) (h' : Arranged cmp l s') :
    s = s' := by
  obtain ⟨placed, perm, rfl, ordered⟩ := h
  obtain ⟨placed', perm', rfl, ordered'⟩ := h'
  have antisymm : ∀ x y, x ∈ placed → y ∈ placed' → byPlace cmp x y = .lt → byPlace cmp y x = .lt → x = y := by
    intro x y _ _ hxy hyx
    rw [OrientedCmp.gt_of_lt hxy] at hyx
    cases hyx
  rw [List.Perm.eq_of_pairwise antisymm ordered ordered' (perm.trans perm'.symm)]

/-- What is sorted again is in the new order, and in the old one where that is undecided. -/
theorem Arranged.resort [TransCmp cmp'] {l s : List α} (h : Arranged cmp l s) :
    Arranged (fun a b => (cmp' a b).then (cmp a b)) l (s.mergeSort fun a b => (cmp' a b).isLE) := by
  obtain ⟨placed, perm, rfl, ordered⟩ := h
  have := TransCmp.on cmp' (Prod.fst : α × Nat → α)
  refine ⟨placed.mergeSort fun x y => (cmp' x.1 y.1).isLE, (List.mergeSort_perm ..).trans perm,
    List.map_mergeSort fun _ _ _ _ => rfl, ?_⟩
  refine (pairwise_mergeSort_stable (fun x y : α × Nat => cmp' x.1 y.1) ordered).imp fun {x y} h => ?_
  rcases h with h | ⟨h, hold⟩
  · simp [byPlace, h]
  · simpa [byPlace, h] using hold

theorem arranged_mergeSort [TransCmp cmp] (l : List α) :
    Arranged cmp l (l.mergeSort fun a b => (cmp a b).isLE) := by
  have h : Arranged (fun a b => (cmp a b).then .eq) l (l.mergeSort fun a b => (cmp a b).isLE) :=
    (arranged_self l).resort
  simpa using h

end SignatureDesk
