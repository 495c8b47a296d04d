/-
Runs of equal items in a list that is in order. Items that compare equal to one
another stand next to each other there, in the places they had before sorting
(`Arranged.tiedWith_eq`), so a sorted list falls into groups (`exists_grouped`), and
which items tie is all that is left open by the order (`eq_of_tiedWith`). The
reversed order has the same groups, the last one first (`tiedWith_flatten`
holds of them in any order).
-/
import SignatureDesk.Proofs.Order.Arranged

namespace SignatureDesk

open Std

variable {α : Type} {cmp : α → α → Ordering}

/-- The items of a list that compare equal to one. -/
def tiedWith (cmp : α → α → Ordering) (a : α) (l : List α) : List α := l.filter fun b => cmp a b == .eq

theorem mem_tiedWith {a b : α} {l : List α} : b ∈ tiedWith cmp a l ↔ b ∈ l ∧ cmp a b = .eq := by
  simp [tiedWith]

theorem tiedWith_cons_of_eq {a b : α} {l : List α} (h : cmp a b = .eq) :
    tiedWith cmp a (b :: l) = b :: tiedWith cmp a l :=
  List.filter_cons_of_pos (by simpa using h)

theorem tiedWith_cons_of_ne {a b : α} {l : List α} (h : cmp a b ≠ .eq) :
    tiedWith cmp a (b :: l) = tiedWith cmp a l :=
  List.filter_cons_of_neg (by simpa using h)

theorem tiedWith_append {a : α} {l m : List α} : tiedWith cmp a (l ++ m) = tiedWith cmp a l ++ tiedWith cmp a m :=
  List.filter_append ..

theorem tiedWith_eq_self {a : α} {l : List α} (h : ∀ b ∈ l, cmp a b = .eq) : tiedWith cmp a l = l :=
  List.filter_eq_self.2 fun b hb => by simpa using h b hb

theorem tiedWith_eq_nil {a : α} {l : List α} (h : ∀ b ∈ l, cmp a b ≠ .eq) : tiedWith cmp a l = [] :=
  List.filter_eq_nil_iff.2 fun b hb => by simpa using h b hb

/-- Tied items tie with the same ones. -/
theorem tiedWith_congr [TransCmp cmp] {a b : α} (h : cmp a b = .eq) (l : List α) :
    tiedWith cmp a l = tiedWith cmp b l := by
  unfold tiedWith
  congr 1
  funext c
  rw [TransCmp.congr_left h]

/-- An arrangement keeps the order of items that tie. -/
theorem Arranged.tiedWith_eq [TransCmp cmp] {l s : List α} (h : Arranged cmp l s) (a : α) :
    tiedWith cmp a s = tiedWith cmp a l := by
  obtain ⟨placed, perm, rfl, ordered⟩ := h
  let tied : α × Nat → Bool := fun x => cmp a x.1 == .eq
  -- The places of tied items ascend in the arrangement, and so they do in the list.
  have places : (placed.filter tied).Pairwise fun x y => x.2 < y.2 := by
    refine List.Pairwise.imp_of_mem (fun {x y} hx hy hlt => ?_) (ordered.sublist List.filter_sublist)
    have hax : cmp a x.1 = .eq := by simpa [tied] using (List.mem_filter.1 hx).2
    have hay : cmp a y.1 = .eq := by simpa [tied] using (List.mem_filter.1 hy).2
    have hxy : cmp x.1 y.1 = .eq := TransCmp.eq_trans (OrientedCmp.eq_symm hax) hay
    simpa [byPlace, hxy, Nat.compare_eq_lt] using hlt
  have places' : (l.zipIdx.filter tied).Pairwise fun x y => x.2 < y.2 := by
    have all := List.pairwise_lt_range' (s := 0) (n := l.length)
    rw [← List.zipIdx_map_snd, List.pairwise_map] at all
    exact all.sublist List.filter_sublist
  have heq : placed.filter tied = l.zipIdx.filter tied := by
    refine List.Perm.eq_of_pairwise (fun x y _ _ hxy hyx => ?_) places places' (perm.filter tied)
    omega
  calc tiedWith cmp a (placed.map (·.1))
      = (placed.filter tied).map (·.1) := List.filter_map
    _ = (l.zipIdx.filter tied).map (·.1) := by rw [heq]
    _ = tiedWith cmp a (l.zipIdx.map (·.1)) := (List.filter_map (p := fun b => cmp a b == .eq)).symm
    _ = tiedWith cmp a l := by rw [List.zipIdx_map_fst]

/-- Lists in order are the same when their tied items are. -/
theorem eq_of_tiedWith [TransCmp cmp] {s t : List α} (hs : s.Pairwise fun a b => (cmp a b).isLE)
    (ht : t.Pairwise fun a b => (cmp a b).isLE) (h : ∀ a, tiedWith cmp a s = tiedWith cmp a t) : s = t := by
  have mem : ∀ {s t : List α}, (∀ a, tiedWith cmp a s = tiedWith cmp a t) → ∀ a ∈ s, a ∈ t := by
    intro s t h a ha
    have hmem : a ∈ tiedWith cmp a s := mem_tiedWith.2 ⟨ha, ReflCmp.compare_self⟩
    rw [h a] at hmem
    exact (mem_tiedWith.1 hmem).1
  induction s generalizing t with
  | nil =>
    cases t with
    | nil => rfl
    | cons b t => exact absurd (mem (fun a => (h a).symm) b List.mem_cons_self) List.not_mem_nil
  | cons a s ih =>
    cases t with
    | nil => exact absurd (mem h a List.mem_cons_self) List.not_mem_nil
    | cons b t =>
      have hself : cmp a a = .eq := ReflCmp.compare_self
      -- Each of the two first items comes up to the other, so they tie; and the first tied item is the same.
      have hab : cmp a b = .eq := by
        have hle : (cmp a b).isLE := by
          rcases List.mem_cons.1 (mem (fun a => (h a).symm) b List.mem_cons_self) with hb | hb
          · simp [hb, hself]
          · exact List.rel_of_pairwise_cons hs hb
        have hge : (cmp b a).isLE := by
          rcases List.mem_cons.1 (mem h a List.mem_cons_self) with ha | ha
          · simp [← ha, hself]
          · exact List.rel_of_pairwise_cons ht ha
        exact OrientedCmp.isLE_antisymm hle hge
      have hfirst := h a
      rw [tiedWith_cons_of_eq hself, tiedWith_cons_of_eq hab] at hfirst
      obtain ⟨rfl, -⟩ := List.cons.inj hfirst
      have hrest : ∀ c, tiedWith cmp c s = tiedWith cmp c t := by
        intro c
        by_cases hca : cmp c a = .eq
        · have hc := h c
          rw [tiedWith_cons_of_eq hca, tiedWith_cons_of_eq hca] at hc
          exact (List.cons.inj hc).2
        · have hc := h c
          rwa [tiedWith_cons_of_ne hca, tiedWith_cons_of_ne hca] at hc
      rw [ih hs.of_cons ht.of_cons hrest]

/-! ## Items with and without a key -/

/-- A list in which nothing that passes a test stands behind what does not. -/
theorem eq_filter_append {p : α → Bool} {s : List α} (h : s.Pairwise fun a b => p b = true → p a = true) :
    s = s.filter p ++ s.filter fun a => !p a := by
  induction s with
  | nil => rfl
  | cons a s ih =>
    have hrest := ih h.of_cons
    by_cases ha : p a = true
    · rw [List.filter_cons_of_pos ha, List.filter_cons_of_neg (by simpa using ha), List.cons_append, ← hrest]
    · have hnone : s.filter p = [] :=
        List.filter_eq_nil_iff.2 fun b hb hpb => ha (List.rel_of_pairwise_cons h hb hpb)
      rw [hnone, List.nil_append] at hrest
      rw [List.filter_cons_of_neg ha, List.filter_cons_of_pos (by simpa using ha), hnone, ← hrest, List.nil_append]

/-- What is arranged by its keys keeps the order of the items with a key that ties with one. -/
theorem Arranged.filter_key {κ : Type} {cmp : κ → κ → Ordering} [TransCmp cmp] {l s : List α} (key : α → κ)
    (h : Arranged (fun a b => cmp (key a) (key b)) l s) (k : κ) :
    (s.filter fun b => cmp k (key b) == .eq) = l.filter fun b => cmp k (key b) == .eq := by
  have := TransCmp.on cmp key
  by_cases hties : ∃ a ∈ l, cmp k (key a) = .eq
  · obtain ⟨a, -, ha⟩ := hties
    simp only [TransCmp.congr_left ha]
    exact h.tiedWith_eq a
  · have none : ∀ m ⊆ l, (m.filter fun b => cmp k (key b) == .eq) = [] := fun m hm =>
      List.filter_eq_nil_iff.2 fun b hb hkb => hties ⟨b, hm hb, by simpa using hkb⟩
    rw [none s h.perm.subset, none l (List.Subset.refl l)]

section Keyed

variable {β : Type} {cmp : β → β → Ordering} {key : α → Option β} {l s : List α}

/-- Where a missing key comes last, the items without one stand behind the others, in the order they had. -/
theorem Arranged.eq_keyed_append [TransCmp cmp] (key : α → Option β)
    (h : Arranged (fun a b => missingLast cmp (key a) (key b)) l s) :
    s = s.filter (fun a => (key a).isSome) ++ l.filter fun a => !(key a).isSome := by
  have split := eq_filter_append (p := fun a => (key a).isSome) (s := s) ?_
  · -- They tie with one another.
    have tied : ∀ b, (!(key b).isSome) = (missingLast cmp none (key b) == .eq) := by
      intro b
      cases key b <;> rfl
    simp only [tied] at split ⊢
    rwa [Arranged.filter_key key h] at split
  · refine h.pairwise.imp fun {a b} hle hb => ?_
    obtain ⟨y, hy⟩ := Option.isSome_iff_exists.1 hb
    cases ha : key a with
    | none => simp [ha, hy, missingLast] at hle
    | some x => rfl

/-- The items with a key are in the order of their keys. -/
theorem Arranged.pairwise_keyed (key : α → Option β) (h : Arranged (fun a b => missingLast cmp (key a) (key b)) l s) :
    (s.filter fun a => (key a).isSome).Pairwise fun a b =>
      ∃ x y, key a = some x ∧ key b = some y ∧ (cmp x y).isLE := by
  refine (h.pairwise.sublist List.filter_sublist).imp_of_mem fun {a b} ha hb hle => ?_
  obtain ⟨x, hx⟩ := Option.isSome_iff_exists.1 (List.mem_filter.1 ha).2
  obtain ⟨y, hy⟩ := Option.isSome_iff_exists.1 (List.mem_filter.1 hb).2
  refine ⟨x, y, hx, hy, ?_⟩
  simpa only [hx, hy, missingLast] using hle

/-- Items with keys in order, and behind them those without, are in order. -/
theorem pairwise_keyed_append (hs : s = s.filter (fun a => (key a).isSome) ++ l.filter fun a => !(key a).isSome)
    (hkeyed : (s.filter fun a => (key a).isSome).Pairwise fun a b =>
      ∃ x y, key a = some x ∧ key b = some y ∧ (cmp x y).isLE) :
    s.Pairwise fun a b => (missingLast cmp (key a) (key b)).isLE := by
  rw [hs]
  refine List.pairwise_append.2 ⟨hkeyed.imp ?_, ?_, ?_⟩
  · rintro a b ⟨x, y, hx, hy, hle⟩
    rwa [hx, hy, missingLast]
  · refine List.pairwise_of_forall_mem_list fun a ha b hb => ?_
    have hnone : ∀ c ∈ l.filter (fun a => !(key a).isSome), key c = none := by simp
    rw [hnone a ha, hnone b hb]
    rfl
  · intro a ha b hb
    obtain ⟨x, hx⟩ := Option.isSome_iff_exists.1 (List.mem_filter.1 ha).2
    have hb : key b = none := by simpa using (List.mem_filter.1 hb).2
    rw [hx, hb]
    rfl

end Keyed

/-! ## Groups -/

/-- A list in order, cut between items that do not tie. -/
structure Grouped (cmp : α → α → Ordering) (s : List α) (groups : List (List α)) : Prop where
  flatten : groups.flatten = s
  nonempty : ∀ g ∈ groups, g ≠ []
  tied : ∀ g ∈ groups, ∀ a ∈ g, ∀ b ∈ g, cmp a b = .eq
  ordered : groups.Pairwise fun g h => ∀ a ∈ g, ∀ b ∈ h, cmp a b = .lt

section First

variable [TransCmp cmp] {a b : α} {s : List α}

theorem isLE_first (h : (a :: s).Pairwise fun a b => (cmp a b).isLE) (hb : b ∈ a :: s) : (cmp a b).isLE := by
  rcases List.mem_cons.1 hb with heq | hmem
  · have hself : cmp a a = .eq := ReflCmp.compare_self
    simp [heq, hself]
  · exact List.rel_of_pairwise_cons h hmem

/-- Behind the items that tie with the first one stand those that do not. -/
theorem eq_tiedWith_append (h : (a :: s).Pairwise fun a b => (cmp a b).isLE) :
    a :: s = tiedWith cmp a (a :: s) ++ s.filter fun b => !(cmp a b == .eq) := by
  have hself : cmp a a = .eq := ReflCmp.compare_self
  have hcut := eq_filter_append (p := fun b => cmp a b == .eq) (s := a :: s) ?_
  · rwa [List.filter_cons_of_neg (a := a) (p := fun b => !(cmp a b == .eq)) (by simp [hself])] at hcut
  -- What ties with the first item is at most what stands behind it, and at least the first item.
  refine h.imp_of_mem fun {b c} hb _ hbc hc => ?_
  have hac : cmp a c = .eq := by simpa using hc
  have hba : (cmp b a).isLE := by rwa [TransCmp.congr_right hac]
  simp [OrientedCmp.isLE_antisymm (isLE_first h hb) hba]

/-- Those are more than the first one. -/
theorem lt_of_mem_filter (h : (a :: s).Pairwise fun a b => (cmp a b).isLE)
    (hb : b ∈ s.filter fun b => !(cmp a b == .eq)) : cmp a b = .lt := by
  obtain ⟨hmem, hne⟩ := List.mem_filter.1 hb
  rcases Ordering.isLE_iff_eq_lt_or_eq_eq.1 (isLE_first h (List.mem_cons_of_mem a hmem)) with hlt | heq
  · exact hlt
  · simp [heq] at hne

end First

/-- Every list in order falls into groups: the items that tie with the first one, and the groups of the rest. -/
theorem exists_grouped [TransCmp cmp] (s : List α) (hs : s.Pairwise fun a b => (cmp a b).isLE) :
    ∃ groups, Grouped cmp s groups := by
  match s, hs with
  | [], _ => exact ⟨[], rfl, by simp, by simp, List.Pairwise.nil⟩
  | a :: s, hs =>
    let later := s.filter fun b => !(cmp a b == .eq)
    have hsorted : later.Pairwise fun b c => (cmp b c).isLE := hs.of_cons.sublist List.filter_sublist
    have hshorter : later.length < (a :: s).length := Nat.lt_succ_of_le (List.length_filter_le _ _)
    obtain ⟨groups, hflat, hne, htied, hord⟩ := exists_grouped later hsorted
    refine ⟨tiedWith cmp a (a :: s) :: groups, ?_, ?_, ?_, ?_⟩
    · rw [List.flatten_cons, hflat, ← eq_tiedWith_append hs]
    · refine List.forall_mem_cons.2 ⟨?_, hne⟩
      rw [tiedWith_cons_of_eq ReflCmp.compare_self]
      exact List.cons_ne_nil _ _
    · refine List.forall_mem_cons.2 ⟨fun b hb c hc => ?_, htied⟩
      exact TransCmp.eq_trans (OrientedCmp.eq_symm (mem_tiedWith.1 hb).2) (mem_tiedWith.1 hc).2
    · refine List.pairwise_cons.2 ⟨fun g hg b hb c hc => ?_, hord⟩
      have hmem : c ∈ later := by
        rw [← hflat]
        exact List.mem_flatten_of_mem hg hc
      rw [← TransCmp.congr_left (mem_tiedWith.1 hb).2]
      exact lt_of_mem_filter hs hmem
termination_by s.length
decreasing_by exact hshorter

/-- What ties with an item of a group is that group, whatever order the groups are in. -/
theorem tiedWith_flatten {groups : List (List α)} {g : List α} {a : α}
    (htied : ∀ g ∈ groups, ∀ a ∈ g, ∀ b ∈ g, cmp a b = .eq)
    (hapart : groups.Pairwise fun g h => ∀ a ∈ g, ∀ b ∈ h, cmp a b ≠ .eq ∧ cmp b a ≠ .eq)
    (hg : g ∈ groups) (ha : a ∈ g) : tiedWith cmp a groups.flatten = g := by
  induction groups with
  | nil => exact absurd hg List.not_mem_nil
  | cons first groups ih =>
    obtain ⟨hfirst, hrest⟩ := List.pairwise_cons.1 hapart
    rw [List.flatten_cons, tiedWith_append]
    rcases List.mem_cons.1 hg with rfl | hg
    · have hothers : tiedWith cmp a groups.flatten = [] := by
        refine tiedWith_eq_nil fun b hb => ?_
        obtain ⟨h, hh, hb⟩ := List.mem_flatten.1 hb
        exact (hfirst h hh a ha b hb).1
      rw [tiedWith_eq_self fun b hb => htied g List.mem_cons_self a ha b hb, hothers, List.append_nil]
    · have hnone : tiedWith cmp a first = [] := tiedWith_eq_nil fun b hb => (hfirst g hg b hb a ha).2
      rw [hnone, List.nil_append]
      exact ih (fun h hh => htied h (List.mem_cons_of_mem first hh)) hrest hg

namespace Grouped

variable {s : List α} {groups : List (List α)}

theorem apart [TransCmp cmp] (h : Grouped cmp s groups) :
    groups.Pairwise fun g h => ∀ a ∈ g, ∀ b ∈ h, cmp a b ≠ .eq ∧ cmp b a ≠ .eq := by
  refine h.ordered.imp fun {g h} hlt a ha b hb => ?_
  have hab := hlt a ha b hb
  have hba : cmp b a = .gt := OrientedCmp.gt_of_lt hab
  simp [hab, hba]

theorem tiedWith_eq [TransCmp cmp] (h : Grouped cmp s groups) {g : List α} {a : α} (hg : g ∈ groups) (ha : a ∈ g) :
    tiedWith cmp a s = g := by
  rw [← h.flatten]
  exact tiedWith_flatten h.tied h.apart hg ha

/-- Turning the groups round changes nothing within them. -/
theorem tiedWith_reverse [TransCmp cmp] (h : Grouped cmp s groups) (a : α) :
    tiedWith cmp a groups.reverse.flatten = tiedWith cmp a s := by
  have hmem : ∀ b, b ∈ groups.reverse.flatten ↔ b ∈ s := by
    intro b
    rw [← h.flatten]
    simp
  by_cases hties : ∃ b ∈ s, cmp a b = .eq
  · obtain ⟨b, hb, hab⟩ := hties
    rw [← h.flatten] at hb
    obtain ⟨g, hg, hbg⟩ := List.mem_flatten.1 hb
    have hapart : groups.reverse.Pairwise fun g h => ∀ a ∈ g, ∀ b ∈ h, cmp a b ≠ .eq ∧ cmp b a ≠ .eq :=
      List.pairwise_reverse.2 (h.apart.imp fun hgh a ha b hb => (hgh b hb a ha).symm)
    rw [tiedWith_congr hab, tiedWith_congr hab, h.tiedWith_eq hg hbg]
    exact tiedWith_flatten (fun g hg => h.tied g (List.mem_reverse.1 hg)) hapart (List.mem_reverse.2 hg) hbg
  · have hnone : ∀ b ∈ s, cmp a b ≠ .eq := fun b hb hab => hties ⟨b, hb, hab⟩
    rw [tiedWith_eq_nil hnone, tiedWith_eq_nil fun b hb => hnone b ((hmem b).1 hb)]

/-- Groups the other way round are in the reverse order. -/
theorem pairwise_reverse [TransCmp cmp] (h : Grouped cmp s groups) :
    groups.reverse.flatten.Pairwise fun a b => (cmp b a).isLE := by
  refine List.pairwise_flatten.2 ⟨fun g hg => ?_, List.pairwise_reverse.2 (h.ordered.imp ?_)⟩
  · refine List.pairwise_of_forall_mem_list fun a ha b hb => ?_
    rw [h.tied g (List.mem_reverse.1 hg) b hb a ha]
    rfl
  · intro g h hlt b hb a ha
    rw [hlt a ha b hb]
    rfl

end Grouped
end SignatureDesk
