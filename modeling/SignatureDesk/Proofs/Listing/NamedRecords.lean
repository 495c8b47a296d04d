/-
Records sorted by a name. A record is placed by its name without the white space
around it (`placedBy`) and by nothing else, so where each one goes can be told from
these names alone (`places_eq`). Those without a name stand behind the others, and
what has the same name, or none, stands as it did: there is only one such list
(`ByName.eq_sortByName`), and sorting it changes nothing any more.
-/
import SignatureDesk.Proofs.AllowList.NormalForm
import SignatureDesk.Proofs.Order.Groups

namespace SignatureDesk.Entries

open Std

variable {α β : Type} {field : α → Option String} {records sorted : List α}

/-- What a record is placed by: its name, without the white space around it. -/
def placedBy (field : α → Option String) (record : α) : Option String := (field record).map Text.trim

/-- Records in the order of their names: first those that have one, each with a name that comes up to those behind
it, and those of one name as they stood; then those without, as they stood. -/
structure ByName (field : α → Option String) (records sorted : List α) : Prop where
  split : sorted = sorted.filter (fun r => (field r).isSome) ++ records.filter fun r => !(field r).isSome
  ordered : (sorted.filter fun r => (field r).isSome).Pairwise fun a b =>
    ∃ x y, placedBy field a = some x ∧ placedBy field b = some y ∧ (compare x y).isLE
  steady : ∀ name, (sorted.filter fun r => placedBy field r = some name) =
    records.filter fun r => placedBy field r = some name

/-- Where the records stood that come out first, second and so on. -/
def places (field : α → Option String) (records : List α) : List Nat :=
  (sortByName (fun p : α × Nat => field p.1) records.zipIdx).map Prod.snd

/-! ## The order of records -/

theorem isSome_placedBy (r : α) : (placedBy field r).isSome = (field r).isSome := Option.isSome_map

theorem compareNames_field (field : α → Option String) (a b : α) :
    compareNames (field a) (field b) = missingLast compare (placedBy field a) (placedBy field b) := by
  rw [compareNames_eq, placedBy, placedBy]
  cases field a <;> cases field b <;> simp only [missingLast, Option.map]

/-- Names tie when they are the same, and so do missing ones. -/
theorem missingLast_eq_iff {x y : Option String} : missingLast compare x y = .eq ↔ x = y := by
  cases x <;> cases y <;> simp [missingLast, LawfulEqCmp.compare_eq_iff_eq]

theorem sortByName_arranged (field : α → Option String) (records : List α) :
    Arranged (fun a b => missingLast compare (placedBy field a) (placedBy field b)) records
      (sortByName field records) := by
  simp only [← compareNames_field]
  exact arranged_sortByName field records

theorem missingLast_beq_eq (name : Option String) (r : α) :
    (missingLast compare name (placedBy field r) == .eq) = decide (placedBy field r = name) := by
  rw [Bool.eq_iff_iff, beq_iff_eq, missingLast_eq_iff, decide_eq_true_iff, eq_comm]

/-- Sorting keeps the order of the records of one name, and of those without. -/
theorem filter_sortByName (name : Option String) :
    ((sortByName field records).filter fun r => placedBy field r = name) =
      records.filter fun r => placedBy field r = name := by
  simp only [← missingLast_beq_eq]
  exact Arranged.filter_key (placedBy field) (sortByName_arranged field records) name

/-! ## What sorting gives -/

theorem sortByName_byName (field : α → Option String) (records : List α) :
    ByName field records (sortByName field records) where
  split := by
    have split := Arranged.eq_keyed_append (placedBy field) (sortByName_arranged field records)
    simpa only [isSome_placedBy] using split
  ordered := by
    have ordered := Arranged.pairwise_keyed (placedBy field) (sortByName_arranged field records)
    simpa only [isSome_placedBy] using ordered
  steady _ := filter_sortByName _

theorem ByName.filter_missing (h : ByName field records sorted) :
    (sorted.filter fun r => !(field r).isSome) = records.filter fun r => !(field r).isSome := by
  have missing := congrArg (List.filter fun r => !(field r).isSome) h.split
  rw [List.filter_append, List.filter_filter, List.filter_filter] at missing
  simpa only [Bool.not_and_self, List.filter_false, List.nil_append, Bool.and_self] using missing

/-- These conditions leave one list. -/
theorem ByName.eq_sortByName (h : ByName field records sorted) : sorted = sortByName field records := by
  have := TransCmp.on (missingLast compare) (placedBy field)
  refine eq_of_tiedWith ?_ (sortByName_arranged field records).pairwise fun a => ?_
  · refine pairwise_keyed_append (l := records) ?_ ?_
    · simpa only [isSome_placedBy] using h.split
    · simpa only [isSome_placedBy] using h.ordered
  · rw [(sortByName_arranged field records).tiedWith_eq]
    simp only [tiedWith, missingLast_beq_eq]
    cases placedBy field a with
    | some name => exact h.steady name
    | none =>
      have missing : ∀ r, decide (placedBy field r = none) = !(field r).isSome := by
        intro r
        rw [placedBy]
        cases field r <;> rfl
      simp only [missing]
      exact h.filter_missing

/-- What is sorted already is not sorted any further. -/
theorem sortByName_sortByName (field : α → Option String) (records : List α) :
    sortByName field (sortByName field records) = sortByName field records :=
  List.mergeSort_of_pairwise (arranged_sortByName field records).pairwise

/-! ## Where the records go -/

theorem map_fst_sortByName (field : α → Option String) (records : List α) :
    (sortByName (fun p : α × Nat => field p.1) records.zipIdx).map Prod.fst = sortByName field records := by
  have commutes := List.map_mergeSort (f := (Prod.fst : α × Nat → α)) (l := records.zipIdx)
    (r := fun a b => (compareNames (field a.1) (field b.1)).isLE)
    (s := fun a b => (compareNames (field a) (field b)).isLE) fun _ _ _ _ => rfl
  rwa [List.zipIdx_map_fst] at commutes

theorem places_perm (field : α → Option String) (records : List α) :
    (places field records).Perm (List.range records.length) := by
  have perm := (List.mergeSort_perm records.zipIdx fun a b => (compareNames (field a.1) (field b.1)).isLE).map Prod.snd
  rwa [List.zipIdx_map_snd, ← List.range_eq_range'] at perm

/-- Each record of the sorted list is the one that stood in its place. -/
theorem map_getElem?_places (field : α → Option String) (records : List α) :
    (places field records).map (records[·]?) = (sortByName field records).map some := by
  rw [← map_fst_sortByName, places, List.map_map, List.map_map]
  refine List.map_congr_left fun p hp => ?_
  rw [sortByName, List.mem_mergeSort] at hp
  exact List.mem_zipIdx_iff_getElem?.1 hp

/-- The places are those of the names. -/
theorem places_eq (field : α → Option String) (records : List α) :
    places field records =
      ((records.map (placedBy field)).zipIdx.mergeSort fun a b => (missingLast compare a.1 b.1).isLE).map Prod.snd := by
  rw [places, sortByName, List.zipIdx_map,
    ← List.map_mergeSort (r := fun a b => (compareNames (field a.1) (field b.1)).isLE), List.map_map]
  · rfl
  · intro a _ b _
    rw [compareNames_field]
    rfl

/-- **Records sorted by a name.** The sorted list has the records of the list and is the only one of these: first those
that have the name, in order by it once the white space around it is gone, and those with equal names as they stood; then
those without, as they stood. Sorted again it stays as it is. And of the names only what is between the white space
counts: records with the same names apart from that come out in the same places. -/
theorem sortByName_steady (field : α → Option String) (records : List α) :
    (sortByName field records).Perm records ∧
    (∀ sorted, ByName field records sorted ↔ sorted = sortByName field records) ∧
    sortByName field (sortByName field records) = sortByName field records ∧
    (places field records).Perm (List.range records.length) ∧
    (places field records).map (records[·]?) = (sortByName field records).map some ∧
    ∀ {β : Type} (field' : β → Option String) (others : List β),
      others.map (placedBy field') = records.map (placedBy field) → places field' others = places field records := by
  refine ⟨(arranged_sortByName field records).perm, fun sorted => ⟨ByName.eq_sortByName, ?_⟩,
    sortByName_sortByName field records, places_perm field records, map_getElem?_places field records, ?_⟩
  · rintro rfl
    exact sortByName_byName field records
  · intro β field' others h
    rw [places_eq, places_eq, h]

end SignatureDesk.Entries

namespace SignatureDesk.Sample

def spacedNames : List (Option String) := [none, some " bob", some "Ada ", some "", some "bob"]

def tightNames : List (Option String) := [none, some "bob", some "Ada", some " ", some " bob "]

theorem spacedNames_places : spacedNames.map (Entries.placedBy id) = tightNames.map (Entries.placedBy id) ∧
    Entries.places id spacedNames = Entries.places id tightNames := by
  have same : spacedNames.map (Entries.placedBy id) = tightNames.map (Entries.placedBy id) := by decide
  obtain ⟨-, -, -, -, -, moved⟩ := Entries.sortByName_steady id tightNames
  exact ⟨same, moved id spacedNames same⟩

end SignatureDesk.Sample
