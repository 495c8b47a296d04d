/-
Rows sorted by the date of their signatures. Three parts of the program have to agree on an
instant for that: the reader that the records come from, the writer of the rows, and the
stricter reader that rows are compared by. Each record that was read has an instant as
clocks keep it (`Signature.kept_created`), and that is read back from its row in the years
of four digits, so rows are compared by the instants of their records and sorting
puts them in the order of time (`rows_sorted_by_date`).
-/
import SignatureDesk.Proofs.Listing.ByName
import SignatureDesk.Proofs.Listing.SortedRows
import SignatureDesk.Proofs.Records.ReadBack

namespace SignatureDesk

open Std Json Fields

namespace Instant

/-- An instant before another one, or the same. -/
def NotAfter (i j : Instant) : Prop := i.seconds < j.seconds ∨ i.seconds = j.seconds ∧ i.nanos ≤ j.nanos

theorem isLE_compare_iff {i j : Instant} : (compare i j).isLE ↔ i.NotAfter j := by
  rw [compare, NotAfter, Ordering.isLE_then_iff_or, Std.compare_eq_lt, Std.compare_eq_iff_eq, Std.isLE_compare]

theorem compare_eq_eq_iff {i j : Instant} : compare i j = .eq ↔ i = j := by
  cases i
  cases j
  simp [compare, Ordering.then_eq_eq]

end Instant

/-- The order of instants in a direction. -/
def Direction.InTime : Direction → Instant → Instant → Prop
  | .asc, i, j => i.NotAfter j
  | .desc, i, j => j.NotAfter i

theorem Direction.isLE_orient_compare_iff {d : Direction} {i j : Instant} :
    (d.orient (i.compare j)).isLE ↔ d.InTime i j := by
  cases d with
  | asc => exact Instant.isLE_compare_iff
  | desc =>
    have hswap : (i.compare j).swap = j.compare i := OrientedCmp.eq_swap.symm
    rw [orient, hswap]
    exact Instant.isLE_compare_iff

/-! ## Dates of records -/

namespace Signature

/-- The date of a record that was read is an instant as clocks keep it. -/
theorem kept_created {v : Json} {s : Signature} (h : codec.decode v = .ok s) : ∀ i ∈ s.created, i.Kept := by
  obtain ⟨⟨id, type, reference, refId, refName, company, project, user, created, behind⟩, hfields, rfl⟩ :=
    except_map_ok_iff.1 h
  -- Eight fields stand in front of the date, in an object as well as in an array.
  have read : created = none ∨ ∃ w, Codec.instant.optional.decode w = .ok created := by
    cases v with
    | obj ms =>
      iterate 8 replace hfields := (ofMembers_cons_ok_iff.1 hfields).2
      exact readGiven_default_cases (ofMembers_cons_ok_iff.1 hfields).1
    | arr items =>
      replace hfields := Codec.record_decode_arr_iff.1 hfields
      iterate 8 replace hfields := (ofItems_cons_ok_iff.1 hfields).2
      exact head_default_cases (ofItems_cons_ok_iff.1 hfields).1
    | _ => simp [Codec.record] at hfields
  rintro i rfl
  rcases read with hnone | ⟨w, hw⟩
  · cases hnone
  · exact Codec.kept_of_instant_decode (Codec.decode_of_optional_decode hw)

theorem get?_row_created (s : Signature) : s.row.get? "signatureCreated" = s.created.map fun i => .str i.write := by
  rw [get?_row]
  simp (disch := decide) only [codec, Codec.map, Codec.record, Json.get?, required, defaulted, omitted,
    lookup_toMembers_of_ne, lookup_toMembers_self]
  cases s.created <;> rfl

end Signature

/-! ## The order of rows -/

/-- Records in the order of time: those with a date, in a direction, and those of one instant as they stood; then those
without, as they stood. -/
structure ByDate (d : Direction) (records sorted : List Signature) : Prop where
  perm : sorted.Perm records
  split : sorted = sorted.filter (fun s => s.created.isSome) ++ records.filter fun s => !s.created.isSome
  ordered : (sorted.filter fun s => s.created.isSome).Pairwise fun s t =>
    ∃ i j, s.created = some i ∧ t.created = some j ∧ d.InTime i j
  steady : ∀ i, (sorted.filter fun s => s.created = some i) = records.filter fun s => s.created = some i

/-- Order of two dates in a direction, a missing one last. -/
def compareCreated (d : Direction) : Option Instant → Option Instant → Ordering :=
  missingLast fun i j => d.orient (i.compare j)

instance (d : Direction) : TransCmp (compareCreated d) :=
  inferInstanceAs (TransCmp (missingLast fun i j : Instant => d.orient (i.compare j)))

theorem compareCreated_beq_eq (d : Direction) (i : Instant) (o : Option Instant) :
    (compareCreated d (some i) o == .eq) = decide (o = some i) := by
  cases o with
  | none => rfl
  | some j =>
    rw [compareCreated, missingLast, Direction.orient_beq_eq, Bool.eq_iff_iff, beq_iff_eq, Instant.compare_eq_eq_iff,
      decide_eq_true_iff, Option.some.injEq, eq_comm]

theorem Arranged.byDate {d : Direction} {records sorted : List Signature}
    (h : Arranged (fun s t => compareCreated d s.created t.created) records sorted) : ByDate d records sorted where
  perm := h.perm
  split := Arranged.eq_keyed_append Signature.created h
  ordered := by
    refine (Arranged.pairwise_keyed Signature.created h).imp ?_
    rintro s t ⟨i, j, hi, hj, hle⟩
    exact ⟨i, j, hi, hj, Direction.isLE_orient_compare_iff.1 hle⟩
  steady i := by
    simp only [← compareCreated_beq_eq d]
    exact Arranged.filter_key Signature.created h (some i)

namespace SortSpec

theorem lookup_created {row : Json} {created : Option Instant}
    (h : row.get? "signatureCreated" = created.map fun i => .str i.write) :
    lookup "signatureCreated" row = created.map fun i => .str i.write := by
  rw [lookup_key (by decide), h]
  cases created <;> rfl

/-- Rows whose dates are read back are compared by them. -/
theorem compareRows_created {row row' : Json} {created created' : Option Instant}
    (h : row.get? "signatureCreated" = created.map fun i => .str i.write)
    (h' : row'.get? "signatureCreated" = created'.map fun i => .str i.write)
    (hread : ∀ i ∈ created, Instant.readStrict i.write = some i)
    (hread' : ∀ i ∈ created', Instant.readStrict i.write = some i) (d : Direction) :
    (SortSpec.mk "signatureCreated" .date d).compareRows row row' = compareCreated d created created' := by
  rw [compareRows_eq, order, lookup_created h, lookup_created h']
  cases created with
  | none => cases created' <;> rfl
  | some i =>
    cases created' with
    | none => rfl
    | some j =>
      simp only [Option.map_some, compareCreated, missingLast, SortKind.compare, SortKind.dateOf, hread i rfl,
        hread' j rfl, SortKind.compareDates]

/-- Records in whose rows the date stands come out in one order, sorted before they are written or after. -/
theorem apply_map_created {row : Signature → Json}
    (h : ∀ s, (row s).get? "signatureCreated" = s.created.map fun i => .str i.write) {records : List Signature}
    (hread : ∀ s ∈ records, ∀ i ∈ s.created, Instant.readStrict i.write = some i) (d : Direction) :
    (SortSpec.mk "signatureCreated" .date d).apply (records.map row) =
      (records.mergeSort fun s t => (compareCreated d s.created t.created).isLE).map row := by
  refine (List.map_mergeSort fun s hs t ht => ?_).symm
  rw [compareRows_created (h s) (h t) (hread s hs) (hread t ht)]

/-- **Rows in the order of time.** Let records be read from any values, each without a date or with one, however it is
spelled, that lies in the years 0 to 9999 of universal time. Sorting the rows that they are written as by their date
gives the rows of the records in the order of time: ascending has the earliest first, descending the latest, and in
either direction records of one instant stand as they did and those without a date come last, as they stood. It
does so for the rows of records alone and for those of a listing, with their classes; and what stands in
the row of a record for its date denotes the instant that was read. -/
theorem rows_sorted_by_date (records : List Signature)
    (decoded : ∀ s ∈ records, ∃ v, Signature.codec.decode v = .ok s)
    (years : ∀ s ∈ records, ∀ i ∈ s.created, 0 ≤ i.year ∧ i.year ≤ 9999) (d : Direction) :
    (∀ s ∈ records, (lookup "signatureCreated" s.row).bind SortKind.dateOf = s.created) ∧
    ∃ sorted, ByDate d records sorted ∧
      (SortSpec.mk "signatureCreated" .date d).apply (records.map Signature.row) = sorted.map Signature.row ∧
      (SortSpec.mk "signatureCreated" .date d).apply (records.map ProjectListing.row) =
        sorted.map ProjectListing.row := by
  have hread : ∀ s ∈ records, ∀ i ∈ s.created, Instant.readStrict i.write = some i := by
    intro s hs i hi
    obtain ⟨v, hv⟩ := decoded s hs
    exact (Signature.kept_created hv i hi).readStrict_write (years s hs i hi)
  have hlisted : ∀ s, (ProjectListing.row s).get? "signatureCreated" = s.created.map fun i => .str i.write := by
    intro s
    rw [ProjectListing.get?_row, if_neg (by decide)]
    exact s.get?_row_created
  have := TransCmp.on (compareCreated d) Signature.created
  refine ⟨fun s hs => ?_, _, (arranged_mergeSort records).byDate, apply_map_created Signature.get?_row_created hread d,
    apply_map_created hlisted hread d⟩
  rw [lookup_created s.get?_row_created]
  cases hcreated : s.created with
  | none => rfl
  | some i => simp only [Option.map_some, Option.bind_some, SortKind.dateOf, hread s hs i hcreated]

end SortSpec

namespace Sample

/-- A record as it comes, with a date in some spelling or without one. -/
def spelled (id : String) (created : Option String) : Json :=
  .obj ([("signatureID", .str id), ("signatureType", .str "cla"), ("signatureReferenceType", .str "user")] ++
    (created.map fun text => ("signatureCreated", .str text)).toList)

/-- No date, one instant in two spellings, a leap second that is the last one of the years, and the first second. -/
def dated : List Signature :=
  [spelled "1" none, spelled "2" (some "2024-05-01 14:00:00.500+02:00"), spelled "3" (some "9999-12-31T23:59:60Z"),
    spelled "4" (some "2024-05-01t12:00:00.5z"), spelled "5" (some "0000-01-01T00:00:00-00:00")].filterMap
      fun v => (Signature.codec.decode v).toOption

theorem dates_sorted :
    dated.map (·.created) = [none, some ⟨1714564800, 500000000⟩, some ⟨253402300799, 1000000000⟩,
      some ⟨1714564800, 500000000⟩, some ⟨-62167219200, 0⟩] ∧
    (∀ s ∈ dated, ∃ v, Signature.codec.decode v = .ok s) ∧
    (∀ s ∈ dated, ∀ i ∈ s.created, 0 ≤ i.year ∧ i.year ≤ 9999) ∧
    (∀ s ∈ dated, (SortSpec.lookup "signatureCreated" s.row).bind SortKind.dateOf = s.created) ∧
    ∃ sorted, ByDate .desc dated sorted ∧
      (SortSpec.mk "signatureCreated" .date .desc).apply (dated.map Signature.row) = sorted.map Signature.row ∧
      (SortSpec.mk "signatureCreated" .date .desc).apply (dated.map ProjectListing.row) =
        sorted.map ProjectListing.row := by
  have decoded : ∀ s ∈ dated, ∃ v, Signature.codec.decode v = .ok s := by
    intro s hs
    obtain ⟨v, -, hv⟩ := List.mem_filterMap.1 hs
    exact ⟨v, except_toOption_eq_some_iff.1 hv⟩
  have years : ∀ s ∈ dated, ∀ i ∈ s.created, 0 ≤ i.year ∧ i.year ≤ 9999 := by decide +kernel
  exact ⟨by decide +kernel, decoded, years, SortSpec.rows_sorted_by_date dated decoded years .desc⟩

end Sample
end SignatureDesk
