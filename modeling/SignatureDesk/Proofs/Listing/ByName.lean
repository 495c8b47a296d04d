/-
Signatures sorted by user name, as records and as rows. A record is written with its user
name under one key, or without that key, so a path of the key finds the name in the
row and nothing where there is none (`lookup_userName`). The two sorts then compare
the same texts, as long as there is no white space to trim, and both are stable:
writing the sorted records gives the sorted rows (`rows_sorted_by_userName`).
-/
import SignatureDesk.Proofs.Json.RoundTrip
import SignatureDesk.Proofs.Listing.Presses
import SignatureDesk.Proofs.Reconcile.Paging

namespace SignatureDesk

open Json Fields

namespace Text

/-- A text that does not begin or end with white space. -/
def IsTight (s : String) : Prop :=
  (∀ c ∈ s.toList.head?, isWhite c = false) ∧ ∀ c ∈ s.toList.getLast?, isWhite c = false

instance (s : String) : Decidable (IsTight s) :=
  decidable_of_iff ((s.toList.head?.all (!isWhite ·) && s.toList.getLast?.all (!isWhite ·)) = true)
    (by simp [IsTight, Option.all_eq_true])

theorem IsTight.trim_eq {s : String} (h : IsTight s) : trim s = s := by
  obtain ⟨hfirst, hlast⟩ := h
  have start : s.toList.dropWhile isWhite = s.toList := by
    refine List.dropWhile_eq_self_iff.2 fun hpos => ?_
    have hhead := hfirst (s.toList[0]) (by rw [List.head?_eq_getElem?, List.getElem?_eq_getElem hpos]; rfl)
    simp [hhead]
  have finish : s.toList.rdropWhile isWhite = s.toList := by
    refine List.rdropWhile_eq_self_iff.2 fun hne => ?_
    have hend := hlast (s.toList.getLast hne) (by rw [List.getLast?_eq_some_getLast hne]; rfl)
    simp [hend]
  rw [trim, trimChars_eq, start, finish, String.ofList_toList]

end Text

namespace Signature

/-- A record as a row: an object with its members sorted by key. -/
def row (s : Signature) : Json := (codec.encode s).canonical

/-- A member of the row is the one of the record, its own members sorted as well. -/
theorem get?_row (s : Signature) (key : String) : s.row.get? key = ((codec.encode s).get? key).map canonical := by
  refine InOrder.get?_canonical ?_ ?_ _ key
  · iterate 16 refine InOrder.cons ?_
    exact nil_inOrder
  · decide

theorem get?_row_userName (s : Signature) : s.row.get? "userName" = s.userName.map .str := by
  rw [get?_row]
  simp (disch := decide) only [codec, Codec.map, Codec.record, Json.get?, required, defaulted, omitted,
    lookup_toMembers_of_ne, lookup_toMembers_self]
  cases s.userName <;> rfl

end Signature

namespace SortSpec

/-- A key without points leads to what stands under it. -/
theorem lookup_key {key : String} (hkey : pathKeys key.toList = [key.toList]) (row : Json) :
    lookup key row = (row.get? key).filter (!·.isNull) := by
  rw [lookup, hkey, follow, String.ofList_toList]
  cases row.get? key <;> rfl

theorem lookup_userName {row : Json} {name : Option String} (h : row.get? "userName" = name.map .str) :
    lookup "userName" row = name.map .str := by
  rw [lookup_key (by decide), h]
  cases name <;> rfl

/-- Rows are compared by user name as their records are. -/
theorem compareRows_userName {row row' : Json} {name name' : Option String} (h : row.get? "userName" = name.map .str)
    (h' : row'.get? "userName" = name'.map .str) (htight : ∀ n ∈ name, Text.IsTight n)
    (htight' : ∀ n ∈ name', Text.IsTight n) :
    (SortSpec.mk "userName" .text .asc).compareRows row row' = Entries.compareNames name name' := by
  rw [compareRows_eq, order, lookup_userName h, lookup_userName h', Entries.compareNames_eq]
  cases name with
  | none => cases name' <;> rfl
  | some n =>
    cases name' with
    | none => rfl
    | some n' =>
      simp only [Option.map_some, missingLast]
      rw [(htight n rfl).trim_eq, (htight' n' rfl).trim_eq]
      rfl

/-- Records in whose rows the user name stands come out in one order, sorted before they are written or after. -/
theorem apply_map_row {row : Signature → Json} (h : ∀ s, (row s).get? "userName" = s.userName.map .str)
    {records : List Signature} (htight : ∀ s ∈ records, ∀ name ∈ s.userName, Text.IsTight name) :
    (SortSpec.mk "userName" .text .asc).apply (records.map row) =
      (Entries.sortByName (·.userName) records).map row := by
  refine (List.map_mergeSort fun s hs t ht => ?_).symm
  rw [compareRows_userName (h s) (h t) (htight s hs) (htight t ht)]

/-- **The two sorts by user name.** Let no user name of some records begin or end with white space. Sorting
the rows that the records are written as by user name, as text and ascending, then gives the rows of the
records sorted by user name, in that order: be the rows those of records alone, or those of a
listing, with their classes. -/
theorem rows_sorted_by_userName (records : List Signature)
    (h : ∀ s ∈ records, ∀ name ∈ s.userName, Text.IsTight name) :
    (SortSpec.mk "userName" .text .asc).apply (records.map Signature.row) =
      (Entries.sortByName (·.userName) records).map Signature.row ∧
    (SortSpec.mk "userName" .text .asc).apply (records.map ProjectListing.row) =
      (Entries.sortByName (·.userName) records).map ProjectListing.row := by
  have hlisted : ∀ s, (ProjectListing.row s).get? "userName" = s.userName.map .str := by
    intro s
    rw [ProjectListing.get?_row, if_neg (by decide)]
    exact s.get?_row_userName
  exact ⟨apply_map_row Signature.get?_row_userName h, apply_map_row hlisted h⟩

end SortSpec

namespace Sample

/-- A record with a user name, or without one. -/
def named (id : String) (userName : Option String) : Signature :=
  ⟨id, .cla, .user, "", none, none, "p-1", userName, none, none, true, true, none, none, none, none⟩

/-- Names missing, empty, twice the same, and different in case alone. -/
def names : List Signature :=
  [named "1" none, named "2" (some "ada"), named "3" (some "Bob"), named "4" (some ""), named "5" (some "Ada"),
    named "6" (some "ada"), named "7" none]

theorem names_sorted :
    (∀ s ∈ names, ∀ name ∈ s.userName, Text.IsTight name) ∧
    (SortSpec.mk "userName" .text .asc).apply (names.map Signature.row) =
      (Entries.sortByName (·.userName) names).map Signature.row ∧
    (SortSpec.mk "userName" .text .asc).apply (names.map ProjectListing.row) =
      (Entries.sortByName (·.userName) names).map ProjectListing.row := by
  have tight : ∀ s ∈ names, ∀ name ∈ s.userName, Text.IsTight name := by decide
  exact ⟨tight, SortSpec.rows_sorted_by_userName names tight⟩

end Sample
end SignatureDesk
