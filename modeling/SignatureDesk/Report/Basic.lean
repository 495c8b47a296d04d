/-
What is reported of a saved listing: how many signatures there are of each class
and in each group, the current corporate signature in normal form, and everyone
who may contribute, by name.
-/
import SignatureDesk.Agreement.Reconcile
import SignatureDesk.Json.Reader

namespace SignatureDesk

structure Report where
  /-- The number of signatures of each class that occurs. -/
  classes : Counts
  partition : Partition
  corporate : Option Signature
  contributors : List Signature
deriving Repr, DecidableEq

namespace Report

def ofSignatures (records : List Signature) : Report :=
  let partition := Partition.ofList records
  { classes := classCounts records
    partition
    corporate := partition.currentCorporate?.map Signature.normalize
    contributors := Signature.sortByUserName partition.contributors }

/-- The size of each group. -/
def groups (r : Report) : List (String × Nat) :=
  [("ccla", r.partition.ccla.length),
   ("individual", r.partition.individual.length),
   ("employee", r.partition.employee.length),
   ("other", r.partition.other.length)]

def toJson (r : Report) : Json :=
  let counts (ns : List (String × Nat)) : Json := .obj (ns.map fun (name, n) => (name, .nat n))
  .obj
    [("counts", counts r.classes),
     ("partition", counts r.groups),
     ("currentCcla", Signature.codec.optional.encode r.corporate),
     ("contributors", Signature.codec.list.encode r.contributors)]

/-! ## Saved listings -/

/-- Why a text holds no listing. -/
inductive ListingFault where
  | notJson
  | badArray
  | badPage
deriving Repr, DecidableEq

/-- The listing that a text holds: an array of signatures, or a page of them. -/
def readListing (s : String) : Except ListingFault (List Signature) :=
  match Json.ofText? s with
  | none => .error .notJson
  | some (.arr items) => (Signature.codec.list.decode (.arr items)).mapError fun _ => .badArray
  | some v => ((SignaturePage.codec.decode v).map (·.records)).mapError fun _ => .badPage

end Report
end SignatureDesk
