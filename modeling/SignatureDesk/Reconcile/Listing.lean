/-
The listing of a project: page after page until one has no cursor or the limit
is reached, every record with its class.
-/
import SignatureDesk.Agreement.Reconcile
import SignatureDesk.Reconcile.Lookup

namespace SignatureDesk

structure ProjectListing where
  projectId : String
  signatures : List Signature
  /-- How many pages were fetched. -/
  pages : Nat
  /-- The last page fetched was not the last one. -/
  truncated : Bool
deriving Repr, DecidableEq

namespace ProjectListing

/-- A record with its class, in canonical form. -/
def row (s : Signature) : Json :=
  match Signature.codec.encode s with
  | .obj members =>
    (Json.obj (members ++ [("classification", SignatureClass.codec.encode s.classify)])).canonical
  | v => v

def rows (l : ProjectListing) : List Json := l.signatures.map row

/-- How many rows there are of each class, by name. The classes are counted as the
records have got them, behind the walk. -/
def counts (l : ProjectListing) : Counts :=
  (l.signatures.map Signature.classify).foldl (fun counts c => counts.more c.name) []

/-- Numbers under names. -/
def countsJson (counts : Counts) : Json :=
  .obj (counts.map fun (name, n) => (name, .nat n))

/-- The listing with its rows in a given order. -/
def toJson (l : ProjectListing) (rows : List Json) : Json :=
  .obj
    [("projectId", .str l.projectId),
     ("signatures", .arr rows),
     ("counts", countsJson l.counts),
     ("pagesFetched", .nat l.pages),
     ("truncated", .bool l.truncated)]

/-- What a walk has gathered: the records, the number of pages, and whether it
was cut short. -/
structure Walk where
  signatures : List Signature
  pages : Nat
  truncated : Bool

/-- Fetches a page and, while it has a cursor and `more` pages may follow, the
ones after it. -/
def walk (projectId : String) : Nat → PageQuery → ExceptT Failure Search Walk
  | 0, query => do
    let page ← Search.need (.page projectId query)
    let page : SignaturePage := page
    return ⟨page.records, 1, page.cursor?.isSome⟩
  | more + 1, query => do
    let page ← Search.need (.page projectId query)
    let page : SignaturePage := page
    match page.cursor? with
    | none => return ⟨page.records, 1, false⟩
    | some key => do
      let rest ← walk projectId more { query with nextKey := some key }
      return ⟨page.records ++ rest.signatures, rest.pages + 1, rest.truncated⟩

/-- Fetches a listing, with a page size for callers who ask for none; there is
always a first page. -/
def load (pageSize : UInt32) (maxPages : Nat) (projectId : String) (filter : PageQuery) :
    ExceptT Failure Search ProjectListing := do
  let query := { filter with pageSize := some (filter.pageSize.getD pageSize) }
  let w ← walk projectId (maxPages - 1) query
  return ⟨projectId, w.signatures, w.pages, w.truncated⟩

end ProjectListing
end SignatureDesk
