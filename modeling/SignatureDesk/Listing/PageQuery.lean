/-
What a caller may ask of a signature listing: how long a page is, where it
starts, and which records it holds.
-/
import SignatureDesk.Json.Codec

namespace SignatureDesk

structure PageQuery where
  pageSize : Option UInt32
  nextKey : Option String
  claType : Option String
  searchTerm : Option String
  searchField : Option String
  fullMatch : Option Bool
deriving Repr, DecidableEq

namespace PageQuery

def empty : PageQuery := ⟨none, none, none, none, none, none⟩

def codec : Codec PageQuery :=
  (Codec.record
    (.nullable "pageSize" [] .word32 <|
     .nullable "nextKey" [] .text <|
     .nullable "claType" [] .text <|
     .nullable "searchTerm" [] .text <|
     .nullable "searchField" [] .text <|
     .nullable "fullMatch" [] .flag .nil)).map
    (fun (size, key, type, term, field, full, ()) => ⟨size, key, type, term, field, full⟩)
    (fun q => (q.pageSize, q.nextKey, q.claType, q.searchTerm, q.searchField, q.fullMatch, ()))

/-- One pair, when there is a value. -/
def pair (key : String) (value : Option String) : List (String × String) :=
  (value.map (key, ·)).toList

/-- The query as pairs. Empty keys and terms do not count, and what a search is
restricted to counts only where there is one. -/
def toPairs (q : PageQuery) : List (String × String) :=
  pair "pageSize" (q.pageSize.map fun n => toString n.toNat) ++
  pair "nextKey" (q.nextKey.filter (!·.isEmpty)) ++
  pair "claType" q.claType ++
  match q.searchTerm.filter (!·.isEmpty) with
  | some term =>
    ("searchTerm", term) :: (pair "searchField" q.searchField ++
      pair "fullMatch" (q.fullMatch.map fun b => if b then "true" else "false"))
  | none => []

end PageQuery
end SignatureDesk
