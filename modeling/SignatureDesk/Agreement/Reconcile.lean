/-
Reconciling a listing: what each record makes its signer, the split of a listing
into the groups the consoles show, the corporate signature they act on, and its
normal form.
-/
import SignatureDesk.Agreement.Signature
import SignatureDesk.AllowList.Entries

namespace SignatureDesk

/-- What a record says about its signer. -/
inductive SignatureClass where
  | individual
  | employee
  | company
  | unknown
deriving Repr, DecidableEq

namespace SignatureClass

def all : List SignatureClass := [.individual, .employee, .company, .unknown]

def name : SignatureClass → String
  | .individual => "individual"
  | .employee => "employee"
  | .company => "company"
  | .unknown => "unknown"

def ofName? (s : String) : Option SignatureClass := all.find? fun c => c.name == s

def codec : Codec SignatureClass := .name ofName? name

end SignatureClass

namespace Signature

/-- A user's agreement is an employee's when it names a company; a company's
agreement is one only when it names the company. -/
def classify (s : Signature) : SignatureClass :=
  match s.referenceType, s.type, s.hasCompanyName with
  | .user, .cla, false => .individual
  | .user, .cla, true => .employee
  | .company, .ccla, true => .company
  | _, _, _ => .unknown

/-- The signature with every allow-list present in normal form. -/
def normalize (s : Signature) : Signature := s.mapAllowLists Entries.normalize

/-- The order of the employee listing. -/
def sortByUserName (records : List Signature) : List Signature :=
  Entries.sortByName (·.userName) records

end Signature

/-- A listing in four groups, each in listing order. -/
structure Partition where
  ccla : List Signature
  individual : List Signature
  employee : List Signature
  other : List Signature
deriving Repr, DecidableEq

/-- The group of a record: its type decides first, its class after that. -/
inductive Bucket where
  | ccla
  | individual
  | employee
  | other
deriving Repr, DecidableEq

def Signature.bucket (s : Signature) : Bucket :=
  if s.type = .ccla then .ccla
  else
    match s.classify with
    | .individual => .individual
    | .employee => .employee
    | _ => .other

namespace Partition

def ofList (records : List Signature) : Partition where
  ccla := records.filter (·.bucket = .ccla)
  individual := records.filter (·.bucket = .individual)
  employee := records.filter (·.bucket = .employee)
  other := records.filter (·.bucket = .other)

def size (p : Partition) : Nat :=
  p.ccla.length + p.individual.length + p.employee.length + p.other.length

def isEmpty (p : Partition) : Bool := p.size == 0

/-- The corporate signature that counts: the first in listing order. -/
def currentCorporate? (p : Partition) : Option Signature := p.ccla.head?

/-- Everyone who may contribute: individuals, then employees. -/
def contributors (p : Partition) : List Signature := p.individual ++ p.employee

end Partition

/-- The current corporate signature of a listing, in normal form. -/
def SignaturePage.corporate? (p : SignaturePage) : Option Signature :=
  (Partition.ofList p.records).currentCorporate?.map Signature.normalize

/-- Numbers under names, sorted by name. -/
abbrev Counts := List (String × Nat)

/-- Counts one more under a name, the first one where the name has its place. -/
def Counts.more (name : String) : Counts → Counts
  | [] => [(name, 1)]
  | (other, n) :: rest =>
    match compare name other with
    | .lt => (name, 1) :: (other, n) :: rest
    | .eq => (other, n + 1) :: rest
    | .gt => (other, n) :: more name rest

/-- How many records there are of each class that occurs, by name; the records are
counted one by one. -/
def classCounts (records : List Signature) : Counts :=
  records.foldl (fun counts s => counts.more s.classify.name) []

end SignatureDesk
