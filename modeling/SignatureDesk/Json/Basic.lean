/-
JSON values. Numbers are either integers of 64 bits or binary64 numbers, and
the two never mix: an integer is not a float with the same value. The members
of an object stand in a list; a canonical value has them sorted by key without
repetition, and `canonical` brings any value into that form, the last of several
members with one key winning.

A value read from a text can also hold places where the text had none to give,
so that a reader who looks only at part of a text fails only for that part.
-/
import SignatureDesk.Number.Binary64

namespace SignatureDesk

/-- A JSON number: an integer from `-2^63` to `2^64 - 1`, or a finite float. -/
inductive Number where
  | int (z : Int)
  | float (x : Binary64)
deriving Repr, DecidableEq

/-- The number as a float, rounded when it is an integer past `2^53`. -/
def Number.toBinary64 : Number → Binary64
  | .int z => .ofInt z
  | .float x => x

/-- Equality of values; the two float zeros are equal, an integer and a float never. -/
def Number.same : Number → Number → Bool
  | .int a, .int b => a == b
  | .float a, .float b => a.scaled == b.scaled
  | _, _ => false

inductive Json where
  | null
  | bool (b : Bool)
  | num (n : Number)
  | str (s : String)
  | arr (items : List Json)
  | obj (members : List (String × Json))
  /-- A place without a value. When it is `delimited` the text goes on behind it
  (it held a number past the finite ones, half of a surrogate pair, or nesting
  past the limit); otherwise the text is no JSON from there on. -/
  | unread (delimited : Bool)
deriving Repr, Inhabited

/-- The members of an object. -/
abbrev Members := List (String × Json)

namespace Json

/-- Puts a member in its place by key, replacing one with the same key. -/
def insertMember (key : String) (value : Json) : Members → Members
  | [] => [(key, value)]
  | (k, v) :: rest =>
    match compare key k with
    | .lt => (key, value) :: (k, v) :: rest
    | .eq => (key, value) :: rest
    | .gt => (k, v) :: insertMember key value rest

/-- The members sorted by key, the last with a key winning. -/
def sortMembers (ms : Members) : Members := ms.foldl (fun acc m => insertMember m.1 m.2 acc) []

mutual

/-- Sorts the members of every object. -/
def canonical : Json → Json
  | .arr items => .arr (canonicalItems items)
  | .obj members => .obj (sortMembers (canonicalMembers members))
  | v => v

def canonicalItems : List Json → List Json
  | [] => []
  | v :: rest => v.canonical :: canonicalItems rest

def canonicalMembers : Members → Members
  | [] => []
  | (k, v) :: rest => (k, v.canonical) :: canonicalMembers rest

end

mutual

/-- No place of the value is unread. -/
def intact : Json → Bool
  | .arr items => intactItems items
  | .obj members => intactMembers members
  | .unread _ => false
  | _ => true

def intactItems : List Json → Bool
  | [] => true
  | v :: rest => v.intact && intactItems rest

def intactMembers : Members → Bool
  | [] => true
  | (_, v) :: rest => v.intact && intactMembers rest

end

mutual

/-- Every unread place is one that the text goes on behind. -/
def delimited : Json → Bool
  | .arr items => delimitedItems items
  | .obj members => delimitedMembers members
  | .unread d => d
  | _ => true

def delimitedItems : List Json → Bool
  | [] => true
  | v :: rest => v.delimited && delimitedItems rest

def delimitedMembers : Members → Bool
  | [] => true
  | (_, v) :: rest => v.delimited && delimitedMembers rest

end

mutual

/-- Equality of values, member by member. -/
def same : Json → Json → Bool
  | .null, .null => true
  | .bool a, .bool b => a == b
  | .num a, .num b => a.same b
  | .str a, .str b => a == b
  | .arr a, .arr b => sameItems a b
  | .obj a, .obj b => sameMembers a b
  | _, _ => false

def sameItems : List Json → List Json → Bool
  | [], [] => true
  | a :: as, b :: bs => a.same b && sameItems as bs
  | _, _ => false

def sameMembers : Members → Members → Bool
  | [], [] => true
  | (k, a) :: as, (l, b) :: bs => k == l && a.same b && sameMembers as bs
  | _, _ => false

end

def isNull : Json → Bool
  | .null => true
  | _ => false

/-- The member of an object with a key; other values have none. -/
def get? (v : Json) (key : String) : Option Json :=
  match v with
  | .obj members => members.lookup key
  | _ => none

def str? : Json → Option String
  | .str s => some s
  | _ => none

def nat (n : Nat) : Json := .num (.int n)

def int (z : Int) : Json := .num (.int z)

/-- A text, or null. -/
def ofOption : Option String → Json
  | some s => .str s
  | none => .null

def strs (ss : List String) : Json := .arr (ss.map .str)

end Json
end SignatureDesk
