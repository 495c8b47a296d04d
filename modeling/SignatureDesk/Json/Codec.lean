/-
Codecs: how a type stands in JSON, both ways. A codec of a structure is put
together from its fields, each with its spellings (the first is the one that is
written), its own codec, what a missing one means and whether it is left out
when written.

Reading walks the members in the order of the text, so the first fault met is
the one reported. It is either one of shape (a value that the type does not
take, a field that is missing or given twice) or one of the text itself.
-/
import SignatureDesk.Json.Basic

namespace SignatureDesk

/-- Why a value was not read. -/
inductive Fault where
  /-- The value is JSON, but not of the type. -/
  | shape
  /-- The text is not JSON, or holds what no value can represent. -/
  | text
deriving Repr, DecidableEq, Inhabited

structure Codec (α : Type) where
  decode : Json → Except Fault α
  encode : α → Json

namespace Codec

variable {α β γ : Type}

/-- The fault of a value that a type of another shape was asked to read. -/
def misfit : Json → Fault
  | .unread _ => .text
  | _ => .shape

/-- The same JSON for another type. -/
def map (into : α → β) (back : β → α) (c : Codec α) : Codec β :=
  ⟨fun v => (c.decode v).map into, fun b => c.encode (back b)⟩

/-- A codec for the values that `into` accepts. -/
def filterMap (into : α → Option β) (back : β → α) (c : Codec α) : Codec β :=
  ⟨fun v => do
    let a ← c.decode v
    (into a).elim (.error .shape) .ok,
   fun b => c.encode (back b)⟩

/-- Any JSON value, brought into canonical form. -/
def any : Codec Json :=
  ⟨fun v => if v.intact then .ok v.canonical else .error .text, id⟩

def text : Codec String :=
  ⟨fun v => match v with
    | .str s => .ok s
    | v => .error (misfit v),
   .str⟩

def flag : Codec Bool :=
  ⟨fun v => match v with
    | .bool b => .ok b
    | v => .error (misfit v),
   .bool⟩

/-- An integer, which no float is. -/
def integer : Codec Int :=
  ⟨fun v => match v with
    | .num (.int z) => .ok z
    | v => .error (misfit v),
   .int⟩

/-- An integer from 0 up to a bound. -/
def word (bound : Nat) (into : Nat → α) (back : α → Nat) : Codec α :=
  integer.filterMap (fun z : Int => if 0 ≤ z ∧ z < bound then some (into z.toNat) else none)
    (fun a => (back a : Int))

def word16 : Codec UInt16 := word (Nat.pow 2 16) .ofNat UInt16.toNat

def word32 : Codec UInt32 := word (Nat.pow 2 32) .ofNat UInt32.toNat

def word64 : Codec UInt64 := word (Nat.pow 2 64) .ofNat UInt64.toNat

/-- A signed integer of 64 bits. -/
def int64 : Codec Int64 :=
  let bound : Nat := Nat.pow 2 63
  integer.filterMap (fun z => if -(bound : Int) ≤ z ∧ z < bound then some (.ofInt z) else none)
    Int64.toInt

/-- Null stands for none. -/
def optional (c : Codec α) : Codec (Option α) :=
  ⟨fun v => match v with
    | .null => .ok none
    | v => (c.decode v).map some,
   fun o => match o with
    | none => .null
    | some a => c.encode a⟩

/-- Reads the items of an array one after the other. -/
def decodeItems (c : Codec α) : List Json → Except Fault (List α)
  | [] => .ok []
  | v :: rest => do
    let a ← c.decode v
    let as ← decodeItems c rest
    .ok (a :: as)

def list (c : Codec α) : Codec (List α) :=
  ⟨fun v => match v with
    | .arr items => decodeItems c items
    | v => .error (misfit v),
   fun as => .arr (as.map c.encode)⟩

/-- One of a set of names. The object form `{name: null}` is read too. -/
def name (ofName : String → Option α) (toName : α → String) : Codec α :=
  ⟨fun v => match v with
    | .str s => (ofName s).elim (.error .shape) .ok
    | .obj [(s, .null)] => (ofName s).elim (.error .shape) .ok
    | v => .error (misfit v),
   fun a => .str (toName a)⟩

end Codec

/-! ## Structures -/

/-- What the absence of a field means. -/
inductive Missing (α : Type) where
  | refuse
  /-- A value when an object leaves the field out; an array may not. -/
  | absent (a : α)
  /-- A value in either form. -/
  | default (a : α)

/-- What an object without the field gives. -/
def Missing.inObject {α : Type} : Missing α → Except Fault α
  | .refuse => .error .shape
  | .absent a => .ok a
  | .default a => .ok a

/-- What an array that ends before the field gives. -/
def Missing.inArray {α : Type} : Missing α → Except Fault α
  | .refuse => .error .shape
  | .absent _ => .error .shape
  | .default a => .ok a

/-- The fields of a structure, some of them read so far. -/
structure Fields (α : Type) where
  /-- The fields read so far. -/
  Slots : Type
  start : Slots
  /-- All spellings of all fields. -/
  names : List String
  /-- Reads a member into its slot; none when no field has that spelling. -/
  put : Slots → String → Json → Option (Except Fault Slots)
  finish : Slots → Except Fault α
  /-- Reads the fields off the front of an array. -/
  ofItems : List Json → Except Fault (α × List Json)
  toMembers : α → Members

namespace Fields

variable {α β γ : Type}

def nil : Fields Unit where
  Slots := Unit
  start := ()
  names := []
  put _ _ _ := none
  finish _ := .ok ()
  ofItems items := .ok ((), items)
  toMembers _ := []

/-- One more field in front. -/
def cons (key : String) (others : List String) (c : Codec β) (missing : Missing β)
    (leaveOut : β → Bool) (rest : Fields γ) : Fields (β × γ) where
  Slots := Option β × rest.Slots
  start := (none, rest.start)
  names := key :: others ++ rest.names
  put slots k v :=
    if (key :: others).contains k then
      match slots.1 with
      | some _ => some (.error .shape)
      | none => some ((c.decode v).map fun b => (some b, slots.2))
    else (rest.put slots.2 k v).map (·.map fun r => (slots.1, r))
  finish slots := do
    let b ← match slots.1 with
      | some b => .ok b
      | none => missing.inObject
    let r ← rest.finish slots.2
    .ok (b, r)
  ofItems items :=
    match items with
    | [] => do
      let b ← missing.inArray
      let (r, left) ← rest.ofItems []
      .ok ((b, r), left)
    | v :: items => do
      let b ← c.decode v
      let (r, left) ← rest.ofItems items
      .ok ((b, r), left)
  toMembers p := (if leaveOut p.1 then [] else [(key, c.encode p.1)]) ++ rest.toMembers p.2

/-- A field that has to be there. -/
def required (key : String) (others : List String) (c : Codec β) (rest : Fields γ) :
    Fields (β × γ) :=
  cons key others c .refuse (fun _ => false) rest

/-- A field with a value for when it is missing. -/
def defaulted (key : String) (others : List String) (c : Codec β) (b : β) (rest : Fields γ) :
    Fields (β × γ) :=
  cons key others c (.default b) (fun _ => false) rest

/-- An optional field that is written as null. -/
def nullable (key : String) (others : List String) (c : Codec β) (rest : Fields γ) :
    Fields (Option β × γ) :=
  defaulted key others c.optional none rest

/-- An optional field that is left out when it is none. -/
def omitted (key : String) (others : List String) (c : Codec β) (rest : Fields γ) :
    Fields (Option β × γ) :=
  cons key others c.optional (.default none) Option.isNone rest

/-- A list that is left out when it is empty. -/
def nonempty (key : String) (others : List String) (c : Codec β) (rest : Fields γ) :
    Fields (List β × γ) :=
  cons key others c.list (.default []) List.isEmpty rest

/-- Skips the value of a member that no field takes. -/
def skip (v : Json) : Except Fault Unit := if v.delimited then .ok () else .error .text

/-- Reads members in order, ignoring those of other names. -/
def putAll (fs : Fields α) (slots : fs.Slots) : Members → Except Fault fs.Slots
  | [] => .ok slots
  | (k, v) :: rest =>
    match fs.put slots k v with
    | some r => do fs.putAll (← r) rest
    | none => do
      skip v
      fs.putAll slots rest

/-- Reads members in order, keeping those of other names. -/
def putKeeping (fs : Fields α) (slots : fs.Slots) (kept : Members) :
    Members → Except Fault (fs.Slots × Members)
  | [] => .ok (slots, kept)
  | (k, v) :: rest =>
    match fs.put slots k v with
    | some r => do fs.putKeeping (← r) kept rest
    | none => fs.putKeeping slots (Json.insertMember k v.canonical kept) rest

end Fields

namespace Codec

variable {α β : Type}

/-- A structure: an object, whose other members are ignored, or an array of its fields. -/
def record (fs : Fields α) : Codec α :=
  ⟨fun v => match v with
    | .obj members => do fs.finish (← fs.putAll fs.start members)
    | .arr items => do
      let (a, left) ← fs.ofItems items
      if left.isEmpty then .ok a else .error .text
    | v => .error (misfit v),
   fun a => .obj (fs.toMembers a)⟩

/-- A structure that keeps the members of other names: objects only, and every
member of them is read. -/
def recordKeeping (fs : Fields α) : Codec (α × Members) :=
  ⟨fun v => match v with
    | .obj members =>
      if Json.intactMembers members then do
        let (slots, kept) ← fs.putKeeping fs.start [] members
        .ok (← fs.finish slots, kept)
      else .error .text
    | v => .error (misfit v),
   fun p => .obj (fs.toMembers p.1 ++ p.2)⟩

/-- Reads a text that has to end with the value. -/
def ofRead (c : Codec α) (read : Json × Bool) : Except Fault α := do
  let a ← c.decode read.1
  if read.2 then .ok a else .error .text

end Codec
end SignatureDesk
