/-
Values of configuration layers: what a file or an environment gives before it is
known which field it is for. A field takes what can be converted to it, so a
number may be given as text and a text as a number.
-/
import SignatureDesk.Number.Float64

namespace SignatureDesk.Config

inductive Value where
  | nil
  | flag (b : Bool)
  | int (z : Int)
  | float (x : Float64)
  | text (s : String)
  | list (items : List Value)
  | table (entries : List (String × Value))
deriving Repr, Inhabited

namespace Value

/-- The entries of a table; other values have none. -/
def entries : Value → List (String × Value)
  | .table es => es
  | _ => []

def items : Value → List Value
  | .list vs => vs
  | _ => []

/-- The value as a text. -/
def text? : Value → Option String
  | .text s => some s
  | .flag b => some (if b then "true" else "false")
  | .int z => some (toString z)
  | .float x => some x.write
  | _ => none

/-- The number that a text stands for: a word for yes or no, or digits. -/
def wordOfText? (s : String) : Option Nat :=
  match Text.lower s with
  | "true" | "on" | "yes" => some 1
  | "false" | "off" | "no" => some 0
  | _ =>
    let digits := match s.toList with
      | '+' :: rest => rest
      | rest => rest
    if digits.isEmpty || !digits.all Text.isAsciiDigit then none else some (Instant.ofDigits digits)

/-- The value as a natural number of 64 bits. -/
def word? : Value → Option Nat
  | .int z => if 0 ≤ z then some z.toNat else none
  | .text s => (wordOfText? s).filter (· < Nat.pow 2 64)
  | .flag b => some (if b then 1 else 0)
  | .float x => some (x.saturate (Nat.pow 2 64))
  | _ => none

/-! ## Entries -/

/-- Sets an entry, in place when its name is there already. -/
def setEntry (name : String) (v : Value) : List (String × Value) → List (String × Value)
  | [] => [(name, v)]
  | (k, w) :: rest => if k = name then (k, v) :: rest else (k, w) :: setEntry name v rest

mutual

/-- Puts a value under a name, which is lowered: a table joins a table that is
there, and anything else replaces what is there. -/
def put (root : Value) (name : String) (v : Value) : Value :=
  let name := Text.lower name
  match v with
  | .table incoming =>
    .table (setEntry name (putAll ((root.entries.lookup name).getD (.table [])) incoming) root.entries)
  | v => .table (setEntry name v root.entries)

def putAll (target : Value) : List (String × Value) → Value
  | [] => target
  | (name, v) :: rest => putAll (put target name v) rest

end

end Value
end SignatureDesk.Config
