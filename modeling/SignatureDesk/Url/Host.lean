/-
Hosts: an address of 32 bits, one of 128 bits in brackets, or a name. A name
whose last label is a number has to be an address.
-/
import SignatureDesk.Text.PrintTable
import SignatureDesk.Url.Percent

namespace SignatureDesk.Url

/-- Why a text is no address. -/
inductive Fault where
  | relative
  | emptyHost
  | hostName
  | hostCharacter
  | address4
  | address6
  | port
deriving Repr, DecidableEq

def Fault.text : Fault → String
  | .relative => "relative URL without a base"
  | .emptyHost => "empty host"
  | .hostName => "invalid international domain name"
  | .hostCharacter => "invalid domain character"
  | .address4 => "invalid IPv4 address"
  | .address6 => "invalid IPv6 address"
  | .port => "invalid port number"

inductive Host where
  | name (s : String)
  | address4 (n : Nat)
  /-- Eight numbers of 16 bits. -/
  | address6 (pieces : List Nat)
deriving Repr, DecidableEq

namespace Host

/-- The number that digits of a base write, when each is one of the base. -/
def ofBase? (base : Nat) (s : List Char) : Option Nat :=
  s.foldlM (fun n c => do
    let d ← Text.hexValue? c
    if d < base then some (n * base + d) else none) 0

/-- A number as it stands in an address: `0x` begins a hexadecimal one, a zero
before other digits an octal one. -/
def number? : List Char → Option Nat
  | [] => none
  | '0' :: 'x' :: rest => ofBase? 16 rest
  | '0' :: 'X' :: rest => ofBase? 16 rest
  | '0' :: c :: rest => ofBase? 8 (c :: rest)
  | s => ofBase? 10 s

/-- The labels of a name; one empty label at the end does not count. -/
def labels (s : List Char) : List (List Char) :=
  let parts := s.splitOn '.'
  if parts.length > 1 && parts.getLast? == some [] then parts.dropLast else parts

def endsInNumber (s : List Char) : Bool :=
  match (labels s).getLast? with
  | some last => (!last.isEmpty && last.all Text.isAsciiDigit) || (number? last).isSome
  | none => false

/-- An address of one to four numbers, the last of which fills the bytes left over. -/
def address4? (s : List Char) : Option Nat := do
  let parts := labels s
  if parts.length > 4 then none
  let numbers ← parts.mapM number?
  let last ← numbers.getLast?
  let front := numbers.dropLast
  if front.any (255 < ·) || Nat.pow 256 (4 - front.length) ≤ last then none
  else some (front.zipIdx.foldl (fun total (n, i) => total + n * Nat.pow 256 (3 - i)) last)

/-- A decimal number up to 255, without zeros in front. -/
def byte? (s : List Char) : Option Nat := do
  if s.isEmpty || (s.length > 1 && s.head? == some '0') || s.length > 3 then none
  let n ← ofBase? 10 s
  if n < 256 then some n else none

/-- A group of an address of 128 bits: up to four hexadecimal digits, or, at the
end, four decimal numbers for two groups. -/
def group? (final : Bool) (s : List Char) : Option (List Nat) :=
  if final && s.contains '.' then do
    match ← (s.splitOn '.').mapM byte? with
    | [a, b, c, d] => some [a * 256 + b, c * 256 + d]
    | _ => none
  else if s.isEmpty || s.length > 4 then none
  else (ofBase? 16 s).map ([·])

/-- Groups between colons. -/
def groups? (final : Bool) : List (List Char) → Option (List Nat)
  | [] => some []
  | [g] => group? final g
  | g :: rest => do some ((← group? false g) ++ (← groups? final rest))

/-- What stands before and behind the first double colon. -/
def splitGap : List Char → List Char × Option (List Char)
  | ':' :: ':' :: rest => ([], some rest)
  | [] => ([], none)
  | c :: rest => ((c :: (splitGap rest).1), (splitGap rest).2)

def groupsOf? (final : Bool) (s : List Char) : Option (List Nat) :=
  if s.isEmpty then some [] else groups? final (s.splitOn ':')

/-- Eight groups, or fewer with a double colon for the zeros left out. -/
def address6? (s : List Char) : Option (List Nat) := do
  match splitGap s with
  | (all, none) =>
    let pieces ← groupsOf? true all
    if pieces.length = 8 then some pieces else none
  | (front, some back) =>
    let front ← groupsOf? false front
    let back ← groupsOf? true back
    if front.length + back.length ≤ 7 then
      some (front ++ List.replicate (8 - front.length - back.length) 0 ++ back)
    else none

/-- Characters that no host holds. -/
def isForbidden (c : Char) : Bool :=
  c.toNat = 0 || "\t\n\r #/:<>?@[\\]^|".toList.contains c

/-- Characters that no name holds: those, controls and the percent sign, and past
ASCII those that have no printed form. -/
def isForbiddenInName (c : Char) : Bool :=
  isForbidden c || isControl c || c = '%' || c = '\ufffd' ||
    (!Text.isAscii c && Text.inRanges Text.unprintableRanges c)

/-- Characters that a name is read without: the soft hyphen, joiners without a
width, and selectors of a variant. -/
def isIgnored (c : Char) : Bool :=
  c.toNat = 0xAD || c.toNat = 0x200B || c.toNat = 0x2060 || c.toNat = 0xFEFF ||
    Text.inRanges [(0x180B, 0x180F), (0xFE00, 0xFE0F)] c

/-- The plain form of a character of a name: lower case, full-width ASCII as
ASCII, and any full stop as a point. -/
def nameChar (c : Char) : List Char :=
  if isIgnored c then []
  else if c.toNat = 0x3002 || c.toNat = 0xFF61 then ['.']
  else if 0xFF01 ≤ c.toNat && c.toNat ≤ 0xFF5E then [Text.asciiLowerChar (Char.ofNat (c.toNat - 0xFEE0))]
  else Text.lowerChar c

/-- The host of a web address. -/
def parse (s : List Char) : Except Fault Host :=
  match s with
  | '[' :: rest =>
    if rest.getLast? = some ']' then
      match address6? rest.dropLast with
      | some pieces => .ok (.address6 pieces)
      | none => .error .address6
    else .error .address6
  | s =>
    match Text.ofUtf8? (percentDecode s) with
    | none => .error .hostName
    | some decoded =>
      let name := decoded.toList.flatMap nameChar
      if name.any isForbiddenInName then .error .hostName
      else if name.isEmpty then .error .emptyHost
      else if endsInNumber name then
        match address4? name with
        | some n => .ok (.address4 n)
        | none => .error .address4
      else .ok (.name (String.ofList name))

/-- The host of an address of another scheme: in brackets, or any text without
forbidden characters. -/
def checkOpaque (s : List Char) : Except Fault Unit :=
  match s with
  | '[' :: rest =>
    if rest.getLast? = some ']' && (address6? rest.dropLast).isSome then .ok () else .error .address6
  | s => if s.any isForbidden then .error .hostCharacter else .ok ()

end Host
end SignatureDesk.Url
