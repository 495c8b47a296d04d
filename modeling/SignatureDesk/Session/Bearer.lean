/-
The session that a request names in its authorization header.
-/
import SignatureDesk.Session.Id
import SignatureDesk.Text.White

namespace SignatureDesk

/-- The text of a header: only one of visible ASCII, spaces and tabs has one. -/
def headerText? (bytes : List UInt8) : Option String :=
  if bytes.all fun b => b = 9 || (32 ≤ b && b < 127) then
    some (String.ofList (bytes.map fun b => Char.ofNat b.toNat))
  else none

/-- The text behind a mark at the start. -/
def behind? (mark s : String) : Option String :=
  if mark.toList.isPrefixOf s.toList then some (String.ofList (s.toList.drop mark.length)) else none

/-- The id behind the word `Bearer`, white space around it aside. -/
def bearerSession (header : Option (List UInt8)) : Except Failure SessionId :=
  match header.bind headerText? with
  | none => .error (.unauthorized "missing session token")
  | some value =>
    match behind? "Bearer " value with
    | none => .error (.unauthorized "expected a bearer session token")
    | some token =>
      match SessionId.read? (Text.trim token) with
      | some id => .ok id
      | none => .error (.session "malformed session token")

end SignatureDesk
