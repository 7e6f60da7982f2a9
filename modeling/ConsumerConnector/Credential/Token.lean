import ConsumerConnector.Credential.Basic
import ConsumerConnector.Text.Base64
import ConsumerConnector.Text.Segment
import ConsumerConnector.Timestamp

/-!
The claims inside a credential's token. A token has parts between points, and the second part is
JSON text in Base64.
-/

namespace ConsumerConnector.Credential

open Json (Tree)

structure Claims where
  expiry : Int
  contract : String
  address : String
  deriving DecidableEq, Repr

namespace Claims

def ofTree? (t : Tree) : Option Claims := do
  let r ← t.record? ["exp", "cid", "dad"]
  return {
    expiry := ← r.required "exp" Tree.int?
    contract := ← r.withDefault "cid" Tree.string? ""
    address := ← r.withDefault "dad" Tree.string? "" }

def toJson (c : Claims) : Json :=
  .ofFields [("exp", .ofInt c.expiry), ("cid", .string c.contract), ("dad", .string c.address)]

/-- Padding after the second part is passed over. -/
def ofToken? (token : String) : Option Claims := do
  let payload ← (Text.pieces '.' token.toList)[1]?
  let digits := (payload.reverse.dropWhile (· == '=')).reverse
  let bytes ← Text.Base64.decode .urlSafe digits
  ofTree? (← Tree.ofBytes? ⟨bytes.toArray⟩)

def isValidAt (c : Claims) (now : Timestamp) : Bool :=
  now.unix < c.expiry

end Claims

def claims? (c : Credential) : Option Claims :=
  c.authCode.bind Claims.ofToken?

end ConsumerConnector.Credential
