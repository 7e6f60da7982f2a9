import ConsumerConnector.Catalog.Basic
import ConsumerConnector.Contract.Basic
import ConsumerConnector.Failure.Transport

/-!
The calls a consumer makes on its control plane, and what each of them answers. A plane answers calls
one after the other and may change its state with every call.
-/

namespace ConsumerConnector

open Contract

inductive Call
  | getCatalog (q : Catalog.Request)
  | startNegotiation (q : NegotiationRequest)
  | getNegotiation (id : String)
  | getNegotiationState (id : String)
  | startTransfer (q : TransferRequest)
  | getTransfer (id : String)
  | getTransferState (id : String)

namespace Call

@[reducible] def Answer : Call → Type
  | getCatalog _ => Catalog
  | startNegotiation _ => Created
  | getNegotiation _ => Negotiation
  | getNegotiationState _ => StateReport
  | startTransfer _ => Created
  | getTransfer _ => Transfer
  | getTransferState _ => StateReport

abbrev Reply (c : Call) : Type := Except TransportError c.Answer

/-- The provider a call is meant for; other calls stay at the control plane. -/
def address? : Call → Option String
  | getCatalog q => some q.address
  | startNegotiation q => some q.address
  | startTransfer q => some q.address
  | _ => none

end Call

/-- A control plane with states in `σ`. -/
def Plane (σ : Type) : Type := (c : Call) → σ → c.Reply × σ

end ConsumerConnector
