import ConsumerConnector.Catalog.Coding
import ConsumerConnector.Contract.Coding
import ConsumerConnector.ControlPlane.Call

/-! Calls and their answers by name and as JSON records. -/

namespace ConsumerConnector.Call

open Json (Tree)

def method : Call → String
  | getCatalog _ => "get_catalog"
  | startNegotiation _ => "start_negotiation"
  | getNegotiation _ => "get_negotiation"
  | getNegotiationState _ => "get_negotiation_state"
  | startTransfer _ => "start_transfer_process"
  | getTransfer _ => "get_transfer_process"
  | getTransferState _ => "get_transfer_process_state"

/-- What a call is about: a filter's value, an asset, or the id of a process. -/
def argument : Call → String
  | getCatalog q => (q.query.filter.map (·.right)).getD ""
  | startNegotiation q => q.offer.asset
  | startTransfer q => q.asset
  | getNegotiation id | getNegotiationState id | getTransfer id | getTransferState id => id

def name (c : Call) : String := c.method ++ ":" ++ c.argument

/-- The request that a call sends along. -/
def request? : Call → Option Json
  | getCatalog q => some q.toJson
  | startNegotiation q => some q.toJson
  | startTransfer q => some q.toJson
  | _ => none

def answerOfTree? : (c : Call) → Tree → Option c.Answer
  | getCatalog _ => Catalog.ofTree?
  | startNegotiation _ => Contract.Created.ofTree?
  | getNegotiation _ => Contract.Negotiation.ofTree?
  | getNegotiationState _ => Contract.StateReport.ofTree?
  | startTransfer _ => Contract.Created.ofTree?
  | getTransfer _ => Contract.Transfer.ofTree?
  | getTransferState _ => Contract.StateReport.ofTree?

def answerToJson : (c : Call) → c.Answer → Json
  | getCatalog _ => Catalog.toJson
  | startNegotiation _ => Contract.Created.toJson
  | getNegotiation _ => Contract.Negotiation.toJson
  | getNegotiationState _ => Contract.StateReport.toJson
  | startTransfer _ => Contract.Created.toJson
  | getTransfer _ => Contract.Transfer.toJson
  | getTransferState _ => Contract.StateReport.toJson

/-- A call with its request, or with an id, from the name of its method. -/
def ofRequest? (method : String) (t : Tree) : Option Call :=
  match method with
  | "get_catalog" => (Catalog.Request.ofTree? t).map getCatalog
  | "start_negotiation" => (Contract.NegotiationRequest.ofTree? t).map startNegotiation
  | "start_transfer_process" => (Contract.TransferRequest.ofTree? t).map startTransfer
  | "get_negotiation" => t.string?.map getNegotiation
  | "get_negotiation_state" => t.string?.map getNegotiationState
  | "get_transfer_process" => t.string?.map getTransfer
  | "get_transfer_process_state" => t.string?.map getTransferState
  | _ => none

end ConsumerConnector.Call
