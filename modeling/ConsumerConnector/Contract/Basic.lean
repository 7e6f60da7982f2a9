import ConsumerConnector.Catalog.Basic
import ConsumerConnector.Text.Blank

/-!
What consumer and provider tell each other on the way from an offer to data: the request to negotiate
a contract, the request to transfer, and the states both processes pass through.
-/

namespace ConsumerConnector.Contract

inductive ProcessState
  | requested | finalized | started | completed | terminated | error
  | other (raw : String)
  deriving DecidableEq, Repr

namespace ProcessState

/-- The state with a name in upper case. -/
def named? : String → Option ProcessState
  | "REQUESTED" => some requested
  | "FINALIZED" => some finalized
  | "STARTED" => some started
  | "COMPLETED" => some completed
  | "TERMINATED" => some terminated
  | "ERROR" => some error
  | _ => none

/-- Case and blanks around the name do not matter. -/
def parse (raw : String) : ProcessState :=
  (named? (Text.upperAscii (Text.trim raw))).getD (other raw)

def render : ProcessState → String
  | requested => "REQUESTED"
  | finalized => "FINALIZED"
  | started => "STARTED"
  | completed => "COMPLETED"
  | terminated => "TERMINATED"
  | error => "ERROR"
  | other raw => raw

def isFailure : ProcessState → Bool
  | terminated | error => true
  | _ => false

end ProcessState

structure CallbackAddress where
  uri : String
  events : List String
  transactional : Bool
  deriving DecidableEq

structure OfferDescription where
  offer : String
  asset : String
  policy : Policy

structure NegotiationRequest where
  protocol : String
  connector : String
  address : String
  offer : OfferDescription
  callbacks : List CallbackAddress

structure Negotiation where
  id : String
  agreement : Option String
  state : String
  errorDetail : Option String
  deriving DecidableEq

structure TransferRequest where
  protocol : String
  connector : String
  address : String
  transferType : String
  contract : String
  asset : String
  destinationType : String
  privateProperties : Dictionary String
  callbacks : List CallbackAddress

structure Transfer where
  id : String
  state : String
  contract : String
  asset : String
  errorDetail : Option String
  deriving DecidableEq

/-- The name of a process that was started. -/
structure Created where
  id : String
  deriving DecidableEq

structure StateReport where
  state : String
  deriving DecidableEq

def StateReport.process (r : StateReport) : ProcessState := .parse r.state

end ConsumerConnector.Contract
