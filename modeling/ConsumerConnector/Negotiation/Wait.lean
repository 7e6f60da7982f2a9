import ConsumerConnector.ControlPlane.Call
import ConsumerConnector.Credential.Basic
import ConsumerConnector.Polling
import ConsumerConnector.Program
import ConsumerConnector.Text.Mask

/-!
What is waited for on the way to a credential, and what a single look at it does: an agreement and a
transfer are looked up at the control plane, a credential among those that were delivered.
-/

namespace ConsumerConnector

open Contract

inductive Wait
  | agreement (negotiation : String)
  | transfer (id : String)
  /-- A credential stored for a contract since an instant. -/
  | credential (contract : String) (since : Nat)

namespace Wait

@[reducible] def Result : Wait → Type
  | agreement _ => String
  | transfer _ => Transfer
  | credential .. => Credential

def activity : Wait → String
  | agreement id => "waiting for contract negotiation '" ++ id ++ "'"
  | transfer id => "waiting for transfer process '" ++ id ++ "'"
  | credential contract _ =>
    "waiting for endpoint data reference of contract '" ++ Text.mask contract ++ "'"

end Wait

/-- What a look asks for. -/
inductive Query
  | call (c : Call)
  | stored (contract : String) (since : Nat)

namespace Query

@[reducible] def Reply : Query → Type
  | call c => c.Reply
  | stored .. => Option Credential

end Query

abbrev Look (α : Type) := ExceptT ClientError (Program Query Query.Reply) α

namespace Look

def call (c : Call) : Look c.Answer :=
  .mk (.perform (Query.call c) fun (r : c.Reply) => .done (r.mapError .transport))

def stored (contract : String) (since : Nat) : Look (Option Credential) :=
  .mk (.perform (Query.stored contract since) fun (r : Option Credential) => .done (.ok r))

/-- A finalized negotiation has an agreement. -/
def agreement (id : String) : Look (Option String) := do
  let report ← call (.getNegotiationState id)
  match report.process with
  | .finalized =>
    let n ← call (.getNegotiation id)
    match n.agreement.filter (!·.isEmpty) with
    | some agreement => return some agreement
    | none => throw (.negotiation id "finalized without a contract agreement id")
  | state =>
    if state.isFailure then throw (.negotiation id ("negotiation ended in state " ++ state.render))
    else return none

/-- A transfer that has started is read in full. -/
def transfer (id : String) : Look (Option Transfer) := do
  let report ← call (.getTransferState id)
  match report.process with
  | .started | .completed => return some (← call (.getTransfer id))
  | state =>
    if state.isFailure then
      throw (.transferProcess id ("transfer process ended in state " ++ state.render))
    else return none

end Look

/-- A single look at what is waited for. -/
def Wait.look : (w : Wait) → Look (Option w.Result)
  | .agreement id => Look.agreement id
  | .transfer id => Look.transfer id
  | .credential contract since => Look.stored contract since

/-- How long a wait may last, and how long it pauses between two looks. -/
structure Limits where
  ttl : Nat
  interval : Nat
  interval_pos : 0 < interval

namespace Limits

def plan (l : Limits) (w : Wait) : Polling.Plan := ⟨some l.ttl, l.interval, w.activity, l.interval_pos⟩

def make (w : Wait) (ttl interval : Nat) : Except ClientError Limits :=
  (Polling.Plan.make (some ttl) interval w.activity).map fun p => ⟨ttl, p.interval, p.interval_pos⟩

/-- How many looks at most begin in time. -/
def maxLooks (l : Limits) : Nat :=
  let pause := Polling.timed l.interval
  (l.ttl + pause - 1) / pause

end Limits

end ConsumerConnector
