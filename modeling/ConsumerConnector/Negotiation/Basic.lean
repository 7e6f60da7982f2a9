import ConsumerConnector.Catalog.Search
import ConsumerConnector.Credential.Cache
import ConsumerConnector.Negotiation.Wait
import ConsumerConnector.Policy.Store

/-!
From a catalog item to a transfer: a contract is negotiated unless an expired credential still names
one, and then a transfer under it is started. Both processes are polled until they decide.
-/

namespace ConsumerConnector

/-- What a task does: it calls the control plane or waits. -/
inductive Action
  | call (c : Call)
  | wait (w : Wait) (limits : Limits)

@[reducible] def Action.Reply : Action → Type
  | call c => c.Reply
  | wait w _ => Except ClientError w.Result

abbrev Task (α : Type) := ExceptT ClientError (Program Action Action.Reply) α

namespace Task

def call (c : Call) : Task c.Answer :=
  .mk (.perform (Action.call c) fun (r : c.Reply) => .done (r.mapError .transport))

def fail {α : Type} (e : ClientError) : Task α := .mk (.done (.error e))

def wait (w : Wait) (limits : Limits) : Task w.Result :=
  .mk (.perform (Action.wait w limits) fun (r : Except ClientError w.Result) => .done r)

/-- Waits within limits, which have to be sound. -/
def await (w : Wait) (ttl interval : Nat) : Task w.Result :=
  match Limits.make w ttl interval with
  | .ok limits => wait w limits
  | .error e => fail e

/-- Gives a task that runs out of time a failure of its own. -/
def onTimeout {α : Type} (t : Task α) (failure : ClientError → ClientError) : Task α :=
  tryCatch t fun e => match e with
    | .timeout .. => fail (failure e)
    | e => fail e

end Task

namespace Negotiation

open Contract

structure Settings where
  negotiationTtl : Nat
  transferTtl : Nat
  pollInterval : Nat
  callback : Option String
  suffix : String

def defaultTtl : Nat := 600000

def Settings.default : Settings :=
  ⟨defaultTtl, defaultTtl, Polling.defaultInterval, none, Address.defaultSuffix⟩

/-- Whether an offer may be negotiated for, by the policies accepted from a partner. -/
def checkPolicy (store : Policy.Store) (now : Timestamp) (item : Catalog.Item) (partner : String) :
    Except ClientError Unit :=
  let diagnostics : PolicyDiagnostics :=
    ⟨item.asset, item.connector, item.policy, store.validFor item.connector now⟩
  if !store.isValid item.policy partner then .error (.policyPermission diagnostics)
  else if store.isExpired item.policy partner now then .error (.policyExpired diagnostics)
  else .ok ()

def negotiationRequest (address : String) (item : Catalog.Item) : NegotiationRequest where
  protocol := Catalog.protocol
  connector := item.connector
  address := address
  offer := ⟨item.offer, item.asset, item.policy.withTarget item.asset⟩
  callbacks := []

def transferType : String := "HttpData-PULL"

def destinationType : String := "HttpProxy"

def receiverKey : String := "receiverHttpEndpoint"

def startedEvent : String := "transfer.process.started"

def transferRequest (settings : Settings) (address : String) (item : Catalog.Item)
    (contract : String) : TransferRequest where
  protocol := Catalog.protocol
  connector := item.connector
  address := address
  transferType := transferType
  contract := contract
  asset := item.asset
  destinationType := destinationType
  privateProperties := (settings.callback.map fun uri => (∅ : Dictionary String).insert receiverKey
    uri).getD ∅
  callbacks := (settings.callback.map fun uri => [⟨uri, [startedEvent], false⟩]).getD []

/-- Negotiates a contract and gives its agreement. -/
def contract (settings : Settings) (address : String) (item : Catalog.Item) : Task String := do
  let created ← Task.call (.startNegotiation (negotiationRequest address item))
  (Task.await (.agreement created.id) settings.negotiationTtl settings.pollInterval).onTimeout
    fun late => .negotiation created.id late.message

def transfer (settings : Settings) (q : TransferRequest) : Task Transfer := do
  let created ← Task.call (.startTransfer q)
  (Task.await (.transfer created.id) settings.transferTtl settings.pollInterval).onTimeout
    fun late => .transferProcess created.id late.message

/-- Acquires a transfer for an item, given what the consumer's own credential is good for. -/
def negotiate (settings : Settings) (store : Policy.Store) (now : Timestamp) (endpoint : String)
    (item : Catalog.Item) (status : Credential.Status) (partner : String) : Task Transfer := do
  let address := Address.withSuffix endpoint settings.suffix
  let agreement ← match status with
    | .requiredNew =>
      match checkPolicy store now item partner with
      | .error e => Task.fail e
      | .ok () => contract settings address item
    | .expired stale => pure stale.contract
    | .valid _ =>
      Task.fail (.illegalState ("credential for asset '" ++ item.asset ++
        "' is still valid; no negotiation required"))
  transfer settings (transferRequest settings address item agreement)

end Negotiation

end ConsumerConnector
