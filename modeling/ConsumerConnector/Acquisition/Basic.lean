import ConsumerConnector.Negotiation.Basic

/-!
What it takes to acquire a credential for an asset at a provider: a transfer is negotiated, and then
the credential that the provider delivers under the transfer's contract is waited for.
-/

namespace ConsumerConnector.Acquisition

/-- The key under which the credential of an asset at an endpoint is kept. -/
def storageKey (asset endpoint : String) : String := asset ++ endpoint

structure Request where
  endpoint : String
  asset : String
  partner : String
  /-- Without it the item is looked up in the provider's catalog. -/
  item : Option Catalog.Item

def Request.key (q : Request) : String := storageKey q.asset q.endpoint

def Request.ofItem (endpoint : String) (item : Catalog.Item) (partner : String) : Request :=
  ⟨endpoint, item.asset, partner, some item⟩

/-- What a request gets: a credential that is still valid, or a place in the queue of those who wait
for the outcome of an acquisition. -/
inductive Ticket
  | ready (c : Credential)
  | ongoing (future : Nat)

/-- An item to acquire a credential for, and what the present credential is good for. -/
structure Order where
  endpoint : String
  partner : String
  item : Catalog.Item
  status : Credential.Status

structure Setup where
  negotiator : Order → Task Contract.Transfer
  requestTtl : Nat
  pollInterval : Nat

def noContract (t : Contract.Transfer) : ClientError :=
  .transferProcess t.id "transfer process carries no contract id"

/-- The contract to wait under: that of the transfer, else that of the expired credential. -/
def awaited (o : Order) (t : Contract.Transfer) : Except ClientError String :=
  if t.contract.isEmpty then
    match o.status with
    | .expired stale => .ok stale.contract
    | _ => .error (noContract t)
  else .ok t.contract

/-- What an acquisition does; only credentials stored since it started count. -/
def Setup.task (setup : Setup) (o : Order) (since : Nat) : Task Credential := do
  let t ← setup.negotiator o
  match awaited o t with
  | .ok contract => Task.await (.credential contract since) setup.requestTtl setup.pollInterval
  | .error e => Task.fail e

def isShutDown : ClientError := .interrupted "orchestrator is shut down"

/-- A provider that offers nothing is an error. -/
def offered (endpoint key value : String) (items : List Catalog.Item) :
    Except ClientError (List Catalog.Item) :=
  if items.isEmpty then .error (.catalogEmpty endpoint key value) else .ok items

/-- The first item in the answer to a query for an asset. -/
def firstItem (endpoint asset : String) (answer : Except TransportError (List Catalog.Item)) :
    Except ClientError Catalog.Item :=
  match answer with
  | .error e => .error (.transport e)
  | .ok items => items.head?.elim (.error (.catalogEmpty endpoint Catalog.assetKey asset)) .ok

/-- What an orchestrator is put together from. -/
structure Parts where
  hasCatalog : Bool
  hasNegotiator : Bool
  hasScheduler : Bool

/-- Parts are asked for in a fixed order; a scheduler may also come from the surroundings. -/
def Parts.check (p : Parts) (surroundings : Except String Unit) : Except ClientError Unit :=
  if !p.hasCatalog then .error (.illegalState "orchestrator requires a catalog")
  else if !p.hasNegotiator then .error (.illegalState "orchestrator requires a negotiator")
  else if p.hasScheduler then .ok ()
  else surroundings.mapError fun reason => .illegalState ("no tokio runtime: " ++ reason)

end ConsumerConnector.Acquisition
