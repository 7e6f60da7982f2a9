import ConsumerConnector.Catalog.Search
import ConsumerConnector.ControlPlane.RetryPolicy
import ConsumerConnector.Management.Settings
import ConsumerConnector.Negotiation.Basic
import ConsumerConnector.WorkerPool

/-! What an operator can set, with the values taken where nothing is set. Times are in milliseconds. -/

namespace ConsumerConnector

namespace Configuration

structure ControlPlane where
  management : Management.Settings
  suffix : String
  pageSize : Nat
  negotiationTtl : Nat
  transferTtl : Nat
  callback : Option String

def ControlPlane.default : ControlPlane where
  management := .default
  suffix := Address.defaultSuffix
  pageSize := Catalog.Settings.default.pageSize
  negotiationTtl := Negotiation.defaultTtl
  transferTtl := Negotiation.defaultTtl
  callback := none

/-- How long credentials are waited for and kept. -/
structure Credentials where
  requestTtl : Nat
  pollInterval : Nat
  storage : Nat
  deriving DecidableEq

def Credentials.default : Credentials := ⟨Negotiation.defaultTtl, Polling.defaultInterval, 3600000⟩

structure Backoff where
  maxAttempts : Nat
  initialDelay : Nat
  maxDelay : Nat
  multiplier : Float

def Backoff.default : Backoff := ⟨3, 500, 5000, 2.0⟩

structure HostBackoff where
  host : String
  backoff : Backoff

structure Retry where
  backoff : Backoff
  hosts : List HostBackoff

def Retry.default : Retry := ⟨.default, []⟩

structure PolicyEntry where
  id : String
  validUntil : Timestamp
  /-- Without a partner the policy is accepted from everyone. -/
  partner : Option String

end Configuration

structure Configuration where
  controlPlane : Configuration.ControlPlane
  credentials : Configuration.Credentials
  poolSize : Nat
  retry : Configuration.Retry
  policies : List Configuration.PolicyEntry

def Configuration.default : Configuration :=
  ⟨.default, .default, WorkerPool.defaultSize, .default, []⟩

end ConsumerConnector
