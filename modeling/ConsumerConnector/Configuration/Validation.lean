import ConsumerConnector.Configuration.Basic
import ConsumerConnector.Configuration.Fault
import ConsumerConnector.Url.Basic

/-!
Whether a configuration makes sense. Checks come in a fixed order, and the first one that fails names
the fault.
-/

namespace ConsumerConnector.Configuration

abbrev Check := Except Fault Unit

/-- Fails with a fault unless a condition holds. -/
def demand (condition : Bool) (fault : Fault) : Check :=
  if condition then .ok () else .error fault

@[simp] theorem demand_eq_ok {condition : Bool} {fault : Fault} :
    demand condition fault = .ok () ↔ condition = true := by
  cases condition <;> simp [demand]

namespace Check

@[simp] theorem andThen_eq_ok {a : Check} {f : Unit → Check} :
    (a >>= f) = .ok () ↔ a = .ok () ∧ f () = .ok () := by
  cases a with
  | ok => exact ⟨fun h => ⟨rfl, h⟩, And.right⟩
  | error e => exact ⟨nofun, nofun⟩

@[simp] theorem forM_eq_ok {α : Type} {l : List α} {f : α → Check} :
    l.forM f = .ok () ↔ ∀ a ∈ l, f a = .ok () := by
  induction l with
  | nil => exact ⟨fun _ => nofun, fun _ => rfl⟩
  | cons a l ih =>
    rw [List.forall_mem_cons, ← ih]
    exact andThen_eq_ok

end Check

/-- The bounds of a value, both included. -/
structure Bounds where
  min : Nat
  max : Nat
  unit : String

def Bounds.check (b : Bounds) (field : String) (n : Nat) : Check :=
  demand (b.min ≤ n && n ≤ b.max) (.outside field b.min b.max b.unit)

def processTtl : Bounds := ⟨1000, 86400000, " milliseconds"⟩

def pollIntervals : Bounds := ⟨10, 60000, " milliseconds"⟩

def storageDurations : Bounds := ⟨1000, 604800000, " milliseconds"⟩

def timeouts : Bounds := ⟨100, 300000, " milliseconds"⟩

def responseLimits : Bounds := ⟨1024, 67108864, " bytes"⟩

def poolSizes : Bounds := ⟨1, 256, ""⟩

def attempts : Bounds := ⟨1, 10, ""⟩

def delays : Bounds := ⟨0, 60000, " milliseconds"⟩

def maxPageSize : Nat := 10000

def maxHosts : Nat := 256

def maxPolicies : Nat := 1024

def maxPathLength : Nat := 4096

def isEmptyTrimmed (s : String) : Bool := (Text.trim s).isEmpty

/-- An address of the web with a host and without credentials. -/
def checkUrl (field value : String) : Check := do
  let url ← (Url.parse (Text.trim value)).mapError (.urlUnreadable field)
  demand (url.scheme == "http" || url.scheme == "https") (.schemeUnsupported field)
  demand url.host.isSome (.hostMissing field)
  demand (!url.hasCredentials) (.credentialsEmbedded field)

def isPlainPathChar (c : Char) : Bool := !Text.isBlank c && c != '?' && c != '#'

def checkPath (field value : String) : Check := do
  demand (Text.startsWith value "/") (.pathRelative field)
  demand (value.utf8ByteSize ≤ maxPathLength) (.pathLong field)
  demand (value.toList.all isPlainPathChar) (.pathNotPlain field)

def isHeaderChar (c : Char) : Bool := c.isAlphanum || c == '-' || c == '_'

def checkApiKey (k : ApiKey) : Check := do
  let header := Text.trim k.header
  demand (!header.isEmpty) (.blank "controlplane.api_key.header")
  demand (header.toList.all isHeaderChar) .headerName
  demand (!k.secret.isEmpty) (.blank "controlplane.api_key.secret")

namespace ControlPlane

def check (c : ControlPlane) : Check := do
  let m := c.management
  demand (!isEmptyTrimmed m.url) .urlMissing
  checkUrl "controlplane.management_url" m.url
  c.callback.forM (checkUrl "controlplane.callback_url")
  m.apiKey.forM checkApiKey
  checkPath "controlplane.catalog_path" m.catalogPath
  checkPath "controlplane.negotiation_path" m.negotiationPath
  checkPath "controlplane.transfer_path" m.transferPath
  checkPath "controlplane.state_suffix" m.stateSuffix
  if !c.suffix.isEmpty then checkPath "controlplane.provider_suffix" c.suffix
  demand (c.pageSize ≤ maxPageSize) (.above "controlplane.catalog_page_size" maxPageSize)
  processTtl.check "controlplane.negotiation_ttl_ms" c.negotiationTtl
  processTtl.check "controlplane.transfer_ttl_ms" c.transferTtl
  timeouts.check "controlplane.timeout_ms" m.timeout
  responseLimits.check "controlplane.max_response_bytes" m.responseLimit
  demand (!isEmptyTrimmed m.userAgent) (.blank "controlplane.user_agent")

end ControlPlane

def Credentials.check (c : Credentials) : Check := do
  processTtl.check "edr.request_ttl_ms" c.requestTtl
  pollIntervals.check "edr.poll_interval_ms" c.pollInterval
  storageDurations.check "edr.storage_duration_ms" c.storage

def Backoff.check (field : String) (b : Backoff) : Check := do
  attempts.check (field ++ ".max_attempts") b.maxAttempts
  delays.check (field ++ ".max_delay_ms") b.maxDelay
  demand (b.initialDelay ≤ b.maxDelay) (.delayOrder field)
  demand (b.multiplier.isFinite && 1.0 ≤ b.multiplier) (.multiplier field)

/-- The name under which a host is known. -/
def HostBackoff.name (h : HostBackoff) : String :=
  Text.lowerAscii (Text.trim h.host)

/-- Every host has a name that none before it has. -/
def checkHosts (seen : List String) : List HostBackoff → Check
  | [] => .ok ()
  | h :: rest => do
    demand (!isEmptyTrimmed h.host) (.blank "retry.hosts.host")
    demand (!seen.contains h.name) (.hostRepeated (Text.trim h.host))
    h.backoff.check "retry.hosts"
    checkHosts (h.name :: seen) rest

def Retry.check (r : Retry) : Check := do
  r.backoff.check "retry"
  demand (r.hosts.length ≤ maxHosts) (.tooMany "retry.hosts" maxHosts)
  checkHosts [] r.hosts

def PolicyEntry.check (p : PolicyEntry) : Check := do
  demand (!isEmptyTrimmed p.id) (.blank "accepted_policies.policy_id")
  demand (!(p.partner.map isEmptyTrimmed).getD false) (.blankPartner)

/-- What a poll interval has to stay below. -/
def waits (c : Configuration) : List (String × Nat) :=
  [("edr.request_ttl_ms", c.credentials.requestTtl),
    ("controlplane.negotiation_ttl_ms", c.controlPlane.negotiationTtl),
    ("controlplane.transfer_ttl_ms", c.controlPlane.transferTtl)]

def check (c : Configuration) : Check := do
  c.controlPlane.check
  c.credentials.check
  poolSizes.check "worker_pool.size" c.poolSize
  c.retry.check
  demand (c.policies.length ≤ maxPolicies) (.tooMany "accepted_policies" maxPolicies)
  c.policies.forM PolicyEntry.check
  c.waits.forM fun (field, ttl) => demand (c.credentials.pollInterval < ttl) (.pollInterval field)

end ConsumerConnector.Configuration
