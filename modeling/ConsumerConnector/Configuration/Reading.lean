import ConsumerConnector.Configuration.Basic
import ConsumerConnector.Toml.Record

/-!
Configurations read from TOML. Whatever is left out has its default, except for the secret of an API
key, the name of a host and the id and date of a policy. Entries of other names mean nothing.
-/

namespace ConsumerConnector.Configuration

open Toml (Value Entries)

def apiKey? (v : Value) : Option ApiKey := do
  let r ← v.record? ["header", "secret"]
  return ⟨← r.withDefault "header" "X-Api-Key" Value.string?, ← r.required "secret" Value.string?⟩

def ControlPlane.ofToml? (v : Value) : Option ControlPlane := do
  let r ← v.record? ["management_url", "api_key", "catalog_path", "negotiation_path",
    "transfer_path", "state_suffix", "provider_suffix", "catalog_page_size", "negotiation_ttl_ms",
    "transfer_ttl_ms", "callback_url", "timeout_ms", "max_response_bytes", "user_agent"]
  let d := ControlPlane.default
  let m := d.management
  return {
    management := {
      url := ← r.withDefault "management_url" m.url Value.string?
      catalogPath := ← r.withDefault "catalog_path" m.catalogPath Value.string?
      negotiationPath := ← r.withDefault "negotiation_path" m.negotiationPath Value.string?
      transferPath := ← r.withDefault "transfer_path" m.transferPath Value.string?
      stateSuffix := ← r.withDefault "state_suffix" m.stateSuffix Value.string?
      apiKey := ← r.optional "api_key" apiKey?
      timeout := ← r.withDefault "timeout_ms" m.timeout (Value.nat? 64)
      responseLimit := ← r.withDefault "max_response_bytes" m.responseLimit (Value.nat? 64)
      userAgent := ← r.withDefault "user_agent" m.userAgent Value.string? }
    suffix := ← r.withDefault "provider_suffix" d.suffix Value.string?
    pageSize := ← r.withDefault "catalog_page_size" d.pageSize (Value.nat? 64)
    negotiationTtl := ← r.withDefault "negotiation_ttl_ms" d.negotiationTtl (Value.nat? 64)
    transferTtl := ← r.withDefault "transfer_ttl_ms" d.transferTtl (Value.nat? 64)
    callback := ← r.optional "callback_url" Value.string? }

def Credentials.ofToml? (v : Value) : Option Credentials := do
  let r ← v.record? ["request_ttl_ms", "poll_interval_ms", "storage_duration_ms"]
  let d := Credentials.default
  return {
    requestTtl := ← r.withDefault "request_ttl_ms" d.requestTtl (Value.nat? 64)
    pollInterval := ← r.withDefault "poll_interval_ms" d.pollInterval (Value.nat? 64)
    storage := ← r.withDefault "storage_duration_ms" d.storage (Value.nat? 64) }

def poolSize? (v : Value) : Option Nat := do
  let r ← v.record? ["size"]
  r.withDefault "size" WorkerPool.defaultSize (Value.nat? 64)

/-- A backoff stands among other entries, of which `own` has the name. -/
def Backoff.ofEntries? (own : String) (r : Entries) : Option Backoff := do
  let d := Backoff.default
  guard (Value.entriesNarrow (r.filter (·.1 ≠ own)))
  return {
    maxAttempts := ← r.withDefault "max_attempts" d.maxAttempts (Value.nat? 32)
    initialDelay := ← r.withDefault "initial_delay_ms" d.initialDelay (Value.nat? 64)
    maxDelay := ← r.withDefault "max_delay_ms" d.maxDelay (Value.nat? 64)
    multiplier := ← r.withDefault "backoff_multiplier" d.multiplier Value.float? }

def HostBackoff.ofToml? (v : Value) : Option HostBackoff := do
  let r ← v.named?
  return ⟨← r.required "host" Value.string?, ← Backoff.ofEntries? "host" r⟩

def Retry.ofToml? (v : Value) : Option Retry := do
  let r ← v.named?
  return ⟨← Backoff.ofEntries? "hosts" r,
    ← r.withDefault "hosts" [] (Value.list? HostBackoff.ofToml?)⟩

def PolicyEntry.ofToml? (v : Value) : Option PolicyEntry := do
  let r ← v.record? ["policy_id", "valid_until", "bpn"]
  return {
    id := ← r.required "policy_id" Value.string?
    validUntil := ← r.required "valid_until" fun v => v.string?.bind Timestamp.parse?
    partner := ← r.optional "bpn" Value.string? }

def ofEntries? (r : Entries) : Option Configuration := do
  let d := Configuration.default
  return {
    controlPlane := ← r.withDefault "controlplane" d.controlPlane ControlPlane.ofToml?
    credentials := ← r.withDefault "edr" d.credentials Credentials.ofToml?
    poolSize := ← r.withDefault "worker_pool" d.poolSize poolSize?
    retry := ← r.withDefault "retry" d.retry Retry.ofToml?
    policies := ← r.withDefault "accepted_policies" d.policies (Value.list? PolicyEntry.ofToml?) }

def ofText? (s : String) : Option Configuration := do
  ofEntries? (← Toml.Document.ofText? s)

end ConsumerConnector.Configuration
