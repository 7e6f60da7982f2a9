import ConsumerConnector.Failure.Transport
import ConsumerConnector.Policy.Basic

/-! Reasons why no credential could be acquired. -/

namespace ConsumerConnector

/-- What was offered and what would have been accepted. -/
structure PolicyDiagnostics where
  asset : String
  connector : String
  offered : Policy
  accepted : List AcceptedPolicy

inductive ClientError
  | policyPermission (d : PolicyDiagnostics)
  | policyExpired (d : PolicyDiagnostics)
  | negotiation (id reason : String)
  | transferProcess (id reason : String)
  | timeout (activity : String) (ttl : Nat)
  | transport (cause : TransportError)
  | catalogEmpty (endpoint filterKey filterValue : String)
  | illegalState (message : String)
  | interrupted (activity : String)
  | client (message : String)

namespace ClientError

def label : ClientError → String
  | policyPermission _ => "policy_permission"
  | policyExpired _ => "policy_expired"
  | negotiation .. => "negotiation"
  | transferProcess .. => "transfer_process"
  | timeout .. => "timeout"
  | transport _ => "transport"
  | catalogEmpty .. => "catalog_empty"
  | illegalState _ => "illegal_state"
  | interrupted _ => "interrupted"
  | client _ => "client"

def message : ClientError → String
  | policyPermission d =>
    "policy for asset '" ++ d.asset ++ "' of connector '" ++ d.connector ++ "' is not accepted"
  | policyExpired d =>
    "policy for asset '" ++ d.asset ++ "' of connector '" ++ d.connector ++ "' has expired"
  | negotiation id reason => "contract negotiation '" ++ id ++ "' failed: " ++ reason
  | transferProcess id reason => "transfer process '" ++ id ++ "' failed: " ++ reason
  | timeout activity ttl => "timed out after " ++ toString ttl ++ " ms while " ++ activity
  | transport cause => "transport failure: " ++ cause.message
  | catalogEmpty endpoint filterKey filterValue =>
    "catalog is empty for endpoint '" ++ endpoint ++ "' filter key '" ++ filterKey ++
      "' filter value '" ++ filterValue ++ "'"
  | illegalState m => "illegal state: " ++ m
  | interrupted activity => "interrupted while " ++ activity
  | client m => "edc client error: " ++ m

def diagnostics? : ClientError → Option PolicyDiagnostics
  | policyPermission d | policyExpired d => some d
  | _ => none

end ClientError

end ConsumerConnector
