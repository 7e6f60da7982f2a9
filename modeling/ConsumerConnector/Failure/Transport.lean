/-! Failures of a single exchange with the control plane. -/

namespace ConsumerConnector

inductive TransportError
  | connect (message : String)
  | timeout (message : String)
  | status (code : Nat) (message : String)
  | decode (message : String)
  | request (message : String)
  /-- The last of several attempts failed too. -/
  | retriesExhausted (host : String) (attempts : Nat) (cause : TransportError)
  deriving DecidableEq, Repr, Inhabited

namespace TransportError

def label : TransportError → String
  | connect _ => "connect"
  | timeout _ => "timeout"
  | status .. => "status"
  | decode _ => "decode"
  | request _ => "request"
  | retriesExhausted .. => "retries_exhausted"

def message : TransportError → String
  | connect m => "connection failure: " ++ m
  | timeout m => "request timed out: " ++ m
  | status code m => "http status " ++ toString code ++ ": " ++ m
  | decode m => "invalid response body: " ++ m
  | request m => "invalid request: " ++ m
  | retriesExhausted host attempts cause =>
    "retries exhausted for host '" ++ host ++ "' after " ++ toString attempts ++ " attempts: " ++
      cause.message

/-- A status that another attempt may improve on. -/
def isRetryableStatus (code : Nat) : Bool :=
  500 ≤ code || code == 429

def isRetryable : TransportError → Bool
  | connect _ | timeout _ => true
  | status code _ => isRetryableStatus code
  | decode _ | request _ | retriesExhausted .. => false

end TransportError

end ConsumerConnector
