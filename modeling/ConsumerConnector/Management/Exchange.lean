import ConsumerConnector.Failure.Transport
import ConsumerConnector.Json.Printer
import ConsumerConnector.Json.Tree
import ConsumerConnector.Text.Blank

/-!
A single exchange with a management API: a request with an optional JSON body, and what becomes of it.
What is taken from a response has limits: how late it may come, how many bytes it may have, and how
much of a failure's text is passed on.
-/

namespace ConsumerConnector.Management

structure HttpRequest where
  method : String
  /-- Path and query. -/
  target : String
  headers : Dictionary String
  body : Option Json

structure HttpResponse where
  status : Nat
  body : ByteArray
  /-- How many bytes were announced, if that was said beforehand. -/
  announced : Option Nat
  /-- Milliseconds until it comes. -/
  delay : Nat

inductive Exchange
  | response (r : HttpResponse)
  /-- The connection ended without a response. -/
  | dropped

/-- What an HTTP exchange failed of, in the words of its own layer. -/
def exchangeFailure : String := "<http error>"

def tooLarge : TransportError := .decode "response exceeds size limit"

/-- The bytes of a response. An announced size counts before any byte is read. -/
def readBody (limit : Nat) (r : HttpResponse) : Except TransportError ByteArray :=
  match r.announced with
  | some n =>
    if limit < n then .error tooLarge
    else if r.body.size < n then .error (.connect ("failed to read response: " ++ exchangeFailure))
    else .ok r.body
  | none => if limit < r.body.size then .error tooLarge else .ok r.body

def isSuccess (status : Nat) : Bool := 200 ≤ status && status < 300

/-- How many characters of a failure's text are passed on. -/
def excerptLength : Nat := 256

def excerpt (body : ByteArray) : String :=
  let text := Text.trim (Text.Utf8.lossy body)
  if text.isEmpty then "empty response body" else String.ofList (text.toList.take excerptLength)

/-- The document that an exchange brings. -/
def receive (timeout limit : Nat) : Exchange → Except TransportError Json
  | .dropped => .error (.connect exchangeFailure)
  | .response r =>
    if timeout ≤ r.delay then .error (.timeout exchangeFailure)
    else do
      let body ← readBody limit r
      if isSuccess r.status then
        match Json.ofBytes? body with
        | some document => .ok document
        | none => .error (.decode "<json error>")
      else .error (.status r.status (excerpt body))

end ConsumerConnector.Management
