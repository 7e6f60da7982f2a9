import ConsumerConnector.Credential.Basic
import ConsumerConnector.Failure.Client
import ConsumerConnector.Text.Segment

/-!
Credentials as the provider delivers them: in an envelope around a data address, or in the older
layout as an object of their own.
-/

namespace ConsumerConnector.Credential.Callback

def nameSpace : String := "https://w3id.org/edc/v0.0.1/ns/"

def shortSpace : String := "edc:"

abbrev Fields := List (String × Json)

/-- The text under the first spelling of a key that holds one, unless it is empty. -/
def text? (fields : Fields) (key : String) : Option String := do
  let s ← [key, shortSpace ++ key, nameSpace ++ key].findSome? fun spelling =>
    (Json.field? fields spelling).bind Json.string?
  if s.isEmpty then none else some s

def shortKey (key : String) : String :=
  let cs := key.toList
  String.ofList ((Text.after? nameSpace.toList cs <|> Text.after? shortSpace.toList cs).getD cs)

/-- Keys that have a meaning of their own. -/
def consumed : List String :=
  ["process_id", "agreement_id", "contractId", "endpoint", "authorization", "authKey", "authCode",
    "id"]

/-- All other texts become properties under their short keys. -/
def properties (fields : Fields) : Dictionary String :=
  .ofList (fields.filterMap fun (key, value) =>
    if shortKey key ∈ consumed then none else value.string?.map (shortKey key, ·))

def missing (field : String) : ClientError :=
  .client ("callback is missing '" ++ field ++ "'")

def defaultAuthKey : String := "Authorization"

def ofAddress (fields : Fields) (envelope : Json) : Except ClientError Credential := do
  let contract ← ((text? fields "agreement_id" <|> text? fields "contractId").elim
    (.error (missing "agreement_id")) .ok)
  let endpoint ← (text? fields "endpoint").elim (.error (missing "endpoint")) .ok
  let id := text? fields "process_id" <|>
    (envelope.at? ["payload", "transferProcessId"]).bind Json.string?
  return {
    id := id.getD ""
    contract, endpoint
    authKey := (text? fields "authKey").getD defaultAuthKey
    authCode := text? fields "authorization" <|> text? fields "authCode"
    properties := properties fields }

def ofObject (fields : Fields) : Except ClientError Credential := do
  let nested := (Json.field? fields "properties").bind Json.object?
  let contract ← (nested.bind (text? · "cid") <|> text? fields "contractId" <|>
    nested.bind (text? · "contractId")).elim (.error (missing "contractId")) .ok
  let endpoint ← (text? fields "endpoint").elim (.error (missing "endpoint")) .ok
  return {
    id := (text? fields "id").getD ""
    contract, endpoint
    authKey := (text? fields "authKey").getD defaultAuthKey
    authCode := text? fields "authCode"
    properties := (nested.map properties).getD ∅ }

/-- An envelope whose data address has properties is read through them, any other as an object. -/
def parse (envelope : Json) : Except ClientError Credential :=
  match (envelope.at? ["payload", "dataAddress", "properties"]).bind Json.object? with
  | some fields => ofAddress fields envelope
  | none =>
    match envelope.object? with
    | some fields => ofObject fields
    | none => .error (.client "callback body is not an object")

/-- What is said of a body that is not JSON. -/
def unreadable : ClientError := .client "invalid callback body: <json error>"

def read (body : ByteArray) : Except ClientError Credential :=
  match Json.ofBytes? body with
  | some envelope => parse envelope
  | none => .error unreadable

end ConsumerConnector.Credential.Callback
