import ConsumerConnector.Dictionary
import ConsumerConnector.Json.Record

/-! Endpoint data references: where the data of a contract is and how to authenticate there. -/

namespace ConsumerConnector

open Json (Tree)

structure Credential where
  id : String
  contract : String
  endpoint : String
  authKey : String
  authCode : Option String
  properties : Dictionary String

namespace Credential

def ofTree? (t : Tree) : Option Credential := do
  let r ← t.record? ["id", "contract_id", "endpoint", "auth_key", "auth_code", "properties"]
  return {
    id := ← r.required "id" Tree.string?
    contract := ← r.required "contract_id" Tree.string?
    endpoint := ← r.required "endpoint" Tree.string?
    authKey := ← r.required "auth_key" Tree.string?
    authCode := ← r.optional "auth_code" Tree.string?
    properties := ← r.withDefault "properties" (Tree.dictionary? Tree.string?) ∅ }

def toJson (c : Credential) : Json :=
  .ofPresent [("id", some (.string c.id)), ("contract_id", some (.string c.contract)),
    ("endpoint", some (.string c.endpoint)), ("auth_key", some (.string c.authKey)),
    ("auth_code", c.authCode.map .string),
    ("properties", some (.ofDictionary (c.properties.map .string)))]

end Credential

end ConsumerConnector
