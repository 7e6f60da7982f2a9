import ConsumerConnector.Json.Basic
import ConsumerConnector.Text.Segment

/-!
Names in linked data. A term of a vocabulary can be written with the vocabulary's short mark, bare, or
with its full address.
-/

namespace ConsumerConnector.LinkedData

inductive Vocabulary
  | edc | odrl | dcat | dct | dspace
  deriving DecidableEq, Repr

namespace Vocabulary

def all : List Vocabulary := [edc, odrl, dcat, dct, dspace]

def mark : Vocabulary → String
  | edc => "edc"
  | odrl => "odrl"
  | dcat => "dcat"
  | dct => "dct"
  | dspace => "dspace"

def address : Vocabulary → String
  | edc => "https://w3id.org/edc/v0.0.1/ns/"
  | odrl => "http://www.w3.org/ns/odrl/2/"
  | dcat => "http://www.w3.org/ns/dcat#"
  | dct => "http://purl.org/dc/terms/"
  | dspace => "https://w3id.org/dspace/v0.8/"

def ofMark? (s : String) : Option Vocabulary :=
  all.find? (·.mark = s)

end Vocabulary

structure Term where
  vocabulary : Vocabulary
  name : String
  deriving DecidableEq, Repr

namespace Term

def marked (t : Term) : String := t.vocabulary.mark ++ ":" ++ t.name

def expanded (t : Term) : String := t.vocabulary.address ++ t.name

/-- The keys a term is looked up under, in this order. Terms of the connector's own vocabulary are
expected bare, all others marked. -/
def spellings (t : Term) : List String :=
  if t.vocabulary = .edc then [t.name, t.marked, t.expanded]
  else [t.marked, t.name, t.expanded]

end Term

def edc (name : String) : Term := ⟨.edc, name⟩

def odrl (name : String) : Term := ⟨.odrl, name⟩

def dcat (name : String) : Term := ⟨.dcat, name⟩

def dspace (name : String) : Term := ⟨.dspace, name⟩

abbrev Fields := List (String × Json)

/-- The value under the first spelling that is there. -/
def find? (fields : Fields) (t : Term) : Option Json :=
  t.spellings.findSome? (Json.field? fields)

def isKeyword (key : String) : Bool :=
  Text.startsWith key "@"

/-- The full address a key stands for; a bare key belongs to the connector's own vocabulary. -/
def expandKey (key : String) : String :=
  if isKeyword key || Text.contains [':', '/', '/'] key.toList then key
  else match Text.splitFirst ':' key with
    | some (mark, name) =>
      match Vocabulary.ofMark? mark with
      | some v => v.address ++ name
      | none => key
    | none => Vocabulary.edc.address ++ key

/-- What tells a reader of a document which vocabularies its marks stand for. -/
def context : Json :=
  .ofFields (("@vocab", .string Vocabulary.edc.address) ::
    Vocabulary.all.map fun v => (v.mark, .string v.address))

end ConsumerConnector.LinkedData
