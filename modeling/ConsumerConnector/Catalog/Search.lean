import ConsumerConnector.Address
import ConsumerConnector.ControlPlane.Call
import ConsumerConnector.Failure.Client

/-!
Asking a provider for its catalog: at once under a filter, or page by page until an asset turns up. A
provider may ignore where a page should begin, so a page that repeats the one before ends the search.
-/

namespace ConsumerConnector.Catalog

structure Settings where
  /-- Zero asks for everything at once. -/
  pageSize : Nat
  suffix : String

def Settings.default : Settings := ⟨50, Address.defaultSuffix⟩

def protocol : String := "dataspace-protocol-http"

def request (settings : Settings) (endpoint partner : String) (query : Query) : Request :=
  ⟨protocol, Address.withSuffix endpoint settings.suffix, partner, query⟩

def filterRequest (settings : Settings) (endpoint key value partner : String) : Request :=
  request settings endpoint partner ⟨0, none, some (.equals key value)⟩

def pageRequest (settings : Settings) (endpoint partner : String) (offset : Nat) : Request :=
  request settings endpoint partner ⟨offset, some settings.pageSize, none⟩

/-- A search between two pages. -/
structure Paging where
  offset : Nat
  /-- The ids of the page before. -/
  previous : Option (List String)
  found : List Item

inductive Paging.Step
  | done (items : List Item)
  | more (p : Paging)

namespace Paging

def start : Paging := ⟨0, none, []⟩

def sameIds (a b : List String) : Bool :=
  a.all b.contains && b.all a.contains

def datasetIds (c : Catalog) : List String :=
  c.datasets.map (·.id)

/-- A page with the target, a page that is not full, and a page that repeats the one before end the
search; the last kind adds nothing. -/
def receive (pageSize : Nat) (target : String) (p : Paging) (page : Catalog) : Step :=
  let items := page.items
  if items.any (·.asset == target) then .done (p.found ++ items)
  else if page.datasets.length < pageSize then .done (p.found ++ items)
  else if (p.previous.map (sameIds (datasetIds page))).getD false then .done p.found
  else .more ⟨p.offset + pageSize, some (datasetIds page), p.found ++ items⟩

end Paging

variable {σ : Type}

def ask (plane : Plane σ) (q : Request) (s : σ) : Except TransportError Catalog × σ :=
  plane (.getCatalog q) s

def fetchByFilter (plane : Plane σ) (settings : Settings) (endpoint key value partner : String)
    (s : σ) : Except TransportError (List Item) × σ :=
  let (r, s) := ask plane (filterRequest settings endpoint key value partner) s
  (r.map Catalog.items, s)

/-- Turns pages with at most `limit` requests, `none` if they do not end the search. -/
def turnPages (plane : Plane σ) (settings : Settings) (endpoint target partner : String) :
    Nat → Paging → σ → Option (Except TransportError (List Item)) × σ
  | 0, _, s => (none, s)
  | limit + 1, p, s =>
    match ask plane (pageRequest settings endpoint partner p.offset) s with
    | (.error e, s) => (some (.error e), s)
    | (.ok page, s) =>
      match p.receive settings.pageSize target page with
      | .done items => (some (.ok items), s)
      | .more p => turnPages plane settings endpoint target partner limit p s

def fetchUntilMatch (plane : Plane σ) (settings : Settings) (limit : Nat)
    (endpoint target partner : String) (s : σ) :
    Option (Except TransportError (List Item)) × σ :=
  if settings.pageSize = 0 then
    let (r, s) := ask plane (request settings endpoint partner .all) s
    (some (r.map Catalog.items), s)
  else turnPages plane settings endpoint target partner limit .start s

end ConsumerConnector.Catalog
