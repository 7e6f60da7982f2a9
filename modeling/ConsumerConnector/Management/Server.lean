import ConsumerConnector.Credential.Delivery
import ConsumerConnector.Management.Client

/-!
A management API that answers from prepared responses: in the order of requests, or from a queue for
each route, of which the last response stays.
-/

namespace ConsumerConnector.Management

/-- What happens on a request: credentials are delivered, and then there is a response. -/
structure Prepared where
  exchange : Exchange
  deliveries : List Credential.Delivery

inductive Server
  | sequence (rest : List Prepared)
  | routes (queues : Dictionary (List Prepared))

namespace Server

def unknown : Prepared :=
  ⟨.response ⟨404, "no route".toUTF8, some "no route".utf8ByteSize, 0⟩, []⟩

def routeName (q : HttpRequest) : String := q.method ++ " " ++ q.target

def serve (q : HttpRequest) : Server → Prepared × Server
  | .sequence [] => (unknown, .sequence [])
  | .sequence (p :: rest) => (p, .sequence rest)
  | .routes queues =>
    match queues.get? (routeName q) with
    | none | some [] => (unknown, .routes queues)
    | some [last] => (last, .routes queues)
    | some (p :: rest) => (p, .routes (queues.insert (routeName q) rest))

/-- How many requests at most pass before every queue only repeats its last response. -/
def horizon : Server → Nat
  | .sequence rest => rest.length + 2
  | .routes queues => queues.entries.foldl (fun n queue => n + queue.2.length) 2

end Server

/-- A server with the requests it has seen, the last one first. -/
structure Served where
  server : Server
  requests : List HttpRequest

namespace Served

def exchange (q : HttpRequest) (s : Served) : Exchange × List Credential.Delivery × Served :=
  let (p, server) := s.server.serve q
  (p.exchange, p.deliveries, ⟨server, q :: s.requests⟩)

def transport : Transport Served := fun q s =>
  let (exchange, _, s) := s.exchange q
  (exchange, s)

end Served

end ConsumerConnector.Management
