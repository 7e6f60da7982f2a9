import ConsumerConnector.Json.Token
import ConsumerConnector.Text.Utf8

/-!
JSON text as it was read: fields in the order of the text, repeated keys included, and parts that are
well formed but hold no value. Such a part harms only a reader that needs it.
-/

namespace ConsumerConnector.Json

inductive Tree
  | null
  | bool (b : Bool)
  | number (n : Number)
  | string (s : String)
  | array (items : List Tree)
  | object (fields : List (Option String × Tree))
  /-- A number beyond the largest double, a string that holds no text, or a container below the
  greatest depth. -/
  | unreadable
  deriving Inhabited

namespace Tree

/-- Containers nested deeper than this are not read. -/
def maxDepth : Nat := 127

inductive Frame
  | array (items : List Tree)
  | object (fields : List (Option String × Tree)) (key : Option String)

/-- What may come next: `closable` where the container may also end. -/
inductive Awaiting
  | value (closable : Bool)
  | key (closable : Bool)
  | colon
  | separator
  | nothing (result : Tree)

/-- Open containers, the innermost first, each with its parts in reverse. -/
structure Builder where
  frames : List Frame
  awaiting : Awaiting

def put : List Frame → Tree → Builder
  | [], t => ⟨[], .nothing t⟩
  | .array items :: outer, t => ⟨.array (t :: items) :: outer, .separator⟩
  | .object fields key :: outer, t => ⟨.object ((key, t) :: fields) none :: outer, .separator⟩

/-- A container that ends inside `outer`, and so lies one deeper than that has containers. -/
def close (outer : List Frame) (t : Tree) : Builder :=
  put outer (if (outer.drop (maxDepth - 1)).isEmpty then t else .unreadable)

def step (b : Builder) (token : Token) : Option Builder :=
  match b.awaiting, token, b.frames with
  | .value _, .null, frames => some (put frames .null)
  | .value _, .bool v, frames => some (put frames (.bool v))
  | .value _, .number n, frames => some (put frames ((n.map .number).getD .unreadable))
  | .value _, .string s, frames => some (put frames ((s.map .string).getD .unreadable))
  | .value _, .openArray, frames => some ⟨.array [] :: frames, .value true⟩
  | .value _, .openObject, frames => some ⟨.object [] none :: frames, .key true⟩
  | .value true, .closeArray, .array items :: outer => some (close outer (.array items.reverse))
  | .key _, .string s, .object fields _ :: outer => some ⟨.object fields s :: outer, .colon⟩
  | .key true, .closeObject, .object fields _ :: outer =>
    some (close outer (.object fields.reverse))
  | .colon, .colon, frames => some ⟨frames, .value false⟩
  | .separator, .comma, .array items :: outer => some ⟨.array items :: outer, .value false⟩
  | .separator, .comma, .object fields key :: outer => some ⟨.object fields key :: outer, .key false⟩
  | .separator, .closeArray, .array items :: outer => some (close outer (.array items.reverse))
  | .separator, .closeObject, .object fields _ :: outer =>
    some (close outer (.object fields.reverse))
  | _, _, _ => none

def ofTokens? (tokens : List Token) : Option Tree := do
  match ← tokens.foldlM step ⟨[], .value false⟩ with
  | ⟨[], .nothing t⟩ => some t
  | _ => none

def ofScalars? (cs : List (Option Char)) : Option Tree := do
  ofTokens? (← Token.scan cs)

def ofText? (s : String) : Option Tree :=
  ofScalars? (s.toList.map some)

def ofBytes? (bytes : ByteArray) : Option Tree :=
  ofScalars? (Text.Utf8.scan bytes)

mutual

/-- The value of a tree, `none` if some part of it is unreadable. -/
def value? : Tree → Option Json
  | .null => some .null
  | .bool b => some (.bool b)
  | .number n => some (.number n)
  | .string s => some (.string s)
  | .array items => do return .array (← values? items)
  | .object fields => do return .ofFields (← valuedFields? fields)
  | .unreadable => none

def values? : List Tree → Option (List Json)
  | [] => some []
  | t :: rest => do return (← t.value?) :: (← values? rest)

def valuedFields? : List (Option String × Tree) → Option (List (String × Json))
  | [] => some []
  | (key, t) :: rest => do return (← key, ← t.value?) :: (← valuedFields? rest)

end

end Tree

mutual

def toTree : Json → Tree
  | .null => .null
  | .bool b => .bool b
  | .number n => .number n
  | .string s => .string s
  | .array items => .array (itemTrees items)
  | .object fields => .object (fieldTrees fields)

def itemTrees : List Json → List Tree
  | [] => []
  | item :: rest => item.toTree :: itemTrees rest

def fieldTrees : List (String × Json) → List (Option String × Tree)
  | [] => []
  | (key, value) :: rest => (some key, value.toTree) :: fieldTrees rest

end

def ofText? (s : String) : Option Json := do
  (← Tree.ofText? s).value?

def ofBytes? (bytes : ByteArray) : Option Json := do
  (← Tree.ofBytes? bytes).value?

end ConsumerConnector.Json
