import ConsumerConnector.Toml.Table
import ConsumerConnector.Toml.Token

/-!
TOML documents: lines that open a table by its header or put a value under a key of the table that is
open. Arrays and tables in braces may go over several lines.
-/

namespace ConsumerConnector.Toml

namespace Document

/-- A piece of a key. -/
inductive Piece
  | name (s : String)
  | dot

def isBare (c : Char) : Bool := c.isAlphanum || c = '_' || c = '-'

/-- The pieces of a key that stands outside of quotes. -/
def wordPieces? (text : List Char) : Option (List Piece) := do
  let names ← (Text.pieces '.' text).mapM fun name =>
    if name.all isBare then some (if name.isEmpty then [] else [Piece.name (String.ofList name)])
    else none
  return List.intercalate [.dot] names

/-- The names of a key; names and dots take turns, beginning and ending with a name. -/
def names? : List Piece → Option (List String)
  | [.name s] => some [s]
  | .name s :: .dot :: rest => (names? rest).map (s :: ·)
  | _ => none

/-- How many names a key may have, and how many containers may be open at once. -/
def maxDepth : Nat := 80

def key? (pieces : List Piece) : Option (List String) :=
  (names? pieces).filter (·.length ≤ maxDepth)

inductive Frame
  | array (items : List Value)
  | table (entries : Entries) (key : List String)

/-- What may come next. Pieces of a key and open containers are kept with the last one first; `target`
is the key that the outermost value is for. -/
inductive Awaiting
  | line
  | key (pieces : List Piece)
  | header (double : Bool) (pieces : List Piece)
  /-- The second of two closing brackets. -/
  | bracket (path : List String)
  | value (target : List String) (frames : List Frame) (closable : Bool)
  | innerKey (target : List String) (outer : List Frame) (entries : Entries) (pieces : List Piece)
  /-- The sign between a key in braces and its value. -/
  | innerEquals (target : List String) (outer : List Frame) (entries : Entries) (key : List String)
  | separator (target : List String) (frames : List Frame)
  | lineEnd

structure Builder where
  root : Entries
  /-- The table that is open. -/
  current : List String
  awaiting : Awaiting

namespace Builder

def await (b : Builder) (awaiting : Awaiting) : Builder := { b with awaiting }

/-- Opens the table of a header, or one more of the tables of a double header. -/
def openTable (b : Builder) (double : Bool) (path : List String) : Option Builder := do
  let last ← path.getLast?
  let root ← Entries.within (if double then Entries.extend last else Entries.head last)
    path.dropLast b.root
  return ⟨root, path, .lineEnd⟩

/-- Opens one container more, if there may be one. -/
def descend (b : Builder) (frames : List Frame) (awaiting : Awaiting) : Option Builder :=
  if frames.length < maxDepth then some (b.await awaiting) else none

/-- Puts a finished value where it belongs. -/
def put (b : Builder) (target : List String) (value : Value) : List Frame → Option Builder
  | [] => do
    return ⟨← Entries.within (Entries.assign value target) b.current b.root, b.current, .lineEnd⟩
  | .array items :: outer => some (b.await (.separator target (.array (value :: items) :: outer)))
  | .table entries key :: outer => do
    return b.await (.separator target (.table (← Entries.assign value key entries) [] :: outer))

def closeTable (b : Builder) (target : List String) (outer : List Frame) (entries : Entries) :
    Option Builder :=
  b.put target (.table .braced entries) outer

def onValue (b : Builder) (target : List String) (frames : List Frame) (closable : Bool) :
    Token → Option Builder
  | .word text => do b.put target (.scalar (← Scalar.ofWord? text)) frames
  | .string s _ => b.put target (.string s) frames
  | .openBracket _ => b.descend frames (.value target (.array [] :: frames) true)
  | .openBrace => b.descend frames (.innerKey target frames [] [])
  | .newline => if frames.isEmpty then none else some (b.await (.value target frames closable))
  | .closeBracket _ =>
    match frames, closable with
    | .array items :: outer, true => b.put target (.array items.reverse) outer
    | _, _ => none
  | _ => none

def onInnerKey (b : Builder) (target : List String) (outer : List Frame) (entries : Entries)
    (pieces : List Piece) : Token → Option Builder
  | .word text => do
    return b.await (.innerKey target outer entries ((← wordPieces? text).reverse ++ pieces))
  | .string s false => some (b.await (.innerKey target outer entries (.name s :: pieces)))
  | .equals => do
    return b.await (.value target (.table entries (← key? pieces.reverse) :: outer) false)
  | .newline =>
    if pieces.isEmpty then some (b.await (.innerKey target outer entries []))
    else do return b.await (.innerEquals target outer entries (← key? pieces.reverse))
  | .closeBrace => if pieces.isEmpty then b.closeTable target outer entries else none
  | _ => none

def onInnerEquals (b : Builder) (target : List String) (outer : List Frame) (entries : Entries)
    (key : List String) : Token → Option Builder
  | .equals => some (b.await (.value target (.table entries key :: outer) false))
  | .newline => some (b.await (.innerEquals target outer entries key))
  | _ => none

def onSeparator (b : Builder) (target : List String) (frames : List Frame) (token : Token) :
    Option Builder :=
  match token, frames with
  | .newline, _ => some (b.await (.separator target frames))
  | .comma, .array _ :: _ => some (b.await (.value target frames true))
  | .comma, .table entries _ :: outer => some (b.await (.innerKey target outer entries []))
  | .closeBracket _, .array items :: outer => b.put target (.array items.reverse) outer
  | .closeBrace, .table entries _ :: outer => b.closeTable target outer entries
  | _, _ => none

def onHeader (b : Builder) (double : Bool) (pieces : List Piece) : Token → Option Builder
  | .word text => do return b.await (.header double ((← wordPieces? text).reverse ++ pieces))
  | .string s false => some (b.await (.header double (.name s :: pieces)))
  | .openBracket true =>
    if !double ∧ pieces.isEmpty then some (b.await (.header true [])) else none
  | .closeBracket _ => do
    let path ← key? pieces.reverse
    if double then return b.await (.bracket path) else b.openTable false path
  | _ => none

def step (b : Builder) (token : Token) : Option Builder :=
  match b.awaiting with
  | .line =>
    match token with
    | .newline => some b
    | .word text => do return b.await (.key (← wordPieces? text).reverse)
    | .string s false => some (b.await (.key [.name s]))
    | .openBracket _ => some (b.await (.header false []))
    | _ => none
  | .key pieces =>
    match token with
    | .word text => do return b.await (.key ((← wordPieces? text).reverse ++ pieces))
    | .string s false => some (b.await (.key (.name s :: pieces)))
    | .equals => do return b.await (.value (← key? pieces.reverse) [] false)
    | _ => none
  | .header double pieces => b.onHeader double pieces token
  | .bracket path =>
    match token with
    | .closeBracket true => b.openTable true path
    | _ => none
  | .value target frames closable => b.onValue target frames closable token
  | .innerKey target outer entries pieces => b.onInnerKey target outer entries pieces token
  | .innerEquals target outer entries key => b.onInnerEquals target outer entries key token
  | .separator target frames => b.onSeparator target frames token
  | .lineEnd =>
    match token with
    | .newline => some (b.await .line)
    | _ => none

end Builder

def ofTokens? (tokens : List Token) : Option Entries := do
  let b ← tokens.foldlM Builder.step ⟨[], [], .line⟩
  match b.awaiting with
  | .line | .lineEnd => some b.root
  | _ => none

/-- A mark of the byte order in front is passed over. -/
def ofText? (s : String) : Option Entries := do
  let cs := s.toList
  ofTokens? (← Token.scan ((Text.after? ['\ufeff'] cs).getD cs))

end Document

end ConsumerConnector.Toml
