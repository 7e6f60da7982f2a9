import ConsumerConnector.Text.Utf8
import ConsumerConnector.Url.Domain.Direction
import ConsumerConnector.Url.Domain.FoldingTable
import ConsumerConnector.Url.Domain.Joining
import ConsumerConnector.Url.Punycode

/-!
Domain names in ASCII. A name is folded character by character and composed; then each of its labels is
checked and, unless it is ASCII, encoded. A label that came encoded has to be what encoding would give.
-/

namespace ConsumerConnector.Url.Domain

def Run.image? (r : Run) (n : Nat) : Option Char :=
  if r.first ≤ n ∧ n ≤ r.last ∧ (n - r.first) % r.step = 0 then some (.ofNat (r.image + (n - r.first)))
  else none

/-- What a character stands for, if it is not itself. -/
def image? (c : Char) : Option (List Char) :=
  (runs.findSome? (·.image? c.toNat)).map ([·]) <|> images.lookup c.toNat

/-- What a character becomes in a domain name, `none` if no domain may hold it. -/
def fold? (c : Char) : Option (List Char) :=
  if isAscii c then some [c.toLower]
  else
    match image? c with
    | some image => some image
    | none =>
      if Text.inRanges vanishing c then some []
      else if Text.inRanges excluded c then none
      else some [c]

def isFolded (cs : List Char) : Bool :=
  cs.all (fun c => fold? c == some [c]) && compose cs == cs

/-- Characters of ASCII that no domain may hold. -/
def isForbidden (c : Char) : Bool :=
  c.toNat ≤ 32 || c.toNat == 127 ||
    ['#', '%', '/', ':', '<', '>', '?', '@', '[', '\\', ']', '^', '|'].contains c

structure Label where
  shown : List Char
  ascii : List Char

namespace Label

/-- Begins a label in which characters outside ASCII are encoded. -/
def mark : List Char := ['x', 'n', '-', '-']

/-- How many characters a label may have to be encoded, and how many to be decoded. -/
def maxShown : Nat := 1000

def maxEncoded : Nat := 2000

def ofFolded? (cs : List Char) : Option Label :=
  match Text.after? mark cs with
  | some encoded => do
    guard (encoded.length ≤ maxEncoded)
    let shown ← Punycode.decode? encoded
    guard (!shown.all isAscii && isFolded shown)
    return ⟨shown, cs⟩
  | none =>
    if cs.all isAscii then some ⟨cs, cs⟩
    else if cs.length ≤ maxShown then some ⟨cs, mark ++ Punycode.encode cs⟩
    else none

/-- No mark begins a label, and joiners stand where they belong. -/
def isSound (l : Label) : Bool :=
  l.shown.all isAscii || (!(l.shown.head?.map isMark).getD false && keepsJoiners [] l.shown)

end Label

def joinLabels : List Label → List Char
  | [] => []
  | [label] => label.ascii
  | label :: rest => label.ascii ++ '.' :: joinLabels rest

/-- A domain name in ASCII, given in octets. -/
def ascii? (octets : List UInt8) : Option (List Char) := do
  let cs ← (Text.Utf8.scan ⟨octets.toArray⟩).mapM id
  let folded := compose (← cs.mapM fold?).flatten
  guard (folded.all (! isForbidden ·))
  let labels ← (Text.pieces '.' folded).mapM Label.ofFolded?
  guard (labels.all (·.isSound))
  guard (labels.all (·.shown.all (! isRightward ·)) || labels.all (keepsDirection ·.shown))
  return joinLabels labels

end ConsumerConnector.Url.Domain
