import ConsumerConnector.Decimal.Digits

/-!
Addresses of eight 16-bit pieces. A double colon stands for a run of zero pieces, and the last two
pieces may be written as four decimal octets.
-/

namespace ConsumerConnector.Url.Ipv6

/-- A decimal octet without leading zeros. -/
def octet? (cs : List Char) : Option (Nat × List Char) := do
  let (ds, rest) := Decimal.splitDigits cs
  guard (!ds.isEmpty ∧ (ds.length = 1 ∨ ds.head? ≠ some 0))
  let n := Decimal.ofDigits 10 ds
  guard (n < 256)
  return (n, rest)

def octets? (cs : List Char) : Option (List Nat) := do
  let (a, cs) ← octet? cs
  let (b, cs) ← octet? (← point cs)
  let (c, cs) ← octet? (← point cs)
  let (d, cs) ← octet? (← point cs)
  guard cs.isEmpty
  return [a * 256 + b, c * 256 + d]
where
  point : List Char → Option (List Char)
    | '.' :: cs => some cs
    | _ => none

/-- The pieces on one side of a double colon. Only the last side may end in octets. -/
def pieces? (isLast : Bool) : List (List Char) → Option (List Nat)
  | [] => some []
  | [p] => if isLast && p.contains '.' then octets? p else (piece? p).map ([·])
  | p :: rest => do return (← piece? p) :: (← pieces? isLast rest)
where
  piece? (p : List Char) : Option Nat := do
    guard (!p.isEmpty ∧ p.length ≤ 4)
    return Decimal.ofDigits 16 (← p.mapM Decimal.hexDigit?)

def colons : List Char → List (List Char)
  | [] => [[]]
  | ':' :: rest => [] :: colons rest
  | c :: rest =>
    match colons rest with
    | [] => [[c]]
    | p :: ps => (c :: p) :: ps

/-- The two sides of the first double colon. -/
def splitRun : List Char → Option (List Char × List Char)
  | ':' :: ':' :: rest => some ([], rest)
  | c :: rest => (splitRun rest).map fun (a, b) => (c :: a, b)
  | [] => none

def side? (isLast : Bool) (cs : List Char) : Option (List Nat) :=
  if cs.isEmpty then some [] else pieces? isLast (colons cs)

def parse? (cs : List Char) : Option (List Nat) := do
  match splitRun cs with
  | none =>
    let all ← pieces? true (colons cs)
    guard (all.length = 8)
    return all
  | some (left, right) =>
    let left ← side? false left
    let right ← side? true right
    guard (left.length + right.length ≤ 7)
    return left ++ List.replicate (8 - left.length - right.length) 0 ++ right

/-- Length of the run of zeros at the front. -/
def zeros (pieces : List Nat) : Nat :=
  (pieces.takeWhile (· == 0)).length

/-- Start and length of the longest run of zeros, the first of equally long ones. -/
def longestRun (pieces : List Nat) : Nat × Nat :=
  (List.range pieces.length).foldl (fun best i =>
    let n := zeros (pieces.drop i)
    if best.2 < n then (i, n) else best) (0, 0)

def hex (n : Nat) : String :=
  String.ofList (Nat.toDigits 16 n)

def render (pieces : List Nat) : String :=
  let (start, n) := longestRun pieces
  let join (ps : List Nat) := ":".intercalate (ps.map hex)
  if n < 2 then join pieces
  else join (pieces.take start) ++ "::" ++ join (pieces.drop (start + n))

end ConsumerConnector.Url.Ipv6
