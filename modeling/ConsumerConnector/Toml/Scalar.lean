import ConsumerConnector.Calendar
import ConsumerConnector.Text.Segment
import ConsumerConnector.Decimal.Digits

/-!
Values without quotes: truth values, integers in four bases, decimal fractions, dates and times.
-/

namespace ConsumerConnector.Toml

inductive Scalar
  | boolean (b : Bool)
  | integer (n : Int)
  | float (x : Float)
  /-- A date, a time or both; nothing is ever read from it. -/
  | date

namespace Scalar

/-- Digits in groups, with an underscore between two of them. -/
def grouped? (digit? : Char → Option Nat) (cs : List Char) : Option (List Nat) := do
  let groups ← (Text.pieces '_' cs).mapM fun group =>
    if group.isEmpty then none else group.mapM digit?
  return groups.flatten

def digitBelow? (base : Nat) (c : Char) : Option Nat :=
  (Decimal.hexDigit? c).filter (· < base)

/-- A sign, and what follows it. -/
def splitSign : List Char → Bool × List Char
  | '-' :: cs => (true, cs)
  | '+' :: cs => (false, cs)
  | cs => (false, cs)

def signed (negative : Bool) (n : Nat) : Int := if negative then -n else n

/-- Decimal digits without leading zeros. -/
def whole? (cs : List Char) : Option (List Nat) :=
  match grouped? (digitBelow? 10) cs with
  | some (0 :: _ :: _) => none
  | ds => ds

def based? (base : Nat) (cs : List Char) : Option Nat :=
  (grouped? (digitBelow? base) cs).map (Decimal.ofDigits base)

/-- An integer needs 128 bits at most. -/
def integer? (cs : List Char) : Option Int := do
  let n : Int ← match cs with
    | '0' :: 'x' :: cs => (based? 16 cs).map Int.ofNat
    | '0' :: 'o' :: cs => (based? 8 cs).map Int.ofNat
    | '0' :: 'b' :: cs => (based? 2 cs).map Int.ofNat
    | cs =>
      let (negative, cs) := splitSign cs
      (whole? cs).map fun ds => signed negative (Decimal.ofDigits 10 ds)
  guard (-(Decimal.wordSize 127 : Int) ≤ n ∧ n < Decimal.wordSize 128)
  return n

/-- `n` · 10 ^ `e`, `none` if it is beyond the largest double. -/
def scaled? (n : Nat) (e : Int) : Option Float :=
  let size : Int := (Nat.toDigits 10 n).length + e
  if n = 0 ∨ size < -400 then some 0.0
  else if 400 < size then none
  else
    let x := if e < 0 then Float.ofScientific n true e.natAbs else Float.ofScientific n false e.natAbs
    if x.isInf then none else some x

/-- The power of ten of a number, zero if it has none. -/
def exponent? : List Char → Option Int
  | [] => some 0
  | mark :: cs => do
    guard (mark = 'e' ∨ mark = 'E')
    let (negative, cs) := splitSign cs
    return signed negative (← based? 10 cs)

def isMark (c : Char) : Bool := c = 'e' || c = 'E'

/-- A number with a fraction or a power of ten, or one of the names for what is no number. -/
def float? (cs : List Char) : Option Float := do
  let (negative, cs) := splitSign cs
  let x ← match cs with
    | ['i', 'n', 'f'] => some (1.0 / 0.0)
    | ['n', 'a', 'n'] => some (0.0 / 0.0)
    | cs =>
      let number := cs.takeWhile (! isMark ·)
      let power := cs.dropWhile (! isMark ·)
      let e ← exponent? power
      let digits ← whole? (number.takeWhile (· ≠ '.'))
      match number.dropWhile (· ≠ '.') with
      | [] => if power.isEmpty then none else scaled? (Decimal.ofDigits 10 digits) e
      | _ :: fraction =>
        let fraction ← grouped? (digitBelow? 10) fraction
        scaled? (Decimal.ofDigits 10 (digits ++ fraction)) (e - fraction.length)
  return if negative then -x else x

def date? (cs : List Char) : Option (List Char) := do
  let (year, cs) ← Decimal.fixed? 4 cs
  let cs ← Text.after? ['-'] cs
  let (month, cs) ← Decimal.fixed? 2 cs
  let cs ← Text.after? ['-'] cs
  let (day, cs) ← Decimal.fixed? 2 cs
  guard (⟨year, month, day⟩ : Calendar.Date).isValid
  return cs

/-- Seconds may be left out. -/
def time? (cs : List Char) : Option (List Char) := do
  let (hour, cs) ← Decimal.fixed? 2 cs
  let cs ← Text.after? [':'] cs
  let (minute, cs) ← Decimal.fixed? 2 cs
  guard (hour ≤ 23 ∧ minute ≤ 59)
  match cs with
  | ':' :: cs =>
    let (second, cs) ← Decimal.fixed? 2 cs
    guard (second ≤ 60)
    match cs with
    | '.' :: cs =>
      guard ((cs.head?.map Decimal.isDigit).getD false)
      return cs.dropWhile Decimal.isDigit
    | cs => return cs
  | cs => return cs

def isOffset : List Char → Bool
  | [] | ['Z'] | ['z'] => true
  | sign :: cs => (sign = '+' || sign = '-') && (do
    let (hours, cs) ← Decimal.fixed? 2 cs
    let cs ← Text.after? [':'] cs
    let (minutes, cs) ← Decimal.fixed? 2 cs
    return cs.isEmpty && hours ≤ 23 && minutes ≤ 59).getD false

def isMoment (cs : List Char) : Bool :=
  match date? cs with
  | some [] => true
  | some (sep :: cs) => sep ∈ ['T', 't', ' '] && ((time? cs).map isOffset).getD false
  | none => time? cs == some []

def ofWord? (cs : List Char) : Option Scalar :=
  match cs with
  | ['t', 'r', 'u', 'e'] => some (.boolean true)
  | ['f', 'a', 'l', 's', 'e'] => some (.boolean false)
  | cs =>
    if isMoment cs then some .date
    else (integer? cs).map .integer <|> (float? cs).map .float

end Scalar

end ConsumerConnector.Toml
