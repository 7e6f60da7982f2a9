import ConsumerConnector.Calendar
import ConsumerConnector.Decimal.Digits

/-!
Instants as RFC 3339 writes them: a local date and time with its distance from UTC. Two timestamps
are compared by the instant they name.
-/

namespace ConsumerConnector

structure Timestamp where
  /-- Nanoseconds of the local clock since 1970-01-01T00:00:00. -/
  clock : Int
  /-- Minutes by which the local clock is ahead of UTC. -/
  ahead : Int
  deriving DecidableEq, Repr

namespace Timestamp

def second : Int := 1000000000

def daySeconds : Int := 86400

/-- Nanoseconds since 1970-01-01T00:00:00 UTC. -/
def instant (t : Timestamp) : Int :=
  t.clock - t.ahead * 60 * second

/-- Whole seconds since 1970-01-01T00:00:00 UTC. -/
def unix (t : Timestamp) : Int :=
  t.instant / second

def isAfter (t u : Timestamp) : Bool :=
  u.instant < t.instant

def ofUnix (seconds : Int) : Timestamp :=
  ⟨seconds * second, 0⟩

def date (t : Timestamp) : Calendar.Date :=
  .ofDays (t.clock / (daySeconds * second))

/-- Only years of four digits can be written. -/
def isWritable (t : Timestamp) : Bool :=
  0 ≤ t.date.year && t.date.year ≤ 9999

private def digitPairs (sep : Char) (h m : Nat) : List Char :=
  Decimal.padded 2 h ++ sep :: Decimal.padded 2 m

def renderFraction (nanos : Nat) : List Char :=
  if nanos = 0 then []
  else '.' :: ((Decimal.padded 9 nanos).reverse.dropWhile (· == '0')).reverse

def renderOffset (ahead : Int) : List Char :=
  if ahead = 0 then ['Z']
  else (if ahead < 0 then '-' else '+') :: digitPairs ':' (ahead.natAbs / 60) (ahead.natAbs % 60)

def render (t : Timestamp) : String :=
  let d := t.date
  let nanos := (t.clock % second).toNat
  let seconds := (t.clock / second % daySeconds).toNat
  String.ofList (Decimal.padded 4 d.year.toNat ++ '-' :: digitPairs '-' d.month d.day ++
    'T' :: digitPairs ':' (seconds / 3600) (seconds / 60 % 60) ++
    ':' :: Decimal.padded 2 (seconds % 60) ++ renderFraction nanos ++ renderOffset t.ahead)

/-- A fraction of a second in nanoseconds; digits past the ninth are dropped. -/
def fraction? : List Char → Option (Nat × List Char)
  | '.' :: cs => do
    let (ds, rest) := Decimal.splitDigits cs
    guard (!ds.isEmpty)
    let kept := ds.take 9
    return (Decimal.ofDigits 10 kept * Nat.pow 10 (9 - kept.length), rest)
  | cs => some (0, cs)

def offset? : List Char → Option Int
  | ['Z'] | ['z'] => some 0
  | sign :: cs => do
    guard (sign = '+' ∨ sign = '-')
    let (hours, cs) ← Decimal.fixed? 2 cs
    match cs with
    | ':' :: cs =>
      let (minutes, cs) ← Decimal.fixed? 2 cs
      guard (cs.isEmpty ∧ hours ≤ 23 ∧ minutes ≤ 59)
      let ahead : Int := hours * 60 + minutes
      return if sign = '-' then -ahead else ahead
    | _ => none
  | [] => none

/-- The last moment of a month in UTC, when a leap second may follow. -/
def endsMonth (t : Timestamp) : Bool :=
  let seconds := t.unix
  let d := Calendar.Date.ofDays (seconds / daySeconds)
  seconds % daySeconds == daySeconds - 1 && d.day == Calendar.daysIn d.year d.month

/-- Date and time may be parted by any ASCII character. A leap second is read as the last nanosecond
before it. -/
def parse? (s : String) : Option Timestamp := do
  let (year, cs) ← Decimal.fixed? 4 s.toList
  let cs ← after '-' cs
  let (month, cs) ← Decimal.fixed? 2 cs
  let cs ← after '-' cs
  let (day, cs) ← Decimal.fixed? 2 cs
  let date : Calendar.Date := ⟨year, month, day⟩
  guard date.isValid
  let cs ← match cs with
    | sep :: cs => if sep.toNat < 128 then some cs else none
    | [] => none
  let (hour, cs) ← Decimal.fixed? 2 cs
  let cs ← after ':' cs
  let (minute, cs) ← Decimal.fixed? 2 cs
  let cs ← after ':' cs
  let (sec, cs) ← Decimal.fixed? 2 cs
  let (nanos, cs) ← fraction? cs
  let ahead ← offset? cs
  guard (hour ≤ 23 ∧ minute ≤ 59 ∧ sec ≤ 60)
  let leap := sec = 60
  let (sec, nanos) := if leap then (59, 999999999) else (sec, nanos)
  let seconds : Int := date.toDays * daySeconds + (hour * 3600 + minute * 60 + sec : Nat)
  let t : Timestamp := ⟨seconds * second + (nanos : Nat), ahead⟩
  guard (leap → t.endsMonth)
  return t
where
  after (c : Char) : List Char → Option (List Char)
    | d :: cs => if c = d then some cs else none
    | [] => none

end Timestamp

end ConsumerConnector
