import ConsumerConnector.Decimal.Digits
import ConsumerConnector.Json.Basic

/-!
Numbers as JSON text writes them. An integer that 64 bits hold stays one. Any other number is a
double made of a significand of 64 bits and a power of ten: digits that no longer fit into the
significand only move the power.
-/

namespace ConsumerConnector.Json

structure Numeral where
  negative : Bool
  whole : List Nat
  fraction : List Nat
  /-- Sign and digits of the power of ten, `true` for a negative one. -/
  exponent : Option (Bool × List Nat)

namespace Numeral

open Decimal (splitDigits ofDigits)

def isPart (c : Char) : Bool :=
  Decimal.isDigit c || c == '-' || c == '+' || c == '.' || c == 'e' || c == 'E'

def splitExponent : List Char → Option (Option (Bool × List Nat))
  | [] => some none
  | mark :: rest =>
    if mark = 'e' ∨ mark = 'E' then
      let (negative, rest) := match rest with
        | '-' :: rest => (true, rest)
        | '+' :: rest => (false, rest)
        | _ => (false, rest)
      match splitDigits rest with
      | (d :: ds, []) => some (some (negative, d :: ds))
      | _ => none
    else none

/-- `true` for a minus at the front, and what follows it. -/
def splitSign : List Char → Bool × List Char
  | '-' :: cs => (true, cs)
  | cs => (false, cs)

theorem splitSign_of_ne {c : Char} (h : c ≠ '-') (cs : List Char) :
    splitSign (c :: cs) = (false, c :: cs) := by
  unfold splitSign
  split
  · next heq => exact absurd (List.cons.inj heq).1 h
  · rfl

/-- A number has a whole part without leading zeros, then a fraction, then a power of ten. -/
def ofChars? (cs : List Char) : Option Numeral := do
  let (negative, cs) := splitSign cs
  let (whole, cs) := splitDigits cs
  match whole with
  | [] | 0 :: _ :: _ => none
  | _ =>
    match cs with
    | '.' :: cs =>
      let (fraction, cs) := splitDigits cs
      if fraction.isEmpty then none
      else return ⟨negative, whole, fraction, ← splitExponent cs⟩
    | _ => return ⟨negative, whole, [], ← splitExponent cs⟩

/-- Takes digits into a significand as long as 64 bits hold it; the other digits are left over. -/
def absorb (significand : Nat) : List Nat → Nat × List Nat
  | [] => (significand, [])
  | d :: ds =>
    if significand * 10 + d < Decimal.wordSize 64 then absorb (significand * 10 + d) ds
    else (significand, d :: ds)

def powerOfTen (e : Nat) : Float :=
  Float.ofScientific 1 false e

/-- Division by a power of ten, in steps of at most 10 ^ 308. -/
def shrink (x : Float) (e : Nat) : Float :=
  if e ≤ 308 then x / powerOfTen e
  else if x == 0.0 then x
  else shrink (x / powerOfTen 308) (e - 308)
termination_by e

/-- `significand` · 10 ^ `exponent`, `none` if no double is that large. -/
def scale? (significand : Nat) : Int → Option Float
  | .ofNat e =>
    let x := significand.toUInt64.toFloat
    if e ≤ 308 then
      let y := x * powerOfTen e
      if y.isInf then none else some y
    else if significand = 0 then some x
    else none
  | .negSucc e => some (shrink significand.toUInt64.toFloat (e + 1))

def double? (n : Numeral) : Option Float := do
  let (significand, long) := absorb 0 n.whole
  let (significand, unread) := absorb significand n.fraction
  let exponent : Int := long.length - (n.fraction.length - unread.length : Nat)
  let x ← match n.exponent with
    | none => scale? significand exponent
    | some (down, ds) =>
      let e := ofDigits 10 ds
      if e < Decimal.wordSize 31 then scale? significand (if down then exponent - e else exponent + e)
      else if significand ≠ 0 ∧ !down then none
      else some 0.0
  return if n.negative then -x else x

/-- `none` for a number beyond the largest double. -/
def value? (n : Numeral) : Option Number :=
  let magnitude := ofDigits 10 n.whole
  if n.fraction.isEmpty ∧ n.exponent.isNone ∧ n.negative = false ∧ magnitude < Decimal.wordSize 64 then
    some (.integer magnitude)
  else if n.fraction.isEmpty ∧ n.exponent.isNone ∧ n.negative ∧ 0 < magnitude ∧
      magnitude ≤ Decimal.wordSize 63 then
    some (.integer (-magnitude))
  else n.double?.map .double

end Numeral

end ConsumerConnector.Json
