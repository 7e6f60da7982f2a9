import ConsumerConnector.Decimal.Digits
import ConsumerConnector.Decimal.Shortest
import ConsumerConnector.Json.Basic

/-!
Compact JSON text. A double is written with the fewest digits that read back, and always so that it
reads back as a double.
-/

namespace ConsumerConnector.Json

/-- Digits with the point after the first `point` of them; a point outside the digits is reached by
zeros, and beyond its bounds the power of ten is written. -/
def layDigits (ds : List Char) (point : Int) : List Char :=
  let zeros (n : Nat) := List.replicate n '0'
  if 0 < point ∧ point ≤ 16 then
    let n := point.toNat
    if ds.length ≤ n then ds ++ zeros (n - ds.length) ++ ['.', '0']
    else ds.take n ++ '.' :: ds.drop n
  else if -5 < point ∧ point ≤ 0 then
    '0' :: '.' :: (zeros (-point).toNat ++ ds)
  else
    let exponent := (if 0 < point then '+' else '-') :: Decimal.toChars (point - 1).natAbs
    match ds with
    | [d] => d :: 'e' :: exponent
    | d :: ds => d :: '.' :: (ds ++ 'e' :: exponent)
    | [] => []

def renderDouble (x : Float) : String :=
  let sign := if x.toBits ≥ 0x8000000000000000 then "-" else ""
  if x == 0.0 then sign ++ "0.0"
  else
    let d := Decimal.shortest x
    let ds := Decimal.toChars d.coefficient
    sign ++ String.ofList (layDigits ds (ds.length + d.exponent))

def Number.render : Number → String
  | .integer n => toString n
  | .double x => if x.isFinite then renderDouble x else "null"

def escape (c : Char) : List Char :=
  if c = '"' then ['\\', '"']
  else if c = '\\' then ['\\', '\\']
  else if c = '\n' then ['\\', 'n']
  else if c = '\r' then ['\\', 'r']
  else if c = '\t' then ['\\', 't']
  else if c = '\x08' then ['\\', 'b']
  else if c = '\x0c' then ['\\', 'f']
  else if c.toNat < 32 then
    ['\\', 'u', '0', '0', Nat.digitChar (c.toNat / 16), Nat.digitChar (c.toNat % 16)]
  else [c]

def renderString (s : String) : String :=
  "\"" ++ String.ofList (s.toList.flatMap escape) ++ "\""

mutual

def render : Json → String
  | .null => "null"
  | .bool true => "true"
  | .bool false => "false"
  | .number n => n.render
  | .string s => renderString s
  | .array items => "[" ++ renderItems items ++ "]"
  | .object fields => "\x7b" ++ renderFields fields ++ "\x7d"

def renderItems : List Json → String
  | [] => ""
  | [item] => item.render
  | item :: rest => item.render ++ "," ++ renderItems rest

def renderFields : List (String × Json) → String
  | [] => ""
  | [(key, value)] => renderString key ++ ":" ++ value.render
  | (key, value) :: rest => renderString key ++ ":" ++ value.render ++ "," ++ renderFields rest

end

end ConsumerConnector.Json
