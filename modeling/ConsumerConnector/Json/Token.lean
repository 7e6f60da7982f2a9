import ConsumerConnector.Json.Numeral

/-!
JSON text cut into tokens. The text may have gaps where its octets formed no character: a gap is
allowed inside a string only, and makes that string unreadable, as does half of a surrogate pair.
-/

namespace ConsumerConnector.Json

inductive Token
  | openArray | closeArray | openObject | closeObject | comma | colon | null
  | bool (b : Bool)
  /-- `none` for a number beyond the largest double. -/
  | number (n : Option Number)
  /-- `none` for a string that holds no text. -/
  | string (s : Option String)

namespace Token

/-- Where the scanner stands. Characters read so far are kept with the last one first. -/
inductive Mode
  | between
  | word (rest : List Char) (token : Token)
  | number (text : List Char)
  | string (text : Option (List Char))
  | escape (text : Option (List Char))
  /-- `digits` hexadecimal digits are still to come; `high` is a first surrogate half that waits. -/
  | code (text : Option (List Char)) (high : Option Nat) (digits : Nat) (value : Nat)
  /-- A first surrogate half has been read, and an escape has to follow it. -/
  | half (text : Option (List Char)) (high : Nat)
  | halfEscape (text : Option (List Char)) (high : Nat)

structure Scanner where
  mode : Mode
  /-- Tokens found, the last one first. -/
  found : List Token

def isSpace (c : Char) : Bool :=
  c = ' ' || c = '\n' || c = '\t' || c = '\r'

def start (found : List Token) (c : Char) : Option Scanner :=
  if isSpace c then some ⟨.between, found⟩
  else if Decimal.isDigit c || c = '-' then some ⟨.number [c], found⟩
  else match c with
    | '[' => some ⟨.between, .openArray :: found⟩
    | ']' => some ⟨.between, .closeArray :: found⟩
    | '\x7b' => some ⟨.between, .openObject :: found⟩
    | '\x7d' => some ⟨.between, .closeObject :: found⟩
    | ',' => some ⟨.between, .comma :: found⟩
    | ':' => some ⟨.between, .colon :: found⟩
    | '"' => some ⟨.string (some []), found⟩
    | 'n' => some ⟨.word ['u', 'l', 'l'] .null, found⟩
    | 't' => some ⟨.word ['r', 'u', 'e'] (.bool true), found⟩
    | 'f' => some ⟨.word ['a', 'l', 's', 'e'] (.bool false), found⟩
    | _ => none

def endNumber (text : List Char) (found : List Token) : Option (List Token) :=
  (Numeral.ofChars? text.reverse).map fun n => .number n.value? :: found

def push (text : Option (List Char)) (c : Char) : Option (List Char) :=
  text.map (c :: ·)

def unescape : Char → Option Char
  | '"' => some '"'
  | '\\' => some '\\'
  | '/' => some '/'
  | 'b' => some '\x08'
  | 'f' => some '\x0c'
  | 'n' => some '\n'
  | 'r' => some '\r'
  | 't' => some '\t'
  | _ => none

/-- What a finished four-digit escape means. -/
def endCode (text : Option (List Char)) : Option Nat → Nat → Mode
  | none, n =>
    if 0xD800 ≤ n ∧ n < 0xDC00 then .half text n
    else if 0xDC00 ≤ n ∧ n < 0xE000 then .string none
    else .string (push text (Char.ofNat n))
  | some high, n =>
    if 0xDC00 ≤ n ∧ n < 0xE000 then
      .string (push text (Char.ofNat (0x10000 + (high - 0xD800) * 0x400 + (n - 0xDC00))))
    else if 0xD800 ≤ n ∧ n < 0xDC00 then .half none n
    else .string none

def inString (text : Option (List Char)) (found : List Token) (c : Char) : Option Scanner :=
  if c = '"' then some ⟨.between, .string (text.map fun cs => String.ofList cs.reverse) :: found⟩
  else if c = '\\' then some ⟨.escape text, found⟩
  else if c.toNat < 32 then none
  else some ⟨.string (push text c), found⟩

def inEscape (text : Option (List Char)) (found : List Token) (c : Char) : Option Scanner :=
  if c = 'u' then some ⟨.code text none 4 0, found⟩
  else (unescape c).map fun d => ⟨.string (push text d), found⟩

def step (s : Scanner) : Option Char → Option Scanner
  | none => match s.mode with
    | .string _ | .half .. => some ⟨.string none, s.found⟩
    | _ => none
  | some c => match s.mode with
    | .between => start s.found c
    | .word [] _ => none
    | .word [d] token => if c = d then some ⟨.between, token :: s.found⟩ else none
    | .word (d :: rest) token => if c = d then some ⟨.word rest token, s.found⟩ else none
    | .number text =>
      if Numeral.isPart c then some ⟨.number (c :: text), s.found⟩
      else (endNumber text s.found).bind (start · c)
    | .string text => inString text s.found c
    | .escape text => inEscape text s.found c
    | .code text high digits value => do
      let value := value * 16 + (← Decimal.hexDigit? c)
      return ⟨if digits ≤ 1 then endCode text high value else .code text high (digits - 1) value,
        s.found⟩
    | .half text high =>
      if c = '\\' then some ⟨.halfEscape text high, s.found⟩ else inString none s.found c
    | .halfEscape text high =>
      if c = 'u' then some ⟨.code text (some high) 4 0, s.found⟩ else inEscape none s.found c

def finish (s : Scanner) : Option (List Token) :=
  match s.mode with
  | .between => some s.found.reverse
  | .number text => (endNumber text s.found).map List.reverse
  | _ => none

/-- The tokens of a text, `none` if it cannot be cut into tokens. -/
def scan (cs : List (Option Char)) : Option (List Token) := do
  finish (← cs.foldlM step ⟨.between, []⟩)

end Token

end ConsumerConnector.Json
