import ConsumerConnector.Decimal.Digits

/-!
TOML text cut into tokens. What stands outside of quotes comes as words, whatever it means; blanks and
comments are left out, line ends stay.
-/

namespace ConsumerConnector.Toml

inductive Token
  | word (text : List Char)
  | string (text : String) (multiline : Bool)
  | equals | comma | newline
  /-- `glued` to a bracket of the same kind right before it. -/
  | openBracket (glued : Bool)
  | closeBracket (glued : Bool)
  | openBrace | closeBrace

/-- The two kinds of quotation: with escapes or without. -/
inductive Quotation
  | basic | literal
  deriving DecidableEq

def Quotation.mark : Quotation → Char
  | basic => '"'
  | literal => '\''

namespace Token

/-- Where the scanner stands. Characters read so far are kept with the last one first. -/
inductive Mode
  | between
  | word (text : List Char)
  /-- A date and a blank, after which a time may follow. -/
  | date (text : List Char)
  | comment
  /-- One quotation mark has been read. -/
  | opening (q : Quotation)
  /-- Two quotation marks have been read. -/
  | empty (q : Quotation)
  | line (q : Quotation) (text : List Char)
  /-- Three quotation marks have been read; a line end right after them is dropped. -/
  | fresh (q : Quotation)
  /-- Several lines, of which the last `marks` characters are quotation marks. -/
  | block (q : Quotation) (text : List Char) (marks : Nat)
  | escape (block : Bool) (text : List Char)
  | code (block : Bool) (text : List Char) (digits value : Nat)
  /-- A backslash at the end of a line has been read, but not yet the line end. -/
  | gap (text : List Char)
  /-- Blanks and line ends after it are dropped. -/
  | fold (text : List Char)

structure Scanner where
  mode : Mode
  /-- Tokens found, the last one first. -/
  found : List Token
  previous : Option Char

/-- What a character leads to: a mode and the tokens found. -/
abbrev Move := Mode × List Token

def isBlank (c : Char) : Bool := c = ' ' || c = '\t' || c = '\r'

def endsWord (c : Char) : Bool :=
  isBlank c || c ∈ ['\n', '=', ',', '[', ']', '\x7b', '\x7d', '#', '"', '\'']

/-- Tabs, and all characters but controls. -/
def isAllowed (c : Char) : Bool :=
  c = '\t' || (32 ≤ c.toNat && c.toNat ≠ 127)

/-- Whether a text, the last character first, has the form of a date. -/
def isDate (text : List Char) : Bool :=
  match text with
  | [d, d', '-', m, m', '-', y, y', y'', y'''] =>
    [d, d', m, m', y, y', y'', y'''].all Decimal.isDigit
  | _ => false

def quoted (text : List Char) (multiline : Bool) : Token :=
  .string (String.ofList text.reverse) multiline

def start (found : List Token) (previous : Option Char) (c : Char) : Move :=
  if isBlank c then (.between, found)
  else match c with
    | '\n' => (.between, .newline :: found)
    | '#' => (.comment, found)
    | '=' => (.between, .equals :: found)
    | ',' => (.between, .comma :: found)
    | '[' => (.between, .openBracket (previous = some '[') :: found)
    | ']' => (.between, .closeBracket (previous = some ']') :: found)
    | '\x7b' => (.between, .openBrace :: found)
    | '\x7d' => (.between, .closeBrace :: found)
    | '"' => (.opening .basic, found)
    | '\'' => (.opening .literal, found)
    | c => (.word [c], found)

def resume (block : Bool) (text : List Char) : Mode :=
  if block then .block .basic text 0 else .line .basic text

def inLine (q : Quotation) (text : List Char) (found : List Token) (c : Char) : Option Move :=
  if c = q.mark then some (.between, quoted text false :: found)
  else if c = '\\' ∧ q = .basic then some (.escape false text, found)
  else if isAllowed c then some (.line q (c :: text), found)
  else none

/-- Three marks end a text of several lines; up to two marks before them belong to it. -/
def inBlock (q : Quotation) (text : List Char) (marks : Nat) (found : List Token)
    (previous : Option Char) (c : Char) : Option Move :=
  if c = q.mark then
    if marks = 4 then some (.between, quoted (q.mark :: q.mark :: text) true :: found)
    else some (.block q text (marks + 1), found)
  else
    let text' := List.replicate (if marks < 3 then marks else marks - 3) q.mark ++ text
    if 3 ≤ marks then some (start (quoted text' true :: found) previous c)
    else if c = '\\' ∧ q = .basic then some (.escape true text', found)
    else if isAllowed c ∨ c = '\n' ∨ c = '\r' then some (.block q (c :: text') 0, found)
    else none

def unescape : Char → Option Char
  | 'b' => some '\x08'
  | 't' => some '\t'
  | 'n' => some '\n'
  | 'f' => some '\x0c'
  | 'r' => some '\r'
  | 'e' => some '\x1b'
  | '"' => some '"'
  | '\\' => some '\\'
  | _ => none

/-- How many hexadecimal digits an escape has. -/
def codeLength : Char → Option Nat
  | 'x' => some 2
  | 'u' => some 4
  | 'U' => some 8
  | _ => none

def inEscape (block : Bool) (text : List Char) (found : List Token) (c : Char) : Option Move :=
  match unescape c, codeLength c with
  | some d, _ => some (resume block (d :: text), found)
  | none, some digits => some (.code block text digits 0, found)
  | none, none =>
    if !block then none
    else if c = '\n' then some (.fold text, found)
    else if isBlank c then some (.gap text, found)
    else none

def inCode (block : Bool) (text : List Char) (digits value : Nat) (found : List Token) (c : Char) :
    Option Move := do
  let value := value * 16 + (← Decimal.hexDigit? c)
  if 1 < digits then some (.code block text (digits - 1) value, found)
  else if value.isValidChar then some (resume block (Char.ofNat value :: text), found)
  else none

def move (s : Scanner) (c : Char) : Option Move :=
  match s.mode with
  | .between => some (start s.found s.previous c)
  | .word text =>
    if !endsWord c then some (.word (c :: text), s.found)
    else if c = ' ' ∧ isDate text then some (.date text, s.found)
    else some (start (.word text.reverse :: s.found) s.previous c)
  | .date text =>
    if Decimal.isDigit c then some (.word (c :: ' ' :: text), s.found)
    else some (start (.word text.reverse :: s.found) s.previous c)
  | .comment =>
    if c = '\n' then some (start s.found s.previous c)
    else if isAllowed c ∨ c = '\r' then some (.comment, s.found)
    else none
  | .opening q =>
    if c = q.mark then some (.empty q, s.found) else inLine q [] s.found c
  | .empty q =>
    if c = q.mark then some (.fresh q, s.found)
    else some (start (quoted [] false :: s.found) s.previous c)
  | .line q text => inLine q text s.found c
  | .fresh q =>
    if c = '\n' then some (.block q [] 0, s.found)
    else if c = '\r' then some (.fresh q, s.found)
    else inBlock q [] 0 s.found s.previous c
  | .block q text marks => inBlock q text marks s.found s.previous c
  | .escape block text => inEscape block text s.found c
  | .code block text digits value => inCode block text digits value s.found c
  | .gap text =>
    if c = '\n' then some (.fold text, s.found)
    else if isBlank c then some (.gap text, s.found)
    else none
  | .fold text =>
    if isBlank c ∨ c = '\n' then some (.fold text, s.found)
    else inBlock .basic text 0 s.found s.previous c

/-- A carriage return is part of a line end and of nothing else. -/
def step (s : Scanner) (c : Char) : Option Scanner :=
  if s.previous = some '\r' ∧ c ≠ '\n' then none
  else (move s c).map fun (mode, found) => ⟨mode, found, some c⟩

def finish (s : Scanner) : Option (List Token) :=
  if s.previous = some '\r' then none
  else match s.mode with
    | .between | .comment => some s.found.reverse
    | .word text | .date text => some (.word text.reverse :: s.found).reverse
    | .empty _ => some (quoted [] false :: s.found).reverse
    | .block q text marks =>
      if 3 ≤ marks then
        some (quoted (List.replicate (marks - 3) q.mark ++ text) true :: s.found).reverse
      else none
    | _ => none

/-- The tokens of a text, `none` if it cannot be cut into tokens. -/
def scan (cs : List Char) : Option (List Token) := do
  finish (← cs.foldlM step ⟨.between, [], none⟩)

end Token

end ConsumerConnector.Toml
