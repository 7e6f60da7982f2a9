import ConsumerConnector.Text.Printable

/-! Texts in quotes, for people to read: what does not show by itself is written by its number. -/

namespace ConsumerConnector.Text.Quoted

def hex (n : Nat) : List Char := Nat.toDigits 16 n

def encodeChar (c : Char) : List Char :=
  match c with
  | '\x00' => ['\\', '0']
  | '\t' => ['\\', 't']
  | '\r' => ['\\', 'r']
  | '\n' => ['\\', 'n']
  | '"' => ['\\', '"']
  | '\\' => ['\\', '\\']
  | c => if isPrintable c then [c] else "\\u\x7b".toList ++ hex c.toNat ++ ['\x7d']

def encode (s : String) : String :=
  String.ofList ('"' :: s.toList.flatMap encodeChar ++ ['"'])

end ConsumerConnector.Text.Quoted
