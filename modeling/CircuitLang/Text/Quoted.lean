import CircuitLang.Text.JoiningMark
import CircuitLang.Text.Unprintable

/-! Text between double quotes, with every character shown.

Four controls, the backslash and the quote have a short escape. A character that cannot be seen on
its own, because it joins its neighbour or has no visible form, is written by its
code point in lower-case hexadecimal. Everything else stands for itself. -/
namespace CircuitLang.Text.Quoted

/-- The code point of a character between braces, without leading zeros. -/
def codePoint (c : Char) : List Char :=
  ['\\', 'u', '\x7b'] ++ Nat.toDigits 16 c.toNat ++ ['\x7d']

/-- One character as it stands between the quotes. -/
def escape (c : Char) : List Char :=
  match c with
  | '\x00' => ['\\', '0']
  | '\t' => ['\\', 't']
  | '\r' => ['\\', 'r']
  | '\n' => ['\\', 'n']
  | '\\' => ['\\', '\\']
  | '"' => ['\\', '"']
  | c => if joiningMark.contains c || unprintable.contains c then codePoint c else [c]

/-- A text between double quotes. -/
def encode (text : String) : String :=
  String.ofList ('"' :: text.toList.flatMap escape ++ ['"'])

end CircuitLang.Text.Quoted
