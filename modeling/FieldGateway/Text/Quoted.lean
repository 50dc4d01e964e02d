import FieldGateway.Text.Invisible

/-!
# Quoted text

A text inside a message stands between double quotes. A quote and a backslash inside it take a
backslash in front, five control characters have a letter, and every other character that shows
nothing of its own is written by its number in hexadecimal.
-/

namespace FieldGateway.Text

/-- The number in small hexadecimal digits, without leading zeros. -/
def hexadecimal (n : Nat) : List Char := Nat.toDigits 16 n

/-- One character as it stands between quotes. -/
def quotedChar (c : Char) : List Char :=
  match c with
  | '"' => ['\\', '"']
  | '\\' => ['\\', '\\']
  | '\n' => ['\\', 'n']
  | '\r' => ['\\', 'r']
  | '\t' => ['\\', 't']
  | '\x00' => ['\\', '0']
  | c => if isInvisible c then "\\u\x7b".toList ++ hexadecimal c.toNat ++ ['\x7d'] else [c]

/-- The text between double quotes. -/
def quoted (s : String) : String :=
  String.ofList ('"' :: (s.toList.flatMap quotedChar ++ ['"']))

example : quoted "a/b" = "\"a/b\"" := by decide +kernel

end FieldGateway.Text
