import Telemetry.Text.Unmarked

/-!
# Quoted text

A text in double quotes, in which every character can be told apart by eye: the quote and the
backslash are preceded by a backslash, the usual control characters have a letter, and every other
character without a mark of its own is written as its code point in hexadecimal.
-/

namespace Telemetry.Text

/-- A code point in lower-case hexadecimal, without leading zeros. -/
def hex (n : Nat) : List Char := Nat.toDigits 16 n

/-- A character as it stands between double quotes. -/
def escape (c : Char) : List Char :=
  match c with
  | '\x00' => ['\\', '0']
  | '\t' => ['\\', 't']
  | '\n' => ['\\', 'n']
  | '\r' => ['\\', 'r']
  | '"' => ['\\', '"']
  | '\\' => ['\\', '\\']
  | c => if isUnmarked c then ['\\', 'u', '{'] ++ hex c.toNat ++ ['}'] else [c]

/-- The text in double quotes, escaped. -/
def quote (s : String) : String :=
  String.ofList ('"' :: s.toList.flatMap escape ++ ['"'])

example : quote "a\"b\\ \u0301é" = "\"a\\\"b\\\\ \\u\x7b301\x7dé\"" := by decide +kernel

end Telemetry.Text
