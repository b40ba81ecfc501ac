/-
Quoting a text so that every character of it can be seen.

A foreign text is echoed in a message between double quotes. Quotes and backslashes are escaped by
a backslash, the common controls by their letters, and every other character that is not visible on
its own by its code point in lowercase hexadecimal.
-/
import Screening.Text.VisibleTable

namespace Screening.Text

/-- The digits of a number in lowercase hexadecimal, without leading zeros. -/
def hexDigits (n : Nat) : List Char :=
  Nat.toDigits 16 n

/-- A character as it stands between double quotes. -/
def quoteChar (c : Char) : List Char :=
  match c with
  | '\x00' => ['\\', '0']
  | '\t' => ['\\', 't']
  | '\n' => ['\\', 'n']
  | '\r' => ['\\', 'r']
  | '"' => ['\\', '"']
  | '\\' => ['\\', '\\']
  | c =>
    if isVisible c then [c]
    else '\\' :: 'u' :: Char.ofNat 0x7B :: hexDigits c.toNat ++ [Char.ofNat 0x7D]

/-- A text between double quotes, with every character visible. -/
def quote (s : String) : String :=
  String.ofList ('"' :: s.toList.flatMap quoteChar ++ ['"'])

end Screening.Text
