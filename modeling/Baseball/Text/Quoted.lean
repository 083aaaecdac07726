import Baseball.Text.Hidden

/-!
# Quoted text

A text between double quotes, so that one can see where it ends and what is in it: quotes,
backslashes and line ends are written with a backslash, and characters that do not show by their
numbers.

## Main definitions

* `quotedChar` — how one character is written
* `quoted` — a text between quotes
-/

namespace Baseball

/-- How a character is written between quotes. -/
def quotedChar (c : Char) : List Char :=
  match c with
  | '\x00' => ['\\', '0']
  | '\t' => ['\\', 't']
  | '\r' => ['\\', 'r']
  | '\n' => ['\\', 'n']
  | '\x22' => ['\\', '\x22']
  | '\\' => ['\\', '\\']
  | c => if isHidden c then "\\u\x7b".toList ++ Nat.toDigits 16 c.toNat ++ ['\x7d'] else [c]

/-- A text between double quotes. -/
def quoted (s : String) : String := .ofList ('\x22' :: s.toList.flatMap quotedChar ++ ['\x22'])

end Baseball
