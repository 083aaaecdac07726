import Baseball.Json.Value
import Baseball.Keyed

/-!
# Writing JSON texts

A value is written without blanks and with the fields of objects in the order of their names. A
number that is not whole is written as a text: the sixteen hexadecimal digits of its bits, which lose
nothing.

## Main definitions

* `hexText` — a number in hexadecimal digits
* `Json.quote` — a text in quotes
* `Json.text` — a value
-/

namespace Baseball

/-- A hexadecimal digit. -/
def hexDigit (n : Nat) : Char := if n < 10 then .ofNat (48 + n) else .ofNat (87 + n)

/-- The last `width` hexadecimal digits of a number. -/
def hexText (width n : Nat) : String :=
  .ofList ((List.range width).reverse.map fun i => hexDigit ((n >>> (4 * i)) % 16))

/-- The bits of a floating-point number in hexadecimal digits. -/
def bitsText (x : Float) : String := hexText 16 x.toBits.toNat

namespace Json

/-- How a character is written in quotes. -/
def escape (c : Char) : String :=
  match c with
  | '\x22' => "\\\x22"
  | '\\' => "\\\\"
  | '\x08' => "\\b"
  | '\t' => "\\t"
  | '\n' => "\\n"
  | '\x0c' => "\\f"
  | '\r' => "\\r"
  | c => if c.toNat < 32 then "\\u" ++ hexText 4 c.toNat else .singleton c

/-- A text in quotes. -/
def quote (s : String) : String := "\x22" ++ .join (s.toList.map escape) ++ "\x22"

mutual

/-- A value as text. -/
def text : Json → String
  | null => "null"
  | bool b => if b then "true" else "false"
  | int n => toString n
  | real x => quote (bitsText x)
  | string s => quote s
  | array items => "[" ++ ",".intercalate (itemTexts items) ++ "]"
  | object fields =>
    "\x7b" ++ ",".intercalate ((Keyed.ofList (fieldTexts fields)).entries.map fun (name, s) =>
      quote name ++ ":" ++ s) ++ "\x7d"

/-- The items of an array as texts. -/
def itemTexts : List Json → List String
  | [] => []
  | j :: js => j.text :: itemTexts js

/-- The fields of an object with their values as texts. -/
def fieldTexts : List (String × Json) → List (String × String)
  | [] => []
  | (name, j) :: fields => (name, j.text) :: fieldTexts fields

end

end Json

end Baseball
