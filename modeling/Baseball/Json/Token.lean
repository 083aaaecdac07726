import Baseball.Json.Value

/-!
# Tokens of JSON texts

A JSON text is read one character at a time. Quoted texts, names and numbers each become one token;
blanks between tokens are passed over.

A number that is written with a point or an exponent is no whole number, and neither is one that 64
bits cannot hold, nor a zero with a sign.

## Main definitions

* `Token`
* `number?`, `word?` — what a name or a number stands for
* `Lexer` — where a reader stands, with `Lexer.read`
* `tokens?` — the tokens of a text
-/

namespace Baseball.Json

/-- A token of a JSON text. -/
inductive Token where
  | openArray
  | closeArray
  | openObject
  | closeObject
  | comma
  | colon
  /-- A value that is neither an array nor an object. -/
  | scalar (value : Json)
deriving Inhabited

/-! ### Names and numbers -/

/-- The number that digits stand for, if they are digits and there are any. -/
def digits? (cs : List Char) : Option Nat :=
  if cs.isEmpty || !cs.all Char.isDigit then none
  else some (cs.foldl (fun n c => 10 * n + (c.toNat - '0'.toNat)) 0)

/-- The digits before the point: a zero comes first only if it stands alone. -/
def wholeDigits? (cs : List Char) : Option Nat :=
  if cs.head? = some '0' ∧ cs ≠ ['0'] then none else digits? cs

/-- The digits before and after a point, of which there must be some on either side, as if there
were no point. -/
def pointDigits? (whole fraction : List Char) : Option Nat := do
  let _ ← wholeDigits? whole
  let _ ← digits? fraction
  digits? (whole ++ fraction)

/-- The digits of an exponent, which may have a sign. -/
def exponent? : List Char → Option Int
  | '-' :: cs => (digits? cs).map fun n => -(n : Int)
  | '+' :: cs => (digits? cs).map Int.ofNat
  | cs => (digits? cs).map Int.ofNat

/-- The real number `digits * 10 ^ power`, or its negative. -/
def ofScientific (negative : Bool) (digits : Nat) (power : Int) : Json :=
  let x := Float.ofScientific digits (power < 0) power.natAbs
  real (if negative then -x else x)

/-- A number without a point: whole if 64 bits can hold it and it is no zero with a sign. -/
def ofWhole (negative : Bool) (n : Nat) : Json :=
  if negative then if 0 < n ∧ n ≤ 0x8000000000000000 then int (-n) else ofScientific true n 0
  else if n ≤ sizeMax then int n else ofScientific false n 0

/-- A number without its sign. -/
def magnitude? (negative : Bool) (cs : List Char) : Option Json :=
  let mantissa := cs.takeWhile fun c => c != 'e' && c != 'E'
  let exponent := cs.dropWhile fun c => c != 'e' && c != 'E'
  let whole := mantissa.takeWhile (· != '.')
  let fraction := mantissa.dropWhile (· != '.')
  match fraction, exponent with
  | [], [] => (wholeDigits? whole).map (ofWhole negative)
  | [], _ :: es => do ofScientific negative (← wholeDigits? whole) (← exponent? es)
  | _ :: fs, [] => do ofScientific negative (← pointDigits? whole fs) (-fs.length)
  | _ :: fs, _ :: es => do
    ofScientific negative (← pointDigits? whole fs) ((← exponent? es) - fs.length)

/-- A number. -/
def number? : List Char → Option Json
  | '-' :: cs => magnitude? true cs
  | cs => magnitude? false cs

/-- A name or a number. -/
def word? (cs : List Char) : Option Json :=
  match String.ofList cs with
  | "null" => some null
  | "true" => some (bool true)
  | "false" => some (bool false)
  | _ => number? cs

/-! ### Escapes -/

/-- The character that a letter after a backslash stands for. -/
def escaped? : Char → Option Char
  | '\x22' => some '\x22'
  | '\\' => some '\\'
  | '/' => some '/'
  | 'b' => some '\x08'
  | 'f' => some '\x0c'
  | 'n' => some '\n'
  | 'r' => some '\r'
  | 't' => some '\t'
  | _ => none

/-- The value of a hexadecimal digit. -/
def hexDigit? (c : Char) : Option Nat :=
  if c.isDigit then some (c.toNat - '0'.toNat)
  else if 'a' ≤ c ∧ c ≤ 'f' then some (c.toNat - 'a'.toNat + 10)
  else if 'A' ≤ c ∧ c ≤ 'F' then some (c.toNat - 'A'.toNat + 10)
  else none

/-- Whether a code is the first half of a pair. -/
def isHighHalf (code : Nat) : Bool := 0xD800 ≤ code && code < 0xDC00

/-- Whether a code is the second half of a pair. -/
def isLowHalf (code : Nat) : Bool := 0xDC00 ≤ code && code < 0xE000

/-- The character of a pair of halves. -/
def ofHalves (high low : Nat) : Char :=
  .ofNat (0x10000 + 0x400 * (high - 0xD800) + (low - 0xDC00))

/-! ### Reading -/

/-- Where a reader stands. What was read of a token is kept last first. -/
inductive Place where
  | between
  | inWord (before : List Char)
  | inText (before : List Char)
  | afterBackslash (before : List Char)
  /-- In a code of four digits: how many are left, what those before are worth, and the first half of
  a pair if this is the second. -/
  | inCode (before : List Char) (high? : Option Nat) (left code : Nat)
  /-- After the first half of a pair. -/
  | afterHigh (before : List Char) (high : Nat)
  /-- After the first half of a pair and a backslash. -/
  | afterHighBackslash (before : List Char) (high : Nat)

/-- A reader: where it stands, and the tokens so far, last first. -/
structure Lexer where
  place : Place := .between
  tokens : List Token := []

namespace Lexer

/-- Whether a character stands between tokens. -/
def isBlank (c : Char) : Bool := c == ' ' || c == '\n' || c == '\r' || c == '\t'

/-- Whether a character can be part of a name or a number. -/
def isWordChar (c : Char) : Bool := c.isAlphanum || c == '-' || c == '+' || c == '.'

/-- The token of a character that is one by itself. -/
def mark? : Char → Option Token
  | '[' => some .openArray
  | ']' => some .closeArray
  | '\x7b' => some .openObject
  | '\x7d' => some .closeObject
  | ',' => some .comma
  | ':' => some .colon
  | _ => none

/-- Stands between tokens, after one more. -/
def emit (l : Lexer) (t : Token) : Lexer := ⟨.between, t :: l.tokens⟩

/-- Stands elsewhere. -/
def goTo (l : Lexer) (place : Place) : Lexer := { l with place }

/-- Reads a character between tokens. -/
def start (l : Lexer) (c : Char) : Option Lexer :=
  if isBlank c then some (l.goTo .between)
  else if c == '\x22' then some (l.goTo (.inText []))
  else if isWordChar c then some (l.goTo (.inWord [c]))
  else (mark? c).map l.emit

/-- Ends a name or a number. -/
def endWord (l : Lexer) (before : List Char) : Option Lexer :=
  (word? before.reverse).map fun j => l.emit (.scalar j)

/-- Ends a code of four digits. -/
def endCode (l : Lexer) (before : List Char) (high? : Option Nat) (code : Nat) : Option Lexer :=
  match high? with
  | none =>
    if isHighHalf code then some (l.goTo (.afterHigh before code))
    else if isLowHalf code then none
    else some (l.goTo (.inText (.ofNat code :: before)))
  | some high =>
    if isLowHalf code then some (l.goTo (.inText (ofHalves high code :: before))) else none

/-- Reads a character; none if it cannot stand there. -/
def read (l : Lexer) (c : Char) : Option Lexer :=
  match l.place with
  | .between => l.start c
  | .inWord before =>
    if isWordChar c then some (l.goTo (.inWord (c :: before)))
    else (l.endWord before).bind (·.start c)
  | .inText before =>
    if c == '\x22' then some (l.emit (.scalar (.string (.ofList before.reverse))))
    else if c == '\\' then some (l.goTo (.afterBackslash before))
    else if c.toNat < 32 then none
    else some (l.goTo (.inText (c :: before)))
  | .afterBackslash before =>
    if c == 'u' then some (l.goTo (.inCode before none 3 0))
    else (escaped? c).map fun c => l.goTo (.inText (c :: before))
  | .inCode before high? left code => do
    let code := 16 * code + (← hexDigit? c)
    match left with
    | 0 => l.endCode before high? code
    | left + 1 => some (l.goTo (.inCode before high? left code))
  | .afterHigh before high =>
    if c == '\\' then some (l.goTo (.afterHighBackslash before high)) else none
  | .afterHighBackslash before high =>
    if c == 'u' then some (l.goTo (.inCode before (some high) 3 0)) else none

/-- The tokens once everything is read, unless one is not closed. -/
def finish? (l : Lexer) : Option (List Token) :=
  match l.place with
  | .between => some l.tokens.reverse
  | .inWord before => (l.endWord before).map fun l => l.tokens.reverse
  | _ => none

end Lexer

/-- The tokens of a text. -/
def tokens? (s : String) : Option (List Token) := do
  (← s.toList.foldlM Lexer.read {}).finish?

end Baseball.Json
