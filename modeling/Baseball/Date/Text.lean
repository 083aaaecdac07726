import Baseball.Date.Basic
import Baseball.Text.Blank

/-!
# Written dates

A date is written as year, month and day with hyphens between. The year has at least four digits,
and a sign when it is negative or has more; month and day have two digits. A reader accepts months
and days of one digit, years of fewer digits, and blanks around every number; a year without a sign
has at most four digits.

## Main definitions

* `Date.text` — the written form
* `Date.read?` — the date that a text says
* `Date.longText` — the form of a heading, with the names of weekday and month
-/

namespace Baseball.Date

/-! ### Writing -/

/-- The digits of a number, filled up with zeros to a width. -/
def zeroPadded (width n : Nat) : List Char :=
  let digits := Nat.toDigits 10 n
  .replicate (width - digits.length) '0' ++ digits

/-- The sign of a written year: none for the years 0 to 9999. -/
def yearSign (year : Int) : List Char :=
  if year < 0 then ['-'] else if year ≤ 9999 then [] else ['+']

/-- A written year. -/
def yearText (year : Int) : List Char := yearSign year ++ zeroPadded 4 year.natAbs

/-- The characters of a written date. -/
def chars (d : Date) : List Char :=
  yearText d.year ++ '-' :: zeroPadded 2 d.month ++ '-' :: zeroPadded 2 d.day

/-- The written form of a date. -/
def text (d : Date) : String := .ofList d.chars

/-- The names of the days of the week, Monday first. -/
def weekdayNames : List String :=
  ["Monday", "Tuesday", "Wednesday", "Thursday", "Friday", "Saturday", "Sunday"]

/-- The names of the months. -/
def monthNames : List String :=
  ["January", "February", "March", "April", "May", "June", "July", "August", "September",
    "October", "November", "December"]

/-- A date as headings give it: weekday, month, day and year. -/
def longText (d : Date) : String :=
  (weekdayNames[d.weekday]?).getD "" ++ ", " ++ (monthNames[d.month - 1]?).getD "" ++ " "
    ++ d.day.repr ++ ", " ++ .ofList (yearText d.year)

/-! ### Reading -/

/-- Reads a number of one to `limit` digits, and returns what follows it. -/
def readNumber? (limit : Nat) (cs : List Char) : Option (Nat × List Char) :=
  let digits := (cs.take limit).takeWhile Char.isDigit
  if digits.isEmpty then none else some (Nat.ofDigitChars 10 digits 0, cs.drop digits.length)

/-- Reads a year, of at most four digits if it has no sign. -/
def readYear? : List Char → Option (Int × List Char)
  | '-' :: cs => (readNumber? cs.length cs).map fun (n, rest) => (-n, rest)
  | '+' :: cs => (readNumber? cs.length cs).map fun (n, rest) => ((n : Int), rest)
  | cs => (readNumber? 4 cs).map fun (n, rest) => ((n : Int), rest)

/-- Reads a hyphen. -/
def readHyphen? : List Char → Option (List Char)
  | '-' :: rest => some rest
  | _ => none

/-- The date that a list of characters says. -/
def ofChars? (cs : List Char) : Option Date := do
  let (year, cs) ← readYear? (trimStart cs)
  let cs ← readHyphen? (trimStart cs)
  let (month, cs) ← readNumber? 2 (trimStart cs)
  let cs ← readHyphen? (trimStart cs)
  let (day, cs) ← readNumber? 2 (trimStart cs)
  if (trimStart cs).isEmpty then ofYmd? year month day else none

/-- The date that a text says. -/
def read? (s : String) : Option Date := ofChars? s.toList

end Baseball.Date
