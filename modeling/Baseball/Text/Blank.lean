/-!
# Blank characters

The characters with the Unicode property White_Space, and what is left of a text when they are
taken off its ends.

## Main definitions

* `isBlank` — White_Space, as a list of ranges
* `trimStart`, `trimEnd`, `trim` — on lists of characters
* `String.trimBlank`, `String.trimBlankEnd` — the same on strings
-/

namespace Baseball

/-- The ranges of code points with the property White_Space, both ends included. -/
def blankRanges : List (Nat × Nat) :=
  [(0x09, 0x0D), (0x20, 0x20), (0x85, 0x85), (0xA0, 0xA0), (0x1680, 0x1680), (0x2000, 0x200A),
    (0x2028, 0x2029), (0x202F, 0x202F), (0x205F, 0x205F), (0x3000, 0x3000)]

/-- Whether a character is white space. -/
def isBlank (c : Char) : Bool :=
  blankRanges.any fun r => r.1 ≤ c.toNat && c.toNat ≤ r.2

/-- A text without the blanks it starts with. -/
def trimStart (cs : List Char) : List Char := cs.dropWhile isBlank

/-- A text without the blanks it ends with. -/
def trimEnd (cs : List Char) : List Char := (cs.reverse.dropWhile isBlank).reverse

/-- A text without the blanks at either end. -/
def trim (cs : List Char) : List Char := trimEnd (trimStart cs)

/-- A string without the blanks it ends with. -/
def trimBlankEnd (s : String) : String := .ofList (trimEnd s.toList)

/-- A string without the blanks at either end. -/
def trimBlank (s : String) : String := .ofList (trim s.toList)

@[simp]
theorem trimStart_nil : trimStart [] = [] := rfl

@[simp]
theorem trimEnd_nil : trimEnd [] = [] := rfl

/-- A text that starts with a character that is not blank keeps its start. -/
theorem trimStart_cons_of_not_blank {c : Char} {cs : List Char} (h : isBlank c = false) :
    trimStart (c :: cs) = c :: cs := by
  simp [trimStart, h]

/-- No text ends in a blank once it is trimmed. -/
theorem isBlank_getLast_trimEnd {cs : List Char} (h : trimEnd cs ≠ []) :
    isBlank ((trimEnd cs).getLast h) = false := by
  have hne : cs.reverse.dropWhile isBlank ≠ [] := by simpa [trimEnd] using h
  have := List.head_dropWhile_not isBlank hne
  simpa [trimEnd, List.getLast_reverse] using this

end Baseball
