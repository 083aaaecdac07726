/-!
# Laying out fixed-width text

Widths count characters. A text that is wider than its field is written in full, but no text can be
put into a field that is wider than `widthMax`.

## Main definitions

* `Align` — the side of its field a text is pushed to
* `Align.pad` — a text in a field
* `Align.pad?` — the same, for a width that is not known to be possible
* `lines` — lines, each closed by a newline
-/

namespace Baseball

/-- The side of its field a text is pushed to. -/
inductive Align where
  | left
  | right
deriving DecidableEq, Inhabited

/-- The greatest width of a field, and the greatest number of places of a decimal. -/
def widthMax : Nat := 0xFFFF

/-- The blanks that fill `cs` up to `width` characters. -/
def filler (width : Nat) (cs : List Char) : List Char := .replicate (width - cs.length) ' '

namespace Align

/-- The characters of a text in a field of the given width. -/
def padChars (align : Align) (width : Nat) (cs : List Char) : List Char :=
  match align with
  | left => cs ++ filler width cs
  | right => filler width cs ++ cs

/-- A text in a field of the given width. -/
def pad (align : Align) (width : Nat) (s : String) : String :=
  .ofList (align.padChars width s.toList)

/-- A text in a field of the given width, if a field can be that wide. -/
def pad? (align : Align) (width : Nat) (s : String) : Option String :=
  if width ≤ widthMax then some (align.pad width s) else none

theorem length_padChars (align : Align) (width : Nat) (cs : List Char) :
    (align.padChars width cs).length = max width cs.length := by
  cases align <;> simp [padChars, filler] <;> omega

/-- A field has nothing in it but its text and spaces. -/
theorem mem_padChars {align : Align} {width : Nat} {cs : List Char} {c : Char}
    (h : c ∈ align.padChars width cs) : c ∈ cs ∨ c = ' ' := by
  cases align with
  | left => exact (List.mem_append.mp h).imp_right List.eq_of_mem_replicate
  | right => exact (List.mem_append.mp h).symm.imp_right List.eq_of_mem_replicate

end Align

/-- A text pushed to the left of its field. -/
abbrev padRight (width : Nat) (s : String) : String := Align.left.pad width s

/-- A text pushed to the right of its field. -/
abbrev padLeft (width : Nat) (s : String) : String := Align.right.pad width s

/-- The text of several lines, each closed by a newline. -/
def lines (ls : List String) : String := .join (ls.map (· ++ "\n"))

theorem toList_lines (ls : List String) :
    (lines ls).toList = ls.flatMap fun l => l.toList ++ ['\n'] := by
  rw [lines, String.toList_join, List.flatMap_map]
  simp only [String.toList_append]
  rfl

end Baseball
