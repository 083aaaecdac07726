import Baseball.Date.Text
import Mathlib.Algebra.Order.Ring.Nat

/-!
# Reading a written date

A date is read back as it was written, whatever its year. The reader takes as many digits of a
number as it may and finds its end where the digits stop. It may take four of a year without a sign,
and so the years with a sign are those below 0, and those which need more digits than four.

## Main results

* `Date.readNumber?_append` — a number is read up to where its digits stop
* `Date.readYear?_yearText` — so is a year
* `Date.read?_text` — and a date
-/

namespace Baseball.Date

/-! ### Numbers -/

theorem isDigit_of_mem_zeroPadded {width n : Nat} {c : Char} (h : c ∈ zeroPadded width n) :
    c.isDigit := by
  rcases List.mem_append.mp h with h | h
  · rw [List.eq_of_mem_replicate h]
    rfl
  · exact Nat.isDigit_of_mem_toDigits (by decide) (by decide) h

/-- Zeros in front of a number do not change it. -/
theorem ofDigitChars_zeroPadded (width n : Nat) :
    Nat.ofDigitChars 10 (zeroPadded width n) 0 = n := by
  rw [zeroPadded, Nat.ofDigitChars_append, Nat.ofDigitChars_replicate_zero, Nat.mul_zero,
    Nat.ofDigitChars_ten_toDigits]

theorem length_zeroPadded {width n : Nat} (hwidth : 0 < width) (hn : n < 10 ^ width) :
    (zeroPadded width n).length = width := by
  have hlength := (Nat.length_toDigits_le_iff (by decide) hwidth).mpr hn
  rw [zeroPadded, List.length_append, List.length_replicate, Nat.sub_add_cancel hlength]

theorem zeroPadded_ne_nil (width n : Nat) : zeroPadded width n ≠ [] :=
  List.append_ne_nil_of_right_ne_nil _ Nat.toDigits_ne_nil

/-- **A number is read up to where its digits stop**, if there are no more of them than may be
read. -/
theorem readNumber?_append {limit : Nat} {digits rest : List Char}
    (hdigits : ∀ c ∈ digits, c.isDigit) (hne : digits ≠ []) (hlimit : digits.length ≤ limit)
    (hrest : ∀ c ∈ rest.head?, c.isDigit = false) :
    readNumber? limit (digits ++ rest) = some (Nat.ofDigitChars 10 digits 0, rest) := by
  have hstop (k : Nat) : (rest.take k).takeWhile Char.isDigit = [] := by
    cases k with
    | zero => rfl
    | succ k =>
      cases rest with
      | nil => rfl
      | cons c rest => rw [List.take_succ_cons, List.takeWhile_cons_of_neg (by simp [hrest c rfl])]
  have htake : ((digits ++ rest).take limit).takeWhile Char.isDigit = digits := by
    rw [List.take_append, List.take_of_length_le hlimit, List.takeWhile_append_of_pos hdigits,
      hstop, List.append_nil]
  rw [readNumber?, htake]
  simp [hne]

theorem readNumber?_zeroPadded {limit width n : Nat} {rest : List Char}
    (hlimit : (zeroPadded width n).length ≤ limit)
    (hrest : ∀ c ∈ rest.head?, c.isDigit = false) :
    readNumber? limit (zeroPadded width n ++ rest) = some (n, rest) := by
  rw [readNumber?_append (fun c => isDigit_of_mem_zeroPadded) (zeroPadded_ne_nil width n) hlimit
    hrest, ofDigitChars_zeroPadded]

/-- A number of two digits is read to its end. -/
theorem readNumber?_two {n : Nat} (hn : n < 100) {rest : List Char}
    (hrest : ∀ c ∈ rest.head?, c.isDigit = false) :
    readNumber? 2 (zeroPadded 2 n ++ rest) = some (n, rest) :=
  readNumber?_zeroPadded (Nat.le_of_eq (length_zeroPadded (by decide) hn)) hrest

/-! ### Years -/

/-- The digits of a number stop at a hyphen. -/
theorem isDigit_head?_hyphen (rest : List Char) : ∀ c ∈ ('-' :: rest).head?, c.isDigit = false := by
  rintro c ⟨⟩
  rfl

/-- What starts with a digit starts with neither sign. -/
theorem readYear?_of_isDigit {c : Char} {cs : List Char} (hc : c.isDigit) :
    readYear? (c :: cs) = (readNumber? 4 (c :: cs)).map fun (n, rest) => ((n : Int), rest) := by
  rw [readYear?]
  · rintro rest ⟨⟩
    cases hc
  · rintro rest ⟨⟩
    cases hc

/-- **A year is read up to the hyphen that follows it.** -/
theorem readYear?_yearText (year : Int) (rest : List Char) :
    readYear? (yearText year ++ '-' :: rest) = some (year, '-' :: rest) := by
  have hlong : readNumber? (zeroPadded 4 year.natAbs ++ '-' :: rest).length
      (zeroPadded 4 year.natAbs ++ '-' :: rest) = some (year.natAbs, '-' :: rest) :=
    readNumber?_zeroPadded (by simp) (isDigit_head?_hyphen rest)
  rw [yearText, yearSign]
  split
  · next hnegative =>
    have hyear : -(year.natAbs : Int) = year := by omega
    simp only [List.cons_append, List.nil_append, readYear?]
    rw [hlong, Option.map_some, hyear]
  · next hnonneg =>
    have hyear : (year.natAbs : Int) = year := by omega
    split
    · next hshort =>
      have hlength : (zeroPadded 4 year.natAbs).length = 4 :=
        length_zeroPadded (by decide) (by omega)
      obtain ⟨c, cs, hcs⟩ := List.exists_cons_of_ne_nil (zeroPadded_ne_nil 4 year.natAbs)
      have hdigit : c.isDigit := isDigit_of_mem_zeroPadded (hcs ▸ List.mem_cons_self)
      have hread := readNumber?_zeroPadded (Nat.le_of_eq hlength) (isDigit_head?_hyphen rest)
      rw [List.nil_append]
      rw [hcs, List.cons_append] at hread ⊢
      rw [readYear?_of_isDigit hdigit, hread, Option.map_some]
      dsimp only
      rw [hyear]
    · simp only [List.cons_append, List.nil_append, readYear?]
      rw [hlong, Option.map_some, hyear]

/-! ### Blanks -/

/-- Digits are no blanks. -/
theorem isBlank_eq_false_of_isDigit {c : Char} (h : c.isDigit) : isBlank c = false := by
  rw [Char.isDigit_iff_toNat] at h
  have hlow : 48 ≤ c.toNat := h.1
  have hhigh : c.toNat ≤ 57 := h.2
  simp only [isBlank, blankRanges, List.any_cons, List.any_nil, Bool.or_false, Bool.or_eq_false_iff,
    Bool.and_eq_false_iff, decide_eq_false_iff_not]
  omega

/-- No blanks are taken off a number. -/
theorem trimStart_zeroPadded (width n : Nat) (rest : List Char) :
    trimStart (zeroPadded width n ++ rest) = zeroPadded width n ++ rest := by
  obtain ⟨c, cs, hcs⟩ := List.exists_cons_of_ne_nil (zeroPadded_ne_nil width n)
  have hdigit : c.isDigit := isDigit_of_mem_zeroPadded (hcs ▸ List.mem_cons_self)
  rw [hcs, List.cons_append, trimStart_cons_of_not_blank (isBlank_eq_false_of_isDigit hdigit)]

theorem trimStart_yearText (year : Int) (rest : List Char) :
    trimStart (yearText year ++ rest) = yearText year ++ rest := by
  rw [yearText, yearSign]
  split
  · exact trimStart_cons_of_not_blank (by decide)
  · split
    · exact trimStart_zeroPadded ..
    · exact trimStart_cons_of_not_blank (by decide)

theorem trimStart_hyphen (rest : List Char) : trimStart ('-' :: rest) = '-' :: rest :=
  trimStart_cons_of_not_blank (by decide)

/-! ### Dates -/

/-- **A date is read back as it was written.** -/
theorem read?_text (d : Date) : read? d.text = some d := by
  have hmonth : d.month < 100 := Nat.lt_of_le_of_lt d.month_le (by decide)
  have hday : d.day < 100 := Nat.lt_of_le_of_lt d.day_le (by decide)
  have hend : readNumber? 2 (zeroPadded 2 d.day) = some (d.day, []) := by
    have hread : readNumber? 2 (zeroPadded 2 d.day ++ []) = some (d.day, []) :=
      readNumber?_two hday fun _ hc => nomatch hc
    rwa [List.append_nil] at hread
  have hdayStart : trimStart (zeroPadded 2 d.day) = zeroPadded 2 d.day := by
    have htrim := trimStart_zeroPadded 2 d.day []
    rwa [List.append_nil] at htrim
  rw [read?, text, String.toList_ofList, ofChars?, chars, List.append_assoc, List.cons_append,
    trimStart_yearText, readYear?_yearText]
  simp only [Option.bind_eq_bind, Option.bind_some]
  rw [trimStart_hyphen, readHyphen?]
  simp only [Option.bind_some]
  rw [trimStart_zeroPadded, readNumber?_two hmonth (isDigit_head?_hyphen _)]
  simp only [Option.bind_some]
  rw [trimStart_hyphen, readHyphen?]
  simp only [Option.bind_some]
  rw [hdayStart, hend]
  simp only [Option.bind_some]
  rw [trimStart_nil, List.isEmpty_nil, if_pos rfl, ofYmd?_self]

end Baseball.Date
