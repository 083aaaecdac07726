import Baseball.Decimal.Binary

/-!
# Decimals with a fixed number of places

A number is written with a given number of decimal places, rounded from its exact value; a value
half-way between two decimals goes to the one whose last digit is even. The sign of a negative
number is written even if all its digits are zero.

## Main definitions

* `roundHalfEven` — a quotient rounded to the nearest whole number
* `Binary64.fixedText`, `fixedText` — a number with a fixed number of places

## Main statements

* `roundHalfEven_near` — the result is within half a unit of the quotient
* `roundHalfEven_tie` — half-way between, the result is even
-/

namespace Baseball

/-- The whole number nearest to `num / den`, the even one of two. -/
def roundHalfEven (num den : Nat) : Nat :=
  if den < 2 * (num % den) ∨ (den = 2 * (num % den) ∧ num / den % 2 = 1) then num / den + 1
  else num / den

/-- The result is within half a unit of the quotient. -/
theorem roundHalfEven_near {num den : Nat} (h : 0 < den) :
    2 * num ≤ 2 * (roundHalfEven num den * den) + den ∧
      2 * (roundHalfEven num den * den) ≤ 2 * num + den := by
  have hdiv := Nat.div_add_mod num den
  have hlt := Nat.mod_lt num h
  have hmul : den * (num / den) = num / den * den := Nat.mul_comm _ _
  have hsucc : (num / den + 1) * den = num / den * den + den := Nat.succ_mul _ _
  unfold roundHalfEven
  split <;> omega

/-- Half-way between two whole numbers, the result is the even one. -/
theorem roundHalfEven_tie {num den : Nat} (h : 2 * (num % den) = den) :
    roundHalfEven num den % 2 = 0 := by
  unfold roundHalfEven
  rw [h]
  split <;> omega

/-- How many units of the last of some decimal places make one. -/
def unitsPerOne (places : Nat) : Nat := Nat.pow 10 places

/-- `significand * 2 ^ exponent` in units of the last of some decimal places, rounded. -/
def scaled (significand : Nat) (exponent : Int) (places : Nat) : Nat :=
  match exponent with
  | .ofNat e => (significand <<< e) * unitsPerOne places
  | .negSucc e => roundHalfEven (significand * unitsPerOne places) (1 <<< (e + 1))

/-- A whole number of units of the last place, with the decimal point put in. -/
def pointText (units places : Nat) : String :=
  if places = 0 then
    units.repr
  else
    let digits := Nat.toDigits 10 (units % unitsPerOne places)
    (units / unitsPerOne places).repr ++ "."
      ++ .ofList (.replicate (places - digits.length) '0' ++ digits)

/-- A number with a fixed number of places. -/
def Binary64.fixedText (x : Binary64) (places : Nat) : String :=
  match x with
  | finite negative significand exponent =>
    (if negative then "-" else "") ++ pointText (scaled significand exponent places) places
  | infinite negative => if negative then "-inf" else "inf"
  | nan => "NaN"

/-- A number with a fixed number of places. -/
def fixedText (x : Float) (places : Nat) : String := (Binary64.ofFloat x).fixedText places

end Baseball
