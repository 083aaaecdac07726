import Baseball.Decimal.Fixed
import Baseball.Text.Layout

/-!
# Rates

A rate is a quotient of two counts, and is undefined where there was nothing to divide by. It is
written with a fixed number of places and without the zero before the point.

## Main definitions

* `Rate` — a value, or none, with `Rate.of`
* `Rate.text` — its written form
* `Rate.field` — the written form at the right of a field
-/

namespace Baseball

/-- A derived statistic. -/
structure Rate where
  /-- The value, none where it is undefined. -/
  value? : Option Float

namespace Rate

/-- A rate that is not defined. -/
def undefined : Rate := ⟨none⟩

/-- `num / den`, undefined where `den` is zero. -/
def of (num den : Float) : Rate := if isZero den then undefined else ⟨some (num / den)⟩

/-- The quotient of two counts. -/
def ofCounts (num den : Nat) : Rate := of (.ofNat num) (.ofNat den)

/-- Whether the rate has a value. -/
def isDefined (r : Rate) : Bool := r.value?.isSome

/-- A decimal without the zero before its point. -/
def dropLeadingZero (s : String) : String :=
  match s.toList with
  | '0' :: '.' :: rest => .ofList ('.' :: rest)
  | _ => s

/-- What stands in place of a rate that is undefined. -/
def placeholder : String := "-"

/-- A rate with a number of decimal places. -/
def text (r : Rate) (places : Nat) : String :=
  match r.value? with
  | none => placeholder
  | some x => dropLeadingZero (fixedText x places)

/-- The places a rate is written with unless something else is said. -/
def defaultPlaces : Nat := 3

/-- A rate at the right of a field. -/
def field (r : Rate) (width places : Nat) : String := padLeft width (r.text places)

end Rate

end Baseball
