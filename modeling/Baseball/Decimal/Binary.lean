/-!
# Binary64 values

The 64 bits of a floating-point number are a sign, an exponent field of 11 bits and a fraction of
52. A finite number is a whole significand times a power of two, which is exact; that is what
decimals are rounded from. Two orders matter: the total order of all bit patterns, in which
negative zero lies below zero and every NaN lies at an end, and equality as numbers, in which the
two zeros are equal and a NaN equals nothing.

## Main definitions

* `Binary64` — what a bit pattern says, with `Binary64.ofBits`
* `orderKey` — the place of a bit pattern in the total order
* `sameNumber` — equality as numbers
-/

namespace Baseball

/-- What the bits of a floating-point number say. -/
inductive Binary64 where
  /-- The number `significand * 2 ^ exponent`, or its negative. -/
  | finite (negative : Bool) (significand : Nat) (exponent : Int)
  | infinite (negative : Bool)
  | nan
deriving DecidableEq

namespace Binary64

/-- The sign bit. -/
def signBit (bits : Nat) : Bool := (bits >>> 63) % 2 == 1

/-- The exponent field. -/
def exponentField (bits : Nat) : Nat := (bits >>> 52) % 2048

/-- The fraction field. -/
def fraction (bits : Nat) : Nat := bits % (1 <<< 52)

/-- All bits but the sign. -/
def magnitude (bits : Nat) : Nat := bits % (1 <<< 63)

/-- Reads a bit pattern. A field of zeros has no hidden bit, and one of ones is not finite. -/
def ofBits (bits : Nat) : Binary64 :=
  let negative := signBit bits
  let field := exponentField bits
  let fraction := fraction bits
  if field = 2047 then
    if fraction = 0 then .infinite negative else .nan
  else if field = 0 then .finite negative fraction (-1074)
  else .finite negative (1 <<< 52 + fraction) (field - 1075)

/-- What a floating-point number is. -/
def ofFloat (x : Float) : Binary64 := ofBits x.toBits.toNat

end Binary64

/-- The place of a bit pattern in the total order: negative patterns come first, the one of greatest
magnitude before all. -/
def orderKey (x : Float) : Int :=
  let bits := x.toBits.toNat
  if Binary64.signBit bits then -(Binary64.magnitude bits : Int) - 1 else bits

/-- Whether a bit pattern is a zero of either sign. -/
def isZero (x : Float) : Bool := Binary64.magnitude x.toBits.toNat == 0

/-- Whether a bit pattern is not a number. -/
def isNotNumber (x : Float) : Bool := Binary64.ofFloat x == .nan

/-- Whether two patterns are the same number: the zeros are, and a NaN is not even itself. -/
def sameNumber (x y : Float) : Bool :=
  (x.toBits == y.toBits && !isNotNumber x) || (isZero x && isZero y)

end Baseball
