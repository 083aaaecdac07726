import Baseball.Decimal.Binary
import Mathlib.Algebra.Order.Ring.Nat
import Mathlib.Data.Int.Order.Basic
import Mathlib.Tactic.SplitIfs

/-!
# The order of floating-point numbers

Boards are sorted by `orderKey`, the place of a bit pattern in the total order, and cut and tied by
`sameNumber`. Neither is the order of the numbers themselves: a NaN has a place, and so has the zero
with a sign, below the other one. Of all other numbers the two readings agree, which is proved here
against the order that `Float` has in the logic.

That order unpacks a bit pattern and compares exponents before significands. The unpacked form is
canonical, so its exponent and significand are the high and the low bits of one natural number, the
pattern without its sign (`Reads.finite`); comparing the one is comparing the other
(`compare_finite`), and the sign is put back at the end (`signed`).

## Main definitions

* `Ordinary` — neither NaN nor the zero with a sign
* `signed` — a pattern as a whole number, in the order of what it stands for

## Main results

* `lt_iff_signed` — the order of numbers is that of `signed`
* `orderKey_lt_orderKey`, `orderKey_inj` — the total order sorts ordinary numbers as numbers
* `sameNumber_iff` — the same ordinary number has the same pattern
-/

namespace Baseball

open Float.Model Float.Model.UnpackedFloat

/-- Neither NaN nor the zero with a sign. -/
def Ordinary (x : Float) : Prop := x.isNaN = false ∧ x ≠ -0.0

instance (x : Float) : Decidable (Ordinary x) := inferInstanceAs (Decidable (_ ∧ _))

namespace Binary64

/-! ### The fields of a bit pattern -/

theorem toNat_unpackMantissa (b : BitVec Format.binary64.numBits) :
    (unpackMantissa b).toNat = fraction b.toNat := by
  simp [unpackMantissa, BitVec.extractLsb, fraction]

theorem toNat_unpackExponent (b : BitVec Format.binary64.numBits) :
    (unpackExponent b).toNat = exponentField b.toNat := by
  simp [unpackExponent, BitVec.extractLsb, exponentField]

theorem ofBitVec_unpackSign (b : BitVec Format.binary64.numBits) :
    Sign.ofBitVec (unpackSign b) = if signBit b.toNat then .negative else .positive := by
  have h : (unpackSign b).toNat = (b.toNat >>> 63) % 2 := BitVec.extractLsb_toNat ..
  rw [signBit, ← h, Sign.ofBitVec]
  obtain hv | hv : unpackSign b = 0#1 ∨ unpackSign b = 1#1 := by
    generalize unpackSign b = v
    revert v
    decide
  all_goals rw [hv]; rfl

theorem exponentBias_binary64 : (Format.binary64.exponentBias : Int) = 1023 := by decide

theorem fraction_lt (bits : Nat) : fraction bits < 2 ^ 52 := Nat.mod_lt _ (by decide)

theorem exponentField_lt (bits : Nat) : exponentField bits < 2048 := Nat.mod_lt _ (by decide)

/-- All bits but the sign are the exponent field above the fraction. -/
theorem magnitude_eq (bits : Nat) :
    magnitude bits = exponentField bits * 2 ^ 52 + fraction bits := by
  simp only [magnitude, exponentField, fraction, Nat.shiftLeft_eq, Nat.shiftRight_eq_div_pow]
  omega

/-! ### The unpacked form -/

/-- The bits of a number but for its sign. -/
def size (x : Float) : Nat := magnitude x.toBits.toNat

/-- The sign of a number. -/
def sign (x : Float) : Sign := if signBit x.toBits.toNat then .negative else .positive

/-- What a number that is not NaN may be unpacked to. -/
inductive Reads (x : Float) : UnpackedFloat → Prop
  | zero (h : size x = 0) : Reads x (.zero (sign x))
  | finite (m : Nat) (e : Int) (pos : 0 < m) (low : -1074 ≤ e) (high : e ≤ 971) (fits : m < 2 ^ 53)
      (canonical : e = -1074 ∨ 2 ^ 52 ≤ m) (h : (size x : Int) = m + (e + 1074) * 2 ^ 52) :
      Reads x (.finite (sign x) m e pos)
  | infinity (h : size x = 2047 * 2 ^ 52) : Reads x (.infinity (sign x))

theorem reads_unpack (x : Float) (h : x.isNaN = false) : Reads x x.toModel.unpack := by
  have hsize : size x = exponentField x.toBits.toNat * 2 ^ 52 + fraction x.toBits.toNat :=
    magnitude_eq _
  have hfraction := fraction_lt x.toBits.toNat
  have hfield := exponentField_lt x.toBits.toNat
  have hm := toNat_unpackMantissa x.toBits.toBitVec
  have he := toNat_unpackExponent x.toBits.toBitVec
  have hs : Sign.ofBitVec (@unpackSign Format.binary64 x.toBits.toBitVec) = sign x :=
    ofBitVec_unpackSign _
  rw [UInt64.toNat_toBitVec] at hm he
  change (UnpackedFloat.unpack Format.binary64 x.toBits.toBitVec).isNaN = false at h
  change Reads x (UnpackedFloat.unpack Format.binary64 x.toBits.toBitVec)
  delta UnpackedFloat.unpack at h ⊢
  dsimp only at h ⊢
  rw [hs, exponentBias_binary64]
  by_cases htop : @unpackExponent Format.binary64 x.toBits.toBitVec = -1#_
  · rw [if_pos htop] at h ⊢
    by_cases hm₀ : @unpackMantissa Format.binary64 x.toBits.toBitVec = 0#_
    · rw [if_pos hm₀]
      rw [htop] at he
      rw [hm₀] at hm
      simp only [BitVec.reduceNeg, BitVec.toNat_ofNat] at he hm
      exact .infinity (by omega)
    · rw [if_neg hm₀] at h
      cases h
  · rw [if_neg htop]
    by_cases hlow : @unpackExponent Format.binary64 x.toBits.toBitVec = 0#_
    · have hzero : (BitVec.ofNat Format.binary64.exponentBits 0).toNat = 0 := rfl
      rw [if_pos hlow, hlow, hzero]
      rw [hlow, hzero] at he
      by_cases hm₀ : @unpackMantissa Format.binary64 x.toBits.toBitVec = 0#_
      · rw [dif_pos hm₀]
        rw [hm₀] at hm
        simp only [BitVec.toNat_ofNat, Nat.zero_mod] at hm
        exact .zero (by omega)
      · rw [dif_neg hm₀]
        exact .finite _ _ _ (by omega) (by omega) (by omega) (by omega) (by omega)
    · rw [if_neg hlow]
      have htop' : (@unpackExponent Format.binary64 x.toBits.toBitVec).toNat ≠ 2047 :=
        fun e => htop (BitVec.eq_of_toNat_eq (e.trans (by decide)))
      have hlow' : (@unpackExponent Format.binary64 x.toBits.toBitVec).toNat ≠ 0 :=
        fun e => hlow (BitVec.eq_of_toNat_eq e)
      -- the bit that is not written is the one above the fraction
      have hidden : (1#1 ++ @unpackMantissa Format.binary64 x.toBits.toBitVec).toNat =
          2 ^ 52 + (@unpackMantissa Format.binary64 x.toBits.toBitVec).toNat := by
        rw [BitVec.toNat_append, ← Nat.shiftLeft_add_eq_or_of_lt (BitVec.isLt _)]
        rfl
      exact .finite _ _ _ (by omega) (by omega) (by rw [hidden]; omega) (by rw [hidden]; omega)
        (by rw [hidden]; push_cast; omega)

theorem size_le {x : Float} (h : x.isNaN = false) : size x ≤ 2047 * 2 ^ 52 := by
  obtain ⟨u, hu⟩ : ∃ u, Reads x u := ⟨_, reads_unpack x h⟩
  cases hu <;> omega

/-! ### The order of numbers -/

/-- A pattern as a whole number, in the order of what it stands for. -/
def signed (x : Float) : Int :=
  match sign x with
  | .negative => -size x
  | .positive => size x

/-- Canonical forms are ordered by their exponents first, which is the order of the whole. -/
theorem compare_finite {m₁ m₂ n₁ n₂ : Nat} {e₁ e₂ : Int} (f₁ : m₁ < 2 ^ 53) (f₂ : m₂ < 2 ^ 53)
    (l₁ : -1074 ≤ e₁) (l₂ : -1074 ≤ e₂) (c₁ : e₁ = -1074 ∨ 2 ^ 52 ≤ m₁)
    (c₂ : e₂ = -1074 ∨ 2 ^ 52 ≤ m₂) (h₁ : (n₁ : Int) = m₁ + (e₁ + 1074) * 2 ^ 52)
    (h₂ : (n₂ : Int) = m₂ + (e₂ + 1074) * 2 ^ 52) :
    (compare e₁ e₂).then (compare m₁ m₂) = compare n₁ n₂ := by
  obtain h | rfl | h := lt_trichotomy e₁ e₂
  · rw [compare_lt_iff_lt.2 h, eq_comm, Ordering.then_eq_lt.2 (.inl rfl), compare_lt_iff_lt]
    omega
  · rw [compare_eq_iff_eq.2 rfl, Ordering.eq_then]
    obtain h | rfl | h := lt_trichotomy m₁ m₂
    · rw [compare_lt_iff_lt.2 h, eq_comm, compare_lt_iff_lt]
      omega
    · rw [compare_eq_iff_eq.2 rfl, eq_comm, compare_eq_iff_eq]
      omega
    · rw [compare_gt_iff_gt.2 h, eq_comm, compare_gt_iff_gt]
      omega
  · rw [compare_gt_iff_gt.2 h, eq_comm, Ordering.then_eq_gt.2 (.inl rfl), compare_gt_iff_gt]
    omega

theorem lt_of_reads {x y : Float} {u v : UnpackedFloat} (hu : Reads x u) (hv : Reads y v) :
    u.lt v = true ↔ signed x < signed y := by
  obtain hx | ⟨m₁, e₁, p₁, l₁, k₁, f₁, c₁, hx⟩ | hx := hu <;>
    obtain hy | ⟨m₂, e₂, p₂, l₂, k₂, f₂, c₂, hy⟩ | hy := hv <;>
      cases h₁ : sign x <;> cases h₂ : sign y <;>
        rw [signed, signed, h₁, h₂] <;> dsimp only [UnpackedFloat.lt, UnpackedFloat.compare] <;>
          simp only [beq_iff_eq, Option.some.injEq, reduceCtorEq, false_iff, true_iff, not_lt]
  case finite.finite.negative.negative =>
    rw [compare_finite f₁ f₂ l₁ l₂ c₁ c₂ hx hy, Ordering.swap_eq_lt, compare_gt_iff_gt]
    omega
  case finite.finite.positive.positive =>
    rw [compare_finite f₁ f₂ l₁ l₂ c₁ c₂ hx hy, compare_lt_iff_lt]
    omega
  case infinity.infinity.negative.positive =>
    simp only [hx, hy]
    exact ⟨fun _ => by omega, fun _ => rfl⟩
  -- in all other cases the signs and the kinds decide, and the sizes only have to agree with them
  all_goals omega

/-- The order of numbers is that of their patterns, read as whole numbers with their signs. -/
theorem lt_iff_signed {x y : Float} (hx : x.isNaN = false) (hy : y.isNaN = false) :
    x < y ↔ signed x < signed y := by
  rw [← lt_of_reads (reads_unpack x hx) (reads_unpack y hy)]
  change decide (x.toModel < y.toModel) = true ↔ _
  rw [decide_eq_true_iff]
  rfl

end Binary64

/-! ### The total order and equality as numbers -/

open Binary64

theorem toBits_inj {x y : Float} (h : x.toBits = y.toBits) : x = y := by
  obtain ⟨⟨_, _⟩⟩ := x
  obtain ⟨⟨_, _⟩⟩ := y
  cases h
  rfl

theorem toNat_toBits (x : Float) :
    x.toBits.toNat = (if signBit x.toBits.toNat then 2 ^ 63 else 0) + size x := by
  have h : x.toBits.toNat < 2 ^ 64 := x.toBits.toNat_lt
  simp only [signBit, size, magnitude, Nat.shiftLeft_eq, Nat.shiftRight_eq_div_pow, beq_iff_eq]
  split_ifs <;> omega

theorem signed_eq (x : Float) :
    signed x = if signBit x.toBits.toNat then -(size x : Int) else size x := by
  rw [signed, sign]
  split_ifs <;> rfl

theorem orderKey_eq (x : Float) :
    orderKey x = if signBit x.toBits.toNat then -(size x : Int) - 1 else size x := by
  rw [orderKey]
  split_ifs with h
  · rfl
  · have hx := toNat_toBits x
    rw [if_neg h, Nat.zero_add] at hx
    exact congrArg Nat.cast hx

/-- Of the ordinary numbers none is a zero with its sign bit set. -/
theorem Ordinary.size_pos {x : Float} (h : Ordinary x) (hs : signBit x.toBits.toNat = true) :
    0 < size x := by
  refine Nat.pos_of_ne_zero fun h0 => h.2 (toBits_inj (UInt64.toNat_inj.1 ?_))
  rw [toNat_toBits, hs, h0]
  decide +kernel

/-- **Ordinary numbers are sorted as numbers.** -/
theorem orderKey_lt_orderKey {x y : Float} (hx : Ordinary x) (hy : Ordinary y) :
    orderKey x < orderKey y ↔ x < y := by
  rw [lt_iff_signed hx.1 hy.1, signed_eq, signed_eq, orderKey_eq, orderKey_eq]
  have px := hx.size_pos
  have py := hy.size_pos
  split_ifs <;> simp_all only [forall_const, Bool.false_eq_true] <;> omega

theorem orderKey_inj {x y : Float} : orderKey x = orderKey y ↔ x = y := by
  refine ⟨fun h => toBits_inj (UInt64.toNat_inj.1 ?_), congrArg _⟩
  rw [orderKey_eq, orderKey_eq] at h
  rw [toNat_toBits x, toNat_toBits y]
  split_ifs at * <;> omega

theorem isNotNumber_eq_false {x : Float} (h : x.isNaN = false) : isNotNumber x = false := by
  have hs := size_le h
  rw [size, magnitude_eq] at hs
  rw [isNotNumber, ofFloat, Binary64.ofBits]
  split_ifs with htop hzero
  · rfl
  · omega
  · rfl
  · rfl

/-- **The same ordinary number has the same pattern.** -/
theorem sameNumber_iff {x y : Float} (hx : Ordinary x) (hy : Ordinary y) :
    sameNumber x y = true ↔ x = y := by
  have zeros (h₁ : isZero x = true) (h₂ : isZero y = true) : x = y := by
    have h₁ : size x = 0 := beq_iff_eq.1 h₁
    have h₂ : size y = 0 := beq_iff_eq.1 h₂
    have sx : ¬signBit x.toBits.toNat = true := fun h => Nat.ne_of_gt (hx.size_pos h) h₁
    have sy : ¬signBit y.toBits.toNat = true := fun h => Nat.ne_of_gt (hy.size_pos h) h₂
    refine toBits_inj (UInt64.toNat_inj.1 ?_)
    rw [toNat_toBits x, toNat_toBits y, if_neg sx, if_neg sy, h₁, h₂]
  rw [sameNumber, isNotNumber_eq_false hx.1, Bool.or_eq_true, Bool.and_eq_true, Bool.and_eq_true,
    beq_iff_eq]
  constructor
  · rintro (⟨h, -⟩ | ⟨h₁, h₂⟩)
    · exact toBits_inj h
    · exact zeros h₁ h₂
  · rintro rfl
    exact .inl ⟨rfl, rfl⟩

end Baseball
