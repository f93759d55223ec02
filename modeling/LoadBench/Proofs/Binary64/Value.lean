import LoadBench.Proofs.Binary64.Whole
import Mathlib.Data.Rat.Floor

namespace LoadBench.Binary64

def value (x : Binary64) : ℚ := x.signedUnits / one

variable {x y : Binary64}

theorem not_isNaN_of_isFinite (finite : x.isFinite = true) : x.isNaN = false := by
  have below := of_decide_eq_true finite
  exact decide_eq_false (Nat.not_lt.mpr (Nat.le_of_lt below))

/-- The order of ranks is that of units, as both leave out the sign of a zero. -/
theorem numericRank_le_iff : x.numericRank ≤ y.numericRank ↔ x.signedUnits ≤ y.signedUnits := by
  have sizes := unitsOf_strictMono.le_iff_le (a := x.magnitude) (b := y.magnitude)
  have other := unitsOf_strictMono.le_iff_le (a := y.magnitude) (b := x.magnitude)
  have left : x.units = 0 ↔ x.magnitude = 0 := unitsOf_strictMono.injective.eq_iff (b := 0)
  have right : y.units = 0 ↔ y.magnitude = 0 := unitsOf_strictMono.injective.eq_iff (b := 0)
  simp only [numericRank, signedUnits, units] at *
  split <;> split <;> omega

theorem value_le_value_iff : x.value ≤ y.value ↔ x.signedUnits ≤ y.signedUnits := by
  have positive : (0 : ℚ) < one := by exact_mod_cast one_pos
  rw [value, value, div_le_div_iff_of_pos_right positive, Int.cast_le]

theorem le_iff_value (hx : x.isFinite = true) (hy : y.isFinite = true) :
    x.le y = true ↔ x.value ≤ y.value := by
  rw [le, not_isNaN_of_isFinite hx, not_isNaN_of_isFinite hy, value_le_value_iff,
    ← numericRank_le_iff]
  simp

theorem lt_iff_value (hx : x.isFinite = true) (hy : y.isFinite = true) :
    x.lt y = true ↔ x.value < y.value := by
  have reverse := le_iff_value hy hx
  rw [lt_eq_not_le (not_isNaN_of_isFinite hx) (not_isNaN_of_isFinite hy), ← not_le, ← reverse]
  simp

theorem value_zero : zero.value = 0 := by
  have nothing : zero.signedUnits = 0 := by decide
  rw [value, nothing, Int.cast_zero, zero_div]

theorem IsFraction.value_eq {k places : Nat} (h : x.IsFraction k places) :
    x.value = k / 2 ^ places := by
  have positive : (0 : ℚ) < one := by exact_mod_cast one_pos
  have whole : (x.units * 2 ^ places : ℚ) = k * one := by exact_mod_cast h.value
  have signed : x.signedUnits = x.units := by
    rw [signedUnits, h.sign]
    rfl
  rw [Binary64.value, signed, Int.cast_natCast, div_eq_div_iff positive.ne' (by positivity), whole]

theorem value_ofNat {n : Nat} (small : n < 2 ^ 53) : (ofNat n).value = n := by
  rw [(ofNat_isFraction small).value_eq]
  simp

theorem value_one : (ofNat 1).value = 1 := by
  rw [value_ofNat (by decide), Nat.cast_one]

theorem isFinite_zero : zero.isFinite = true := by decide

theorem isFinite_one : (ofNat 1).isFinite = true := by decide +kernel

theorem isFinite_of_le (above : zero.le x = true) (below : x.le y = true)
    (finite : y.isFinite = true) : x.isFinite = true := by
  have origin : zero.numericRank = 0 := by decide
  have bound := of_decide_eq_true finite
  simp only [le, Bool.and_eq_true, decide_eq_true_eq, origin] at above below
  have least := above.2
  have size : (x.magnitude : Int) ≤ x.numericRank := by
    revert least
    rw [numericRank]
    split <;> omega
  have rank : y.numericRank ≤ y.magnitude := by
    rw [numericRank]
    split <;> omega
  refine decide_eq_true ?_
  omega

theorem add_of_isFinite (hx : x.isFinite = true) (hy : y.isFinite = true) :
    x.add y = x.addFinite y := by
  simp only [add, not_isNaN_of_isFinite hx, not_isNaN_of_isFinite hy,
    not_isInfinite_of_isFinite hx, not_isInfinite_of_isFinite hy, Bool.false_eq_true, if_false]

structure IsPart (x : Binary64) : Prop where
  finite : x.isFinite = true
  nonnegative : 0 ≤ x.value
  atMostOne : x.value ≤ 1

theorem isPart_iff : x.IsPart ↔ zero.le x = true ∧ x.le (ofNat 1) = true := by
  constructor
  · rintro ⟨finite, above, below⟩
    rw [le_iff_value isFinite_zero finite, value_zero, le_iff_value finite isFinite_one, value_one]
    exact ⟨above, below⟩
  · rintro ⟨above, below⟩
    have finite := isFinite_of_le above below isFinite_one
    rw [le_iff_value isFinite_zero finite, value_zero] at above
    rw [le_iff_value finite isFinite_one, value_one] at below
    exact ⟨finite, above, below⟩

theorem IsPart.units (part : x.IsPart) : 0 ≤ x.signedUnits ∧ x.signedUnits ≤ one := by
  have positive : (0 : ℚ) < one := by exact_mod_cast one_pos
  have above := part.nonnegative
  have below := part.atMostOne
  rw [value, le_div_iff₀ positive, zero_mul] at above
  rw [value, div_le_iff₀ positive, one_mul] at below
  exact ⟨by exact_mod_cast above, by exact_mod_cast below⟩

theorem IsPart.isFinite_add (hx : x.IsPart) (hy : y.IsPart) : (x.add y).isFinite = true := by
  obtain ⟨first, last⟩ := hx.units
  obtain ⟨start, stop⟩ := hy.units
  have two : roundMagnitude (2 * one) 1 < infinityMagnitude := by decide +kernel
  rw [add_of_isFinite hx.finite hy.finite, addFinite]
  split
  · cases x.isNegative <;> cases y.isNegative <;> decide
  · have sign : decide (x.signedUnits + y.signedUnits < 0) = false := decide_eq_false (by omega)
    have most : (x.signedUnits + y.signedUnits).natAbs ≤ 2 * one := by omega
    have below := Nat.lt_of_le_of_lt (roundMagnitude_mono most 1) two
    simp only [sign, isFinite, magnitude_ofUnits, decide_eq_true_eq]
    exact below

end LoadBench.Binary64
