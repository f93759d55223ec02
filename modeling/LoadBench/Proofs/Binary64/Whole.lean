import LoadBench.Proofs.Binary64.Order

namespace LoadBench.Binary64

variable {x : Binary64} {k n num : Nat}

theorem ofNat_isFraction (small : n < 2 ^ 53) : (ofNat n).IsFraction n 0 := by
  have fraction : (ofRatio false n (2 ^ 0)).IsFraction n 0 :=
    ofRatio_isFraction small (Nat.zero_le _)
  rw [Nat.pow_zero] at fraction
  rw [ofNat]
  exact fraction

theorem units_ofNat (small : n < 2 ^ 53) : (ofNat n).units = n * one := by
  have value := (ofNat_isFraction small).value
  rwa [Nat.pow_zero, Nat.mul_one] at value

theorem magnitude_ofNat_lt (small : n < 2 ^ 53) : (ofNat n).magnitude < infinityMagnitude :=
  of_decide_eq_true (ofNat_isFraction small).finite

theorem isInfinite_ofNat (small : n < 2 ^ 53) : (ofNat n).isInfinite = false :=
  not_isInfinite_of_isFinite (ofNat_isFraction small).finite

theorem magnitude_ofNat_zero : (ofNat 0).magnitude = 0 := by decide +kernel

theorem toWord_eq (hx : x.Nonnegative) (small : k + 1 < 2 ^ 53)
    (reached : (ofNat k).magnitude ≤ x.magnitude) (next : x.magnitude < (ofNat (k + 1)).magnitude) :
    x.toWord = k := by
  have finite : x.isInfinite = false := by
    have bound := magnitude_ofNat_lt small
    rw [isInfinite, beq_eq_false_iff_ne]
    omega
  have low : k * one ≤ x.units := by
    rw [← units_ofNat (Nat.lt_of_succ_lt small)]
    exact unitsOf_strictMono.monotone reached
  have high : x.units < (k + 1) * one := by
    rw [← units_ofNat small]
    exact unitsOf_strictMono next
  have whole : x.units / one = k := Nat.div_eq_of_lt_le low high
  simp only [toWord, hx.isNaN, hx.1, finite, Bool.or_self, Bool.false_eq_true, if_false, whole]
  omega

theorem le_roundMagnitude (small : k < 2 ^ 53)
    (close : 0 < k → 2 ^ 54 * (k * one) < 2 ^ 54 * num + k * one) :
    (ofNat k).magnitude ≤ roundMagnitude (num * one) one := by
  have finite := magnitude_ofNat_lt small
  have units : unitsOf (ofNat k).magnitude = k * one := units_ofNat small
  rcases Nat.eq_zero_or_pos k with rfl | positive
  · rw [magnitude_ofNat_zero]
    exact Nat.zero_le _
  rcases Nat.le_total (k * one) num with above | below
  · have same := roundMagnitude_unitsOf finite one_pos
    rw [units] at same
    calc (ofNat k).magnitude = roundMagnitude (k * one * one) one := same.symm
      _ ≤ roundMagnitude (num * one) one := roundMagnitude_mono (Nat.mul_le_mul_right _ above) one
  · have nonzero : 0 < (ofNat k).magnitude := (ofNat_positive positive).2.1
    have most : num * one ≤ unitsOf (ofNat k).magnitude * one := by
      rw [units]
      exact Nat.mul_le_mul_right _ below
    have scaled := Nat.mul_lt_mul_of_pos_right (close positive) one_pos
    rw [Nat.add_mul, Nat.mul_assoc, Nat.mul_assoc (2 ^ 54)] at scaled
    have same := roundMagnitude_of_short nonzero finite one_pos most (by rwa [units])
    exact Nat.le_of_eq same.symm

/-- The next whole number is not reached where `2⁻⁷` is missing, as there is a double between. -/
theorem roundMagnitude_lt (few : k < 2 ^ 40) (room : 2 ^ 7 * num + one ≤ 2 ^ 7 * ((k + 1) * one)) :
    roundMagnitude (num * one) one < (ofNat (k + 1)).magnitude := by
  obtain ⟨s, full⟩ : ∃ s, 2 ^ 7 * (k + 1) = s + 1 := ⟨2 ^ 7 * (k + 1) - 1, by omega⟩
  obtain ⟨m, finite, units⟩ := exists_unitsOf (s := s) (p := 1074 - 7) (by omega) (by decide)
  have place := @one_eq_mul_two_pow 7 (by decide)
  generalize 2 ^ (1074 - 7) = unit at units place
  have step : 2 ^ 7 * unitsOf m + one = 2 ^ 7 * ((k + 1) * one) := by
    have whole : (s + 1) * one = 2 ^ 7 * ((k + 1) * one) := by rw [← full, Nat.mul_assoc]
    have product : 2 ^ 7 * unitsOf m = s * one := by
      rw [units, place, Nat.mul_left_comm, Nat.mul_comm unit]
    rw [product, ← whole, Nat.succ_mul]
  have positive := one_pos
  have below : num ≤ unitsOf m := by omega
  have less : m < (ofNat (k + 1)).magnitude := by
    have whole : unitsOf (ofNat (k + 1)).magnitude = (k + 1) * one := units_ofNat (by omega)
    rw [← unitsOf_strictMono.lt_iff_lt, whole]
    omega
  calc roundMagnitude (num * one) one
      ≤ roundMagnitude (unitsOf m * one) one := roundMagnitude_mono (Nat.mul_le_mul_right _ below) one
    _ = m := roundMagnitude_unitsOf finite one_pos
    _ < (ofNat (k + 1)).magnitude := less

/-- At most the number `part / whole`, and short of it by less than `2⁻⁵⁴` of it. -/
structure IsJustBelow (x : Binary64) (part whole : Nat) : Prop where
  sign : x.isNegative = false
  finite : x.isFinite = true
  most : whole * x.units ≤ part * one
  close : 2 ^ 54 * (part * one) < 2 ^ 54 * (whole * x.units) + part * one

namespace IsJustBelow

variable {part whole r : Nat} (just : x.IsJustBelow part whole)

include just

theorem nonnegative : x.Nonnegative :=
  ⟨just.sign, Nat.le_of_lt (of_decide_eq_true just.finite)⟩

theorem mul_ofNat (few : n < 2 ^ 53) :
    x.mul (ofNat n) = ofUnits false (x.units * n * one) one := by
  rw [just.nonnegative.mul_eq_ofUnits (ofNat_nonnegative n)
      (not_isInfinite_of_isFinite just.finite) (isInfinite_ofNat few),
    units_ofNat few, Nat.mul_assoc]

omit just in
theorem exact_product (quotient : whole * k + r = part * n) :
    part * one * n = whole * (k * one) + r * one := by
  rw [Nat.mul_right_comm, ← quotient, Nat.add_mul, Nat.mul_assoc]

theorem mul_close (quotient : whole * k + r = part * n) (positive : 0 < n) :
    2 ^ 54 * (k * one) < 2 ^ 54 * (x.units * n) + k * one := by
  have times := Nat.mul_lt_mul_of_pos_right just.close positive
  rw [Nat.add_mul, Nat.mul_assoc, Nat.mul_assoc (2 ^ 54), exact_product quotient,
    Nat.mul_assoc whole] at times
  have left : whole * (2 ^ 54 * (k * one)) = 2 ^ 54 * (whole * (k * one)) := by ring
  have right : whole * (2 ^ 54 * (x.units * n) + k * one) =
      2 ^ 54 * (whole * (x.units * n)) + whole * (k * one) := by ring
  refine Nat.lt_of_mul_lt_mul_left (a := whole) ?_
  rw [left, right]
  omega

theorem mul_room (quotient : whole * k + r = part * n) (rest : r < whole) (coarse : whole ≤ 2 ^ 7) :
    2 ^ 7 * (x.units * n) + one ≤ 2 ^ 7 * ((k + 1) * one) := by
  have times := Nat.mul_le_mul_right n just.most
  rw [exact_product quotient, Nat.mul_assoc] at times
  have least : r * one + one ≤ whole * one := by
    rw [← Nat.succ_mul]
    exact Nat.mul_le_mul_right one rest
  have unit : whole * one ≤ 2 ^ 7 * one := Nat.mul_le_mul_right one coarse
  have left : whole * (2 ^ 7 * (x.units * n) + one) =
      2 ^ 7 * (whole * (x.units * n)) + whole * one := by ring
  have right : whole * (2 ^ 7 * ((k + 1) * one)) =
      2 ^ 7 * (whole * (k * one)) + 2 ^ 7 * (whole * one) := by ring
  refine Nat.le_of_mul_le_mul_left (c := whole) ?_ (Nat.zero_lt_of_lt rest)
  rw [left, right]
  omega

/-- With the factor and the product both rounded, the whole part is still the exact quotient. -/
theorem toWord_mul (proper : part ≤ whole) (positive : 0 < whole) (coarse : whole ≤ 2 ^ 7)
    (few : n < 2 ^ 40) : (x.mul (ofNat n)).toWord = part * n / whole := by
  have quotient := Nat.div_add_mod (part * n) whole
  have rest := Nat.mod_lt (part * n) positive
  have most : part * n / whole ≤ n := Nat.div_le_of_le_mul (Nat.mul_le_mul_right n proper)
  rw [just.mul_ofNat (by omega)]
  refine toWord_eq (ofUnits_nonnegative _ _) (by omega) ?_ ?_
  all_goals rw [magnitude_ofUnits]
  -- The product is too close to the whole number it has reached to be rounded below it, and too far
  -- from the next one to be rounded up to that.
  · exact le_roundMagnitude (by omega) fun positive => just.mul_close quotient (by omega)
  · exact roundMagnitude_lt (by omega) (just.mul_room quotient rest coarse)

end IsJustBelow

end LoadBench.Binary64
