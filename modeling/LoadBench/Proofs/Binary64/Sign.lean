import LoadBench.Duration

namespace LoadBench

namespace Binary64

def Positive (x : Binary64) : Prop :=
  x.isNegative = false ∧ 0 < x.magnitude ∧ x.magnitude ≤ infinityMagnitude

def Nonnegative (x : Binary64) : Prop :=
  x.isNegative = false ∧ x.magnitude ≤ infinityMagnitude

theorem ofMagnitude_self (x : Binary64) : ofMagnitude x.isNegative x.magnitude = x := by
  have bound := x.bits.toNat_lt
  have bits : x.magnitude + (if x.isNegative then 2 ^ 63 else 0) = x.bits.toNat := by
    simp only [magnitude, isNegative, decide_eq_true_eq]
    split <;> omega
  rw [ofMagnitude, bits, UInt64.ofNat_toNat]

theorem ofMagnitude_bits {magnitude : Nat} (bound : magnitude ≤ infinityMagnitude) :
    (ofMagnitude false magnitude).bits.toNat = magnitude := by
  have small : magnitude < 2 ^ 64 := Nat.lt_of_le_of_lt bound (by decide)
  simp only [ofMagnitude, Bool.false_eq_true, if_false, Nat.add_zero, UInt64.toNat_ofNat']
  exact Nat.mod_eq_of_lt small

theorem ofMagnitude_nonnegative {magnitude : Nat} (bound : magnitude ≤ infinityMagnitude) :
    (ofMagnitude false magnitude).Nonnegative ∧
      (ofMagnitude false magnitude).magnitude = magnitude := by
  have bits := ofMagnitude_bits bound
  have small : magnitude < 2 ^ 63 := Nat.lt_of_le_of_lt bound (by decide)
  have same : (ofMagnitude false magnitude).magnitude = magnitude := by
    rw [Binary64.magnitude, bits]
    exact Nat.mod_eq_of_lt small
  have sign : (ofMagnitude false magnitude).isNegative = false := by
    rw [isNegative, bits]
    exact decide_eq_false (Nat.not_le_of_lt small)
  exact ⟨⟨sign, Nat.le_trans (Nat.le_of_eq same) bound⟩, same⟩

theorem roundMagnitude_le (num den : Nat) : roundMagnitude num den ≤ infinityMagnitude :=
  Nat.min_le_right _ _

theorem roundDiv_one (num : Nat) : roundDiv num 1 = num := by
  simp [roundDiv, Nat.mod_one]

theorem roundMagnitude_pos {num : Nat} (h : 0 < num) : 0 < roundMagnitude num 1 := by
  have infinity : 0 < infinityMagnitude := by decide
  rw [roundMagnitude, Nat.div_one, Nat.one_mul]
  refine Nat.lt_min.mpr ⟨?_, infinity⟩
  rcases Nat.eq_zero_or_pos (num.log2 - 52) with places | places
  · rw [places, Nat.pow_zero, roundDiv_one]
    omega
  · omega

theorem ofUnits_nonnegative (num den : Nat) : (ofUnits false num den).Nonnegative :=
  (ofMagnitude_nonnegative (roundMagnitude_le num den)).1

theorem ofUnits_positive {num : Nat} (h : 0 < num) : (ofUnits false num 1).Positive := by
  obtain ⟨⟨sign, bound⟩, same⟩ := ofMagnitude_nonnegative (roundMagnitude_le num 1)
  exact ⟨sign, same.symm ▸ roundMagnitude_pos h, bound⟩

theorem one_pos : 0 < one := by
  unfold one
  apply Nat.two_pow_pos

theorem ofNat_positive {n : Nat} (h : 0 < n) : (ofNat n).Positive :=
  ofUnits_positive (Nat.mul_pos h one_pos)

theorem ofNat_nonnegative (n : Nat) : (ofNat n).Nonnegative := ofUnits_nonnegative _ _

theorem Positive.nonnegative {x : Binary64} (h : x.Positive) : x.Nonnegative := ⟨h.1, h.2.2⟩

theorem Nonnegative.isNaN {x : Binary64} (h : x.Nonnegative) : x.isNaN = false :=
  decide_eq_false (Nat.not_lt_of_le h.2)

theorem Positive.units {x : Binary64} (h : x.Positive) : 0 < x.units := by
  obtain ⟨_, positive, _⟩ := h
  rw [Binary64.units, unitsOf]
  split
  · exact positive
  · exact Nat.mul_pos (Nat.add_pos_right _ (Nat.two_pow_pos 52)) (Nat.two_pow_pos _)

theorem Positive.add {x y : Binary64} (hx : x.Positive) (hy : y.Nonnegative) :
    (x.add y).Positive := by
  simp only [Binary64.add, hx.nonnegative.isNaN, hy.isNaN, hx.1, hy.1, Bool.false_eq_true, if_false,
    bne_self_eq_false, Bool.and_false]
  split
  · exact hx
  split
  · rename_i infinite
    have magnitude : y.magnitude = infinityMagnitude := by simpa [isInfinite] using infinite
    exact ⟨hy.1, magnitude ▸ by decide, hy.2⟩
  · have positive := hx.units
    have total : x.signedUnits + y.signedUnits = ((x.units + y.units : Nat) : Int) := by
      simp [signedUnits, hx.1, hy.1]
    have above : ¬((x.units + y.units : Nat) : Int) < 0 := by omega
    have nonzero : ((x.units + y.units : Nat) : Int) ≠ 0 := by omega
    rw [addFinite, total, if_neg nonzero, decide_eq_false above]
    exact ofUnits_positive (by omega)

theorem Nonnegative.div {x y : Binary64} (hx : x.Nonnegative) (hy : y.Positive)
    (finite : y.isInfinite = false) : (x.div y).Nonnegative := by
  have sign : signOfProduct x y = false := by rw [signOfProduct, hx.1, hy.1]; rfl
  have nonzero : y.isZero = false := by
    have := hy.2.1
    rw [isZero, beq_eq_false_iff_ne]
    omega
  simp only [Binary64.div, hx.isNaN, hy.nonnegative.isNaN, finite, nonzero, sign,
    Bool.false_eq_true, if_false]
  split
  · exact (ofMagnitude_nonnegative (Nat.le_refl _)).1
  · exact ofUnits_nonnegative _ _

end Binary64

end LoadBench
