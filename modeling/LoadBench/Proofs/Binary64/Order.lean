import LoadBench.Binary64.Arithmetic
import LoadBench.Proofs.Binary64.Rounding
import LoadBench.Proofs.Binary64.Sign
import Mathlib.Order.Monotone.Basic

namespace LoadBench.Binary64

theorem unitsOf_strictMono : StrictMono unitsOf := strictMono_nat_of_lt_succ unitsOf_lt_succ

theorem le_roundDiv (num den : Nat) : num / den ≤ roundDiv num den := by
  rw [roundDiv]
  split
  · exact Nat.le_refl _
  · split <;> omega

theorem roundDiv_le (num den : Nat) : roundDiv num den ≤ num / den + 1 := by
  rw [roundDiv]
  split
  · exact Nat.le_succ _
  · split <;> omega

theorem roundDiv_mono {a b : Nat} (le : a ≤ b) (den : Nat) : roundDiv a den ≤ roundDiv b den := by
  have quotients : a / den ≤ b / den := Nat.div_le_div_right le
  rcases Nat.lt_or_eq_of_le quotients with less | same
  · calc roundDiv a den ≤ a / den + 1 := roundDiv_le a den
      _ ≤ b / den := less
      _ ≤ roundDiv b den := le_roundDiv b den
  · have wholeA := Nat.div_add_mod a den
    have wholeB := Nat.div_add_mod b den
    rw [same] at wholeA
    simp only [roundDiv, same]
    grind

theorem log2_le_log2 {a b : Nat} (le : a ≤ b) : a.log2 ≤ b.log2 := by
  rcases Nat.eq_zero_or_pos a with rfl | positive
  · rw [Nat.log2_zero]
    exact Nat.zero_le _
  · exact (Nat.le_log2 (by omega)).mpr (Nat.le_trans (Nat.log2_self_le (Nat.ne_of_gt positive)) le)

theorem significand_le (num den : Nat) :
    roundDiv num (den * 2 ^ ((num / den).log2 - 52)) ≤ 2 ^ 53 := by
  have bits : num / den < 2 ^ ((num / den).log2 + 1) := Nat.lt_log2_self
  have most : (num / den).log2 + 1 ≤ 53 + ((num / den).log2 - 52) := by omega
  have below : num / den / 2 ^ ((num / den).log2 - 52) < 2 ^ 53 := by
    rw [Nat.div_lt_iff_lt_mul (Nat.two_pow_pos _), ← Nat.pow_add]
    exact Nat.lt_of_lt_of_le bits (Nat.pow_le_pow_right Nat.two_pos most)
  rw [Nat.div_div_eq_div_mul] at below
  exact Nat.le_trans (roundDiv_le _ _) below

theorem le_significand {num den : Nat} (dropped : 52 < (num / den).log2) :
    2 ^ 52 ≤ roundDiv num (den * 2 ^ ((num / den).log2 - 52)) := by
  have nonzero : num / den ≠ 0 := by
    intro vanishes
    rw [vanishes] at dropped
    exact absurd dropped (by decide)
  have above : 2 ^ 52 ≤ num / den / 2 ^ ((num / den).log2 - 52) := by
    have places : 52 + ((num / den).log2 - 52) = (num / den).log2 := by omega
    rw [Nat.le_div_iff_mul_le (Nat.two_pow_pos _), ← Nat.pow_add, places]
    exact Nat.log2_self_le nonzero
  rw [Nat.div_div_eq_div_mul] at above
  exact Nat.le_trans above (le_roundDiv _ _)

theorem roundMagnitude_mono {a b : Nat} (le : a ≤ b) (den : Nat) :
    roundMagnitude a den ≤ roundMagnitude b den := by
  have logs : (a / den).log2 ≤ (b / den).log2 := log2_le_log2 (Nat.div_le_div_right le)
  simp only [roundMagnitude]
  refine min_le_min_right _ ?_
  rcases Nat.lt_or_eq_of_le (Nat.sub_le_sub_right logs 52) with less | same
  · have small := significand_le a den
    have dropped : 52 < (b / den).log2 := by omega
    have large := le_significand dropped
    omega
  · rw [same]
    exact Nat.add_le_add_left (roundDiv_mono le _) _

theorem roundMagnitude_unitsOf {m den : Nat} (finite : m < infinityMagnitude) (positive : 0 < den) :
    roundMagnitude (unitsOf m * den) den = m := by
  obtain ⟨p, s, scaled, small⟩ := exists_scaled m
  have unit : 0 < den * 2 ^ p := Nat.mul_pos positive (Nat.two_pow_pos p)
  have whole : unitsOf m * den = s * (den * 2 ^ p) := by rw [scaled.unitsOf]; ring
  rw [whole]
  refine roundMagnitude_eq scaled finite positive (Nat.mul_lt_mul_of_pos_right small unit) ?_ ?_
  · rcases scaled.normal with lowest | normal
    · exact .inl lowest
    · exact .inr (Nat.mul_le_mul_right _ normal)
  · exact roundDiv_eq (by omega) (by omega) (by omega) unit

theorem exists_unitsOf {s p : Nat} (small : s < 2 ^ 53) (places : p ≤ 2045) :
    ∃ m < infinityMagnitude, unitsOf m = s * 2 ^ p := by
  -- A significand short of bits is doubled, and a place given for it, while there are any.
  induction p generalizing s with
  | zero =>
    have scaled : Scaled s 0 s := ⟨by omega, by omega, .inl rfl⟩
    exact ⟨s, Nat.lt_trans small (by decide), scaled.unitsOf⟩
  | succ p ih =>
    rcases Nat.lt_or_ge s (2 ^ 52) with short | full
    · obtain ⟨m, finite, units⟩ := ih (s := s * 2) (by omega) (by omega)
      exact ⟨m, finite, by rw [units]; ring⟩
    · have scaled : Scaled ((p + 1) * 2 ^ 52 + s) (p + 1) s := ⟨rfl, by omega, .inr full⟩
      have finite : (p + 1) * 2 ^ 52 + s < infinityMagnitude := by
        rw [infinityMagnitude]
        omega
      exact ⟨_, finite, scaled.unitsOf⟩

theorem ofUnits_unitsOf {m den : Nat} (finite : m < infinityMagnitude) (positive : 0 < den) :
    (ofUnits false (unitsOf m * den) den).magnitude = m := by
  rw [ofUnits, roundMagnitude_unitsOf finite positive]
  exact (ofMagnitude_nonnegative (Nat.le_of_lt finite)).2

/-- Exactly `k / 2 ^ places`, and finite. -/
structure IsFraction (x : Binary64) (k places : Nat) : Prop where
  sign : x.isNegative = false
  finite : x.isFinite = true
  value : x.units * 2 ^ places = k * one

theorem one_eq_mul_two_pow {places : Nat} (range : places ≤ 1074) :
    one = 2 ^ (1074 - places) * 2 ^ places := by
  rw [one, ← Nat.pow_add]
  congr 1
  omega

theorem ofRatio_isFraction {k places : Nat} (small : k < 2 ^ 53) (range : places ≤ 1074) :
    (ofRatio false k (2 ^ places)).IsFraction k places := by
  have whole := one_eq_mul_two_pow range
  obtain ⟨m, finite, units⟩ := exists_unitsOf (p := 1074 - places) small (by omega)
  have ratio : k * one = unitsOf m * 2 ^ places := by rw [units, whole, Nat.mul_assoc]
  have magnitude : (ofRatio false k (2 ^ places)).magnitude = m := by
    rw [ofRatio, ratio]
    exact ofUnits_unitsOf finite (Nat.two_pow_pos places)
  refine ⟨(ofUnits_nonnegative _ _).1, ?_, ?_⟩
  · rw [isFinite, magnitude]
    exact decide_eq_true finite
  · rw [Binary64.units, magnitude, ratio]

theorem IsFraction.nonnegative {x : Binary64} {k places : Nat} (h : x.IsFraction k places) :
    x.Nonnegative :=
  ⟨h.sign, Nat.le_of_lt (of_decide_eq_true h.finite)⟩

theorem lt_eq_not_le {x y : Binary64} (hx : x.isNaN = false) (hy : y.isNaN = false) :
    x.lt y = !y.le x := by
  rw [lt, le, hx, hy]
  simp only [Bool.not_false, Bool.true_and, ← decide_not, Int.not_le]

theorem Nonnegative.numericRank {x : Binary64} (h : x.Nonnegative) : x.numericRank = x.magnitude := by
  rw [Binary64.numericRank, h.1]
  rfl

theorem Nonnegative.lt_iff {x y : Binary64} (hx : x.Nonnegative) (hy : y.Nonnegative) :
    x.lt y = true ↔ x.units < y.units := by
  rw [lt, hx.isNaN, hy.isNaN, hx.numericRank, hy.numericRank]
  simp [units, unitsOf_strictMono.lt_iff_lt]

theorem Nonnegative.le_iff {x y : Binary64} (hx : x.Nonnegative) (hy : y.Nonnegative) :
    x.le y = true ↔ x.magnitude ≤ y.magnitude := by
  rw [le, hx.isNaN, hy.isNaN, hx.numericRank, hy.numericRank]
  simp

theorem units_ofNat_one : (ofNat 1).units = one := by decide +kernel

theorem IsFraction.lt_one {x : Binary64} {k places : Nat} (h : x.IsFraction k places)
    (proper : k < 2 ^ places) : x.lt (ofNat 1) = true := by
  rw [h.nonnegative.lt_iff (ofNat_nonnegative 1), units_ofNat_one]
  refine Nat.lt_of_mul_lt_mul_right (a := 2 ^ places) ?_
  rw [h.value, Nat.mul_comm one]
  exact Nat.mul_lt_mul_of_pos_right proper one_pos

theorem not_lt_of_isZero {x y : Binary64} (hx : x.Nonnegative) (zero : y.isZero = true) :
    x.lt y = false := by
  have nothing : y.magnitude = 0 := eq_of_beq zero
  have rank : y.numericRank = 0 := by simp [Binary64.numericRank, nothing]
  simp [lt, hx.numericRank, rank]

theorem add_one_of_isZero {x : Binary64} (zero : x.isZero = true) : x.add (ofNat 1) = ofNat 1 := by
  have magnitude : x.magnitude = 0 := eq_of_beq zero
  rw [← ofMagnitude_self x, magnitude]
  cases x.isNegative <;> decide +kernel

theorem IsFraction.magnitude_le {x y : Binary64} {j k places : Nat} (hx : x.IsFraction j places)
    (hy : y.IsFraction k places) (le : j ≤ k) : x.magnitude ≤ y.magnitude := by
  rw [← unitsOf_strictMono.le_iff_le]
  refine Nat.le_of_mul_le_mul_right (c := 2 ^ places) ?_ (Nat.two_pow_pos places)
  calc x.units * 2 ^ places = j * one := hx.value
    _ ≤ k * one := Nat.mul_le_mul_right _ le
    _ = y.units * 2 ^ places := hy.value.symm

theorem magnitude_infinity : (infinity false).magnitude = infinityMagnitude := by decide

theorem magnitude_ofUnits (num den : Nat) :
    (ofUnits false num den).magnitude = roundMagnitude num den :=
  (ofMagnitude_nonnegative (roundMagnitude_le num den)).2

section

variable {x y z d : Binary64}

theorem not_isInfinite_of_isFinite (finite : x.isFinite = true) : x.isInfinite = false := by
  have below := of_decide_eq_true finite
  exact beq_eq_false_iff_ne.mpr (Nat.ne_of_lt below)

theorem Nonnegative.isInfinite_of_le (hy : y.Nonnegative) (le : x.magnitude ≤ y.magnitude)
    (finite : y.isInfinite = false) : x.isInfinite = false := by
  have bound := hy.2
  have below : y.magnitude ≠ infinityMagnitude := beq_eq_false_iff_ne.mp finite
  rw [isInfinite, beq_eq_false_iff_ne]
  omega

theorem Nonnegative.div_eq (hx : x.Nonnegative) (hd : d.Positive) (finite : d.isInfinite = false) :
    x.div d = if x.isInfinite then infinity false else ofUnits false (x.units * one) d.units := by
  have sign : signOfProduct x d = false := by rw [signOfProduct, hx.1, hd.1]; rfl
  have nonzero : d.isZero = false := by
    have positive := hd.2.1
    rw [isZero, beq_eq_false_iff_ne]
    omega
  simp [Binary64.div, hx.isNaN, hd.nonnegative.isNaN, finite, nonzero, sign]

theorem Nonnegative.div_mono (hx : x.Nonnegative) (hy : y.Nonnegative)
    (le : x.magnitude ≤ y.magnitude) (hd : d.Positive) (finite : d.isInfinite = false) :
    (x.div d).magnitude ≤ (y.div d).magnitude := by
  have bound := (hx.div hd finite).2
  cases top : y.isInfinite with
  | true =>
    rw [hy.div_eq hd finite, if_pos top, magnitude_infinity]
    exact bound
  | false =>
    have inner := hy.isInfinite_of_le le top
    have units : x.units * one ≤ y.units * one :=
      Nat.mul_le_mul_right _ (unitsOf_strictMono.monotone le)
    rw [hx.div_eq hd finite, hy.div_eq hd finite, inner, top]
    simp only [Bool.false_eq_true, if_false, magnitude_ofUnits]
    exact roundMagnitude_mono units _

theorem Nonnegative.mul_eq (hx : x.Nonnegative) (hz : z.Nonnegative) :
    x.mul z =
      if x.isInfinite || z.isInfinite then if x.isZero || z.isZero then nan else infinity false
      else ofUnits false (x.units * z.units) one := by
  have sign : signOfProduct x z = false := by rw [signOfProduct, hx.1, hz.1]; rfl
  rw [mul, hx.isNaN, hz.isNaN, sign]
  simp

theorem Nonnegative.mul_eq_ofUnits (hx : x.Nonnegative) (hz : z.Nonnegative)
    (finite : x.isInfinite = false) (other : z.isInfinite = false) :
    x.mul z = ofUnits false (x.units * z.units) one := by
  rw [hx.mul_eq hz, finite, other]
  rfl

theorem Nonnegative.mul_mono (hx : x.Nonnegative) (hy : y.Nonnegative) (hz : z.Nonnegative)
    (le : x.magnitude ≤ y.magnitude) (finite : y.isInfinite = false)
    (other : z.isInfinite = false) : (x.mul z).magnitude ≤ (y.mul z).magnitude := by
  have units : x.units * z.units ≤ y.units * z.units :=
    Nat.mul_le_mul_right _ (unitsOf_strictMono.monotone le)
  rw [hx.mul_eq_ofUnits hz (hy.isInfinite_of_le le finite) other,
    hy.mul_eq_ofUnits hz finite other, magnitude_ofUnits, magnitude_ofUnits]
  exact roundMagnitude_mono units one

theorem toWord_le (x : Binary64) : x.toWord ≤ 2 ^ 64 - 1 := by
  rw [toWord]
  split
  · exact Nat.zero_le _
  · split
    · exact Nat.le_refl _
    · exact Nat.min_le_right _ _

theorem toWord_of_isNegative (sign : x.isNegative = true) : x.toWord = 0 := by
  simp [toWord, sign]

theorem toWord_of_isNaN (nan : x.isNaN = true) : x.toWord = 0 := by
  simp [toWord, nan]

theorem toWord_infinity : (infinity false).toWord = 2 ^ 64 - 1 := by decide +kernel

theorem Nonnegative.toWord_mono (hx : x.Nonnegative) (hy : y.Nonnegative)
    (le : x.magnitude ≤ y.magnitude) : x.toWord ≤ y.toWord := by
  cases top : y.isInfinite with
  | true =>
    have most : y.toWord = 2 ^ 64 - 1 := by simp [toWord, hy.isNaN, hy.1, top]
    rw [most]
    exact toWord_le x
  | false =>
    have inner := hy.isInfinite_of_le le top
    have units : x.units / one ≤ y.units / one :=
      Nat.div_le_div_right (unitsOf_strictMono.monotone le)
    simp only [toWord, hx.isNaN, hx.1, hy.isNaN, hy.1, inner, top, Bool.or_self,
      Bool.false_eq_true, if_false]
    omega

theorem units_eq_zero (zero : x.isZero = true) : x.units = 0 := by
  have nothing : x.magnitude = 0 := eq_of_beq zero
  rw [units, nothing]
  rfl

theorem toWord_ofUnits_zero (den : Nat) : (ofUnits false 0 den).toWord = 0 := by
  have nothing : roundMagnitude 0 den = 0 := by simp [roundMagnitude, roundDiv]
  rw [ofUnits, nothing]
  decide +kernel

theorem Nonnegative.toWord_mul_of_isZero (hx : x.Nonnegative) (hz : z.Nonnegative)
    (zero : (x.isZero || z.isZero) = true) : (x.mul z).toWord = 0 := by
  rw [hx.mul_eq hz, if_pos zero]
  split
  · exact toWord_of_isNaN (by decide)
  · have nothing : x.units * z.units = 0 := by
      rcases Bool.or_eq_true_iff.mp zero with left | right
      · rw [units_eq_zero left, Nat.zero_mul]
      · rw [units_eq_zero right, Nat.mul_zero]
    rw [nothing]
    exact toWord_ofUnits_zero one

theorem Nonnegative.toWord_mul_mono (hx : x.Nonnegative) (hy : y.Nonnegative)
    (hz : z.Nonnegative) (le : x.magnitude ≤ y.magnitude) :
    (x.mul z).toWord ≤ (y.mul z).toWord := by
  cases zero : x.isZero || z.isZero with
  | true =>
    rw [hx.toWord_mul_of_isZero hz zero]
    exact Nat.zero_le _
  | false =>
    have nonzero : (y.isZero || z.isZero) = false := by
      simp only [isZero, Bool.or_eq_false_iff, beq_eq_false_iff_ne] at zero ⊢
      exact ⟨by omega, zero.2⟩
    cases top : y.isInfinite || z.isInfinite with
    | true =>
      rw [hy.mul_eq hz, top, nonzero]
      simp only [if_true, Bool.false_eq_true, if_false, toWord_infinity]
      exact toWord_le _
    | false =>
      obtain ⟨finite, other⟩ := Bool.or_eq_false_iff.mp top
      have inner := hy.isInfinite_of_le le finite
      have products := hx.mul_mono hy hz le finite other
      rw [hx.mul_eq_ofUnits hz inner other, hy.mul_eq_ofUnits hz finite other] at products ⊢
      exact (ofUnits_nonnegative _ _).toWord_mono (ofUnits_nonnegative _ _) products

end

theorem isNegative_ofMagnitude {magnitude : Nat} (bound : magnitude ≤ infinityMagnitude) :
    (ofMagnitude true magnitude).isNegative = true := by
  have small : magnitude + 2 ^ 63 < 2 ^ 64 := by
    have most : infinityMagnitude < 2 ^ 63 := by decide
    omega
  have bits : (ofMagnitude true magnitude).bits.toNat = magnitude + 2 ^ 63 := by
    simp only [ofMagnitude, if_true, UInt64.toNat_ofNat']
    exact Nat.mod_eq_of_lt small
  rw [isNegative, bits]
  exact decide_eq_true (Nat.le_add_left _ _)

theorem isNegative_div {x d : Binary64} (sign : x.isNegative = true) (hd : d.Positive)
    (finite : d.isInfinite = false) : (x.div d).isNegative = true := by
  have product : signOfProduct x d = true := by rw [signOfProduct, sign, hd.1]; rfl
  have nonzero : d.isZero = false := by
    have positive := hd.2.1
    rw [isZero, beq_eq_false_iff_ne]
    omega
  simp only [Binary64.div, hd.nonnegative.isNaN, finite, nonzero, product, Bool.false_eq_true, if_false]
  split
  · exact sign
  · split
    · exact isNegative_ofMagnitude (Nat.le_refl _)
    · exact isNegative_ofMagnitude (roundMagnitude_le _ _)

theorem toWord_mul_of_isNegative {x z : Binary64} (sign : x.isNegative = true)
    (hz : z.Nonnegative) : (x.mul z).toWord = 0 := by
  have product : signOfProduct x z = true := by rw [signOfProduct, sign, hz.1]; rfl
  simp only [mul, hz.isNaN, product, Bool.false_eq_true, if_false]
  split
  · exact toWord_of_isNegative sign
  · split
    · split
      · exact toWord_of_isNaN (by decide)
      · exact toWord_of_isNegative (isNegative_ofMagnitude (Nat.le_refl _))
    · exact toWord_of_isNegative (isNegative_ofMagnitude (roundMagnitude_le _ _))

end LoadBench.Binary64
