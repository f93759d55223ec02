import LoadBench.Decimal.Shortest
import Mathlib.Tactic.Ring

namespace LoadBench.Binary64

/-- A magnitude has a significand of up to 53 bits above some binary places. It has 53 bits, or
there are no places below it. -/
structure Scaled (magnitude places significand : Nat) : Prop where
  sum : magnitude = places * 2 ^ 52 + significand
  bound : significand ≤ 2 ^ 53
  normal : places = 0 ∨ 2 ^ 52 ≤ significand

theorem exists_scaled (magnitude : Nat) :
    ∃ places significand, Scaled magnitude places significand ∧ significand < 2 ^ 53 := by
  refine ⟨magnitude / 2 ^ 52 - 1, magnitude - (magnitude / 2 ^ 52 - 1) * 2 ^ 52, ⟨?_, ?_, ?_⟩, ?_⟩
  all_goals omega

theorem Scaled.unitsOf {m p s : Nat} (scaled : Scaled m p s) : unitsOf m = s * 2 ^ p := by
  obtain ⟨sum, bound, normal⟩ := scaled
  rw [Binary64.unitsOf]
  rcases Nat.lt_or_ge s (2 ^ 52) with subnormal | normal
  · have places : p = 0 := by omega
    subst places
    rw [if_pos (by omega), Nat.pow_zero, Nat.mul_one]
    omega
  rcases Nat.lt_or_ge s (2 ^ 53) with small | large
  · have places : m / 2 ^ 52 - 1 = p := by omega
    have rest : m % 2 ^ 52 + 2 ^ 52 = s := by omega
    rw [if_neg (by omega), places, rest]
  · have places : m / 2 ^ 52 - 1 = p + 1 := by omega
    have rest : m % 2 ^ 52 + 2 ^ 52 = 2 ^ 52 := by omega
    have whole : s = 2 ^ 52 * 2 := by omega
    rw [if_neg (by omega), places, rest, whole, Nat.pow_succ]
    ring

theorem Scaled.succ {m p s : Nat} (scaled : Scaled m p s) (small : s < 2 ^ 53) :
    Scaled (m + 1) p (s + 1) := by
  obtain ⟨sum, -, normal⟩ := scaled
  exact ⟨by omega, by omega, by omega⟩

theorem Scaled.pred {m p s : Nat} (scaled : Scaled m p s) (positive : 0 < m) :
    Scaled (m - 1) p (s - 1) ∧ 0 < s ∨
      ∃ q, p = q + 1 ∧ s = 2 ^ 52 ∧ Scaled (m - 1) q (2 ^ 53 - 1) := by
  obtain ⟨sum, bound, normal⟩ := scaled
  rcases Nat.eq_zero_or_pos p with lowest | raised
  · exact .inl ⟨⟨by omega, by omega, .inl lowest⟩, by omega⟩
  rcases Nat.eq_or_lt_of_le (normal.resolve_left (by omega)) with least | more
  · exact .inr ⟨p - 1, by omega, least.symm, by omega, by omega, by omega⟩
  · exact .inl ⟨⟨by omega, by omega, by omega⟩, by omega⟩

theorem unitsOf_lt_succ (m : Nat) : unitsOf m < unitsOf (m + 1) := by
  obtain ⟨p, s, scaled, small⟩ := exists_scaled m
  rw [scaled.unitsOf, (scaled.succ small).unitsOf]
  exact Nat.mul_lt_mul_of_pos_right (Nat.lt_succ_self s) (Nat.two_pow_pos p)

theorem roundDiv_eq {num den s : Nat} (low : 2 * (s * den) ≤ 2 * num + den)
    (high : 2 * num ≤ 2 * (s * den) + den)
    (odd : s % 2 = 1 → 2 * (s * den) < 2 * num + den ∧ 2 * num < 2 * (s * den) + den)
    (positive : 0 < den) : roundDiv num den = s := by
  have whole := Nat.div_add_mod num den
  have rest := Nat.mod_lt num positive
  rw [roundDiv]
  generalize num / den = q at whole ⊢
  generalize num % den = r at whole rest ⊢
  rw [Nat.mul_comm] at whole
  rcases Nat.lt_trichotomy q s with less | rfl | more
  · have next : s = q + 1 := by
      refine Nat.le_antisymm (Nat.le_of_not_lt fun further => ?_) less
      have gap : (q + 2) * den ≤ s * den := Nat.mul_le_mul_right den further
      rw [Nat.add_mul] at gap
      omega
    subst next
    rw [Nat.add_mul] at low high odd
    split
    · omega
    · split <;> omega
  · split
    · rfl
    · split <;> omega
  · have gap : (s + 1) * den ≤ q * den := Nat.mul_le_mul_right den more
    rw [Nat.add_mul] at gap
    omega

theorem places_eq {num den p : Nat} (positive : 0 < den) (below : num < 2 ^ 53 * (den * 2 ^ p))
    (above : p = 0 ∨ 2 ^ 52 * (den * 2 ^ p) ≤ num) : (num / den).log2 - 52 = p := by
  have upper : num / den < 2 ^ (53 + p) := by
    rw [Nat.div_lt_iff_lt_mul positive, Nat.pow_add]
    calc num < 2 ^ 53 * (den * 2 ^ p) := below
      _ = 2 ^ 53 * 2 ^ p * den := by ring
  rcases Nat.eq_zero_or_pos (num / den) with zero | nonzero
  · rcases above with rfl | above
    · rw [zero]
      rfl
    · have large : 2 ^ 52 * 2 ^ p ≤ num / den := by
        rw [Nat.le_div_iff_mul_le positive]
        calc 2 ^ 52 * 2 ^ p * den = 2 ^ 52 * (den * 2 ^ p) := by ring
          _ ≤ num := above
      have positive := Nat.two_pow_pos p
      omega
  have bits := (Nat.log2_lt (Nat.ne_of_gt nonzero)).mpr upper
  rcases above with rfl | above
  · omega
  · have large : 2 ^ (52 + p) ≤ num / den := by
      rw [Nat.le_div_iff_mul_le positive, Nat.pow_add]
      calc 2 ^ 52 * 2 ^ p * den = 2 ^ 52 * (den * 2 ^ p) := by ring
        _ ≤ num := above
    have least := (Nat.le_log2 (Nat.ne_of_gt nonzero)).mpr large
    omega

theorem roundMagnitude_eq {m num den p s : Nat} (scaled : Scaled m p s)
    (finite : m < infinityMagnitude) (positive : 0 < den) (below : num < 2 ^ 53 * (den * 2 ^ p))
    (above : p = 0 ∨ 2 ^ 52 * (den * 2 ^ p) ≤ num) (near : roundDiv num (den * 2 ^ p) = s) :
    roundMagnitude num den = m := by
  rw [roundMagnitude, places_eq positive below above, near, ← scaled.sum]
  exact Nat.min_eq_left (Nat.le_of_lt finite)

open Decimal

theorem bounds_of_contains {i : Interval} {num den : Nat} (inside : i.contains num den = true) :
    i.low * den ≤ 2 * num ∧ 2 * num ≤ i.high * den := by
  rw [Interval.contains] at inside
  split at inside
  all_goals
    simp only [Bool.and_eq_true, decide_eq_true_eq] at inside
    omega

theorem bounds_of_contains_odd {m num den : Nat}
    (inside : (roundingInterval m).contains num den = true) (odd : m % 2 = 1) :
    (roundingInterval m).low * den < 2 * num ∧ 2 * num < (roundingInterval m).high * den := by
  have ends : (roundingInterval m).closed = false := by
    rw [roundingInterval, odd]
    rfl
  rw [Interval.contains, ends] at inside
  simp only [Bool.false_eq_true, if_false, Bool.and_eq_true, decide_eq_true_eq] at inside
  exact inside

theorem interval_inner {m p s : Nat} (scaled : Scaled m p s) (small : s < 2 ^ 53)
    (lower : Scaled (m - 1) p (s - 1)) (nonzero : 0 < s) (den : Nat) :
    (roundingInterval m).low * den + den * 2 ^ p = 2 * (s * (den * 2 ^ p)) ∧
      (roundingInterval m).high * den = 2 * (s * (den * 2 ^ p)) + den * 2 ^ p := by
  obtain ⟨t, rfl⟩ : ∃ t, s = t + 1 := ⟨s - 1, by omega⟩
  simp only [roundingInterval, scaled.unitsOf, (scaled.succ small).unitsOf, lower.unitsOf,
    Nat.add_sub_cancel]
  constructor <;> ring

theorem interval_least {m q : Nat} (scaled : Scaled m (q + 1) (2 ^ 52))
    (lower : Scaled (m - 1) q (2 ^ 53 - 1)) (den : Nat) :
    (roundingInterval m).low * den = (2 ^ 54 - 1) * (den * 2 ^ q) ∧
      (roundingInterval m).high * den = (2 ^ 54 + 2) * (den * 2 ^ q) := by
  simp only [roundingInterval, scaled.unitsOf, (scaled.succ (by decide)).unitsOf, lower.unitsOf]
  constructor <;> ring

theorem roundMagnitude_inner {m p s num den : Nat} (scaled : Scaled m p s) (small : s < 2 ^ 53)
    (lower : Scaled (m - 1) p (s - 1)) (nonzero : 0 < s) (finite : m < infinityMagnitude)
    (positive : 0 < den) (inside : (roundingInterval m).contains num den = true) :
    roundMagnitude num den = m := by
  obtain ⟨low, high⟩ := bounds_of_contains inside
  have odd := bounds_of_contains_odd inside
  obtain ⟨lowEnd, highEnd⟩ := interval_inner scaled small lower nonzero den
  have unit : 0 < den * 2 ^ p := Nat.mul_pos positive (Nat.two_pow_pos p)
  -- A half is rounded to the even significand, which is that of the even magnitude.
  have parity : m % 2 = s % 2 := by
    have sum := scaled.sum
    omega
  rw [parity] at odd
  have most : (s + 1) * (den * 2 ^ p) ≤ 2 ^ 53 * (den * 2 ^ p) := Nat.mul_le_mul_right _ small
  rw [Nat.add_mul] at most
  refine roundMagnitude_eq scaled finite positive (by omega) ?_
    (roundDiv_eq (by omega) (by omega) (by omega) unit)
  rcases lower.normal with lowest | more
  · exact .inl lowest
  · have least : (2 ^ 52 + 1) * (den * 2 ^ p) ≤ s * (den * 2 ^ p) :=
      Nat.mul_le_mul_right _ (by omega)
    rw [Nat.add_mul] at least
    exact .inr (by omega)

/-- Below the least significand the units are half as large: a number there is rounded with one
place less, and carried to the least significand if need be. -/
theorem roundMagnitude_least {m q num den : Nat} (scaled : Scaled m (q + 1) (2 ^ 52))
    (lower : Scaled (m - 1) q (2 ^ 53 - 1)) (finite : m < infinityMagnitude) (positive : 0 < den)
    (inside : (roundingInterval m).contains num den = true) : roundMagnitude num den = m := by
  obtain ⟨low, high⟩ := bounds_of_contains inside
  obtain ⟨lowEnd, highEnd⟩ := interval_least scaled lower den
  have unit : 0 < den * 2 ^ q := Nat.mul_pos positive (Nat.two_pow_pos q)
  have double : den * 2 ^ (q + 1) = 2 * (den * 2 ^ q) := by ring
  rcases Nat.lt_or_ge num (2 ^ 53 * (den * 2 ^ q)) with below | above
  · have carried : Scaled m q (2 ^ 53) := by
      have sum := scaled.sum
      exact ⟨by omega, by omega, by omega⟩
    exact roundMagnitude_eq carried finite positive below (.inr (by omega))
      (roundDiv_eq (by omega) (by omega) (by omega) unit)
  · refine roundMagnitude_eq scaled finite positive ?_ (.inr ?_)
      (roundDiv_eq ?_ ?_ (by omega) ?_)
    all_goals
      rw [double]
      omega

theorem roundMagnitude_of_contains {m num den : Nat} (nonzero : 0 < m)
    (finite : m < infinityMagnitude) (positive : 0 < den)
    (inside : (roundingInterval m).contains num den = true) : roundMagnitude num den = m := by
  obtain ⟨p, s, scaled, small⟩ := exists_scaled m
  rcases scaled.pred nonzero with ⟨lower, least⟩ | ⟨q, rfl, rfl, lower⟩
  · exact roundMagnitude_inner scaled small lower least finite positive inside
  · exact roundMagnitude_least scaled lower finite positive inside

theorem unitsOf_le_gap {m : Nat} (nonzero : 0 < m) :
    2 ^ 53 * unitsOf (m - 1) + unitsOf m ≤ 2 ^ 53 * unitsOf m := by
  obtain ⟨p, s, scaled, small⟩ := exists_scaled m
  rcases scaled.pred nonzero with ⟨lower, least⟩ | ⟨q, rfl, rfl, lower⟩
  · obtain ⟨t, rfl⟩ : ∃ t, s = t + 1 := ⟨s - 1, by omega⟩
    have most : (t + 1) * 2 ^ p ≤ 2 ^ 53 * 2 ^ p := Nat.mul_le_mul_right _ (Nat.le_of_lt small)
    rw [scaled.unitsOf, lower.unitsOf, Nat.add_sub_cancel]
    rw [Nat.add_mul] at most ⊢
    omega
  · have double : 2 ^ (q + 1) = 2 * 2 ^ q := by ring
    rw [scaled.unitsOf, lower.unitsOf, double]
    omega

/-- A number that is short of a double by less than `2⁻⁵⁴` of it is rounded to it. -/
theorem roundMagnitude_of_short {m num den : Nat} (nonzero : 0 < m) (finite : m < infinityMagnitude)
    (positive : 0 < den) (most : num ≤ unitsOf m * den)
    (close : 2 ^ 54 * (unitsOf m * den) < 2 ^ 54 * num + unitsOf m * den) :
    roundMagnitude num den = m := by
  refine roundMagnitude_of_contains nonzero finite positive ?_
  have gap := Nat.mul_le_mul_right den (unitsOf_le_gap nonzero)
  have step := Nat.mul_lt_mul_of_pos_right (unitsOf_lt_succ m) positive
  rw [Nat.add_mul, Nat.mul_assoc, Nat.mul_assoc] at gap
  have low : (roundingInterval m).low * den < 2 * num := by
    rw [roundingInterval, Nat.add_mul]
    omega
  have high : 2 * num < (roundingInterval m).high * den := by
    rw [roundingInterval, Nat.add_mul]
    omega
  rw [Interval.contains]
  split
  · simp [Nat.le_of_lt low, Nat.le_of_lt high]
  · simp [low, high]

end LoadBench.Binary64
