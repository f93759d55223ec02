import LoadBench.Proofs.Binary64.Rounding
import LoadBench.Proofs.Text.Numeral
import Mathlib.Algebra.Order.Field.Power
import Mathlib.Data.Rat.Cast.Order
import Mathlib.Tactic.FieldSimp
import Mathlib.Tactic.Linarith
import Mathlib.Tactic.Positivity

namespace LoadBench.Decimal

open Binary64 Text

def worth (d : Decimal) : ℚ := d.digits * 10 ^ d.exponent * one

theorem one_pos_rat : (0 : ℚ) < one := by
  have positive : 0 < one := by
    unfold one
    exact Nat.two_pow_pos 1074
  exact_mod_cast positive

theorem unitsRatio_den_pos (d : Decimal) : 0 < d.unitsRatio.2 := by
  rw [unitsRatio]
  split
  · exact Nat.one_pos
  · exact Nat.pow_pos (by decide)

theorem unitsRatio_worth (d : Decimal) : (d.unitsRatio.1 : ℚ) = d.worth * d.unitsRatio.2 := by
  rw [unitsRatio, worth]
  split
  · rename_i e exponent
    rw [exponent]
    push_cast
    rw [Int.ofNat_eq_natCast, zpow_natCast]
    ring
  · rename_i e exponent
    rw [exponent]
    push_cast
    rw [zpow_negSucc]
    generalize (one : ℚ) = unit
    field_simp

structure Interval.Holds (i : Interval) (v : ℚ) : Prop where
  low : (i.low : ℚ) ≤ 2 * v
  high : 2 * v ≤ i.high
  strict : i.closed = false → (i.low : ℚ) < 2 * v ∧ 2 * v < i.high

theorem Interval.contains_iff {i : Interval} {num den : Nat} {v : ℚ} (positive : 0 < den)
    (ratio : (num : ℚ) = v * den) : i.contains num den = true ↔ i.Holds v := by
  have positiveRat : (0 : ℚ) < den := by exact_mod_cast positive
  have lowLe : i.low * den ≤ 2 * num ↔ (i.low : ℚ) ≤ 2 * v := by
    rw [← mul_le_mul_iff_left₀ positiveRat, mul_assoc, ← ratio]
    exact_mod_cast Iff.rfl
  have highLe : 2 * num ≤ i.high * den ↔ 2 * v ≤ (i.high : ℚ) := by
    rw [← mul_le_mul_iff_left₀ positiveRat, mul_assoc, ← ratio]
    exact_mod_cast Iff.rfl
  have lowLt : i.low * den < 2 * num ↔ (i.low : ℚ) < 2 * v := by
    rw [← mul_lt_mul_iff_left₀ positiveRat, mul_assoc, ← ratio]
    exact_mod_cast Iff.rfl
  have highLt : 2 * num < i.high * den ↔ 2 * v < (i.high : ℚ) := by
    rw [← mul_lt_mul_iff_left₀ positiveRat, mul_assoc, ← ratio]
    exact_mod_cast Iff.rfl
  rw [contains]
  cases closed : i.closed with
  | true =>
    simp only [if_true, Bool.and_eq_true, decide_eq_true_eq, lowLe, highLe]
    refine ⟨?_, fun holds => ⟨holds.low, holds.high⟩⟩
    rintro ⟨low, high⟩
    refine ⟨low, high, fun opened => ?_⟩
    rw [closed] at opened
    cases opened
  | false =>
    simp only [Bool.false_eq_true, if_false, Bool.and_eq_true, decide_eq_true_eq, lowLt, highLt]
    refine ⟨?_, fun holds => holds.strict closed⟩
    rintro ⟨low, high⟩
    exact ⟨low.le, high.le, fun _ => ⟨low, high⟩⟩

theorem Interval.Holds.of_lt {i : Interval} {v : ℚ} (low : (i.low : ℚ) < 2 * v)
    (high : 2 * v < i.high) : i.Holds v :=
  ⟨low.le, high.le, fun _ => ⟨low, high⟩⟩

theorem contains_unitsRatio (i : Interval) (d : Decimal) :
    i.contains d.unitsRatio.1 d.unitsRatio.2 = true ↔ i.Holds d.worth :=
  Interval.contains_iff d.unitsRatio_den_pos d.unitsRatio_worth

theorem floorOnGrid_eq (e : Int) :
    ∃ a b : Nat, 0 < a ∧ 0 < b ∧ (10 ^ e * one : ℚ) * b = a ∧
      ∀ u, floorOnGrid u e = ⟨u * b / a, e⟩ := by
  have unit : 0 < one := by exact_mod_cast one_pos_rat
  cases e with
  | ofNat e =>
    refine ⟨10 ^ e * one, 1, Nat.mul_pos (Nat.pow_pos (by decide)) unit, Nat.one_pos, ?_, ?_⟩
    · push_cast
      rw [Int.ofNat_eq_natCast, zpow_natCast]
      ring
    · intro u
      rw [Nat.mul_one]
      rfl
  | negSucc e =>
    refine ⟨one, 10 ^ (e + 1), unit, Nat.pow_pos (by decide), ?_, fun u => rfl⟩
    push_cast
    rw [zpow_negSucc]
    generalize (one : ℚ) = unit
    field_simp

theorem floorOnGrid_bounds (u : Nat) (e : Int) :
    (floorOnGrid u e).worth ≤ u ∧ (u : ℚ) < (floorOnGrid u e).worth + 10 ^ e * one := by
  obtain ⟨a, b, numerator, denominator, step, floor⟩ := floorOnGrid_eq e
  have below : u * b / a * a ≤ u * b := Nat.div_mul_le_self (u * b) a
  have above : u * b < (u * b / a + 1) * a := by
    calc u * b < a * (u * b / a + 1) := Nat.lt_mul_div_succ (u * b) numerator
      _ = (u * b / a + 1) * a := Nat.mul_comm _ _
  have positiveRat : (0 : ℚ) < b := by exact_mod_cast denominator
  have belowRat : ((u * b / a : Nat) : ℚ) * a ≤ u * b := by exact_mod_cast below
  have aboveRat : (u : ℚ) * b < (((u * b / a : Nat) : ℚ) + 1) * a := by exact_mod_cast above
  rw [floor, worth]
  dsimp only
  generalize ((u * b / a : Nat) : ℚ) = k at belowRat aboveRat ⊢
  rw [← step] at belowRat aboveRat
  constructor
  · refine le_of_mul_le_mul_right ?_ positiveRat
    linarith
  · refine lt_of_mul_lt_mul_right ?_ positiveRat.le
    linarith

theorem next_worth (d : Decimal) : d.next.worth = d.worth + 10 ^ d.exponent * one := by
  rw [worth, worth, next]
  push_cast
  ring

theorem next_den (d : Decimal) : d.next.unitsRatio.2 = d.unitsRatio.2 := by
  rcases d with ⟨digits, e | e⟩ <;> simp only [next, unitsRatio]

theorem Interval.pick?_cases (i : Interval) (u : Nat) (below : Decimal) :
    (∃ d, i.pick? u below = some d ∧ i.Holds d.worth) ∨
      (i.pick? u below = none ∧ ¬ i.Holds below.worth ∧ ¬ i.Holds below.next.worth) := by
  rw [← contains_unitsRatio, ← contains_unitsRatio, next_den, pick?]
  have holds := contains_unitsRatio i below
  have nextHolds := contains_unitsRatio i below.next
  rw [next_den] at nextHolds
  rcases floor : below.unitsRatio with ⟨belowNum, den⟩
  rcases ceil : below.next.unitsRatio with ⟨aboveNum, other⟩
  rw [floor] at holds nextHolds
  rw [ceil] at nextHolds
  cases first : i.contains belowNum den <;> cases second : i.contains aboveNum den <;>
    simp only [first, second]
  · exact .inr ⟨trivial, Bool.false_ne_true, Bool.false_ne_true⟩
  · exact .inl ⟨_, rfl, nextHolds.mp second⟩
  · exact .inl ⟨_, rfl, holds.mp first⟩
  · refine .inl ⟨_, rfl, ?_⟩
    split
    · exact holds.mp first
    · exact nextHolds.mp second

theorem onGrid?_holds {m : Nat} {e : Int} {d : Decimal} (found : onGrid? m e = some d) :
    (roundingInterval m).Holds d.worth := by
  rcases (roundingInterval m).pick?_cases (unitsOf m) (floorOnGrid (unitsOf m) e) with
    ⟨other, picked, holds⟩ | ⟨picked, -⟩
  · rw [onGrid?, picked] at found
    cases found
    exact holds
  · rw [onGrid?, picked] at found
    cases found

theorem unitsOf_pred_lt {m : Nat} (nonzero : 0 < m) : unitsOf (m - 1) < unitsOf m := by
  have less := unitsOf_lt_succ (m - 1)
  rw [Nat.sub_add_cancel nonzero] at less
  exact less

theorem onGrid?_isSome {m : Nat} (nonzero : 0 < m) {e : Int}
    (fine : 2 * (10 ^ e * one : ℚ) + unitsOf (m - 1) < unitsOf (m + 1)) :
    ∃ d, onGrid? m e = some d := by
  obtain ⟨below, above⟩ := floorOnGrid_bounds (unitsOf m) e
  have left : (unitsOf (m - 1) : ℚ) < unitsOf m := by exact_mod_cast unitsOf_pred_lt nonzero
  have right : (unitsOf m : ℚ) < unitsOf (m + 1) := by exact_mod_cast unitsOf_lt_succ m
  have low : ((roundingInterval m).low : ℚ) = unitsOf m + unitsOf (m - 1) := by
    rw [roundingInterval]
    push_cast
    rfl
  have high : ((roundingInterval m).high : ℚ) = unitsOf m + unitsOf (m + 1) := by
    rw [roundingInterval]
    push_cast
    rfl
  rcases (roundingInterval m).pick?_cases (unitsOf m) (floorOnGrid (unitsOf m) e) with
    ⟨d, picked, -⟩ | ⟨-, noBelow, noNext⟩
  · exact ⟨d, picked⟩
  -- Were neither multiple in the interval, they would be further apart than a step.
  exfalso
  have exponent : (floorOnGrid (unitsOf m) e).exponent = e := rfl
  rw [next_worth, exponent] at noNext
  have belowLow : 2 * (floorOnGrid (unitsOf m) e).worth ≤ (roundingInterval m).low := by
    refine le_of_not_gt fun more => noBelow (.of_lt more ?_)
    linarith
  have nextHigh : ((roundingInterval m).high : ℚ) ≤
      2 * ((floorOnGrid (unitsOf m) e).worth + 10 ^ e * one) := by
    refine le_of_not_gt fun less => noNext (.of_lt ?_ less)
    linarith
  linarith

theorem search_found {m : Nat} (fuel j : Nat) (e : Int) (tries : j < fuel)
    (found : ∃ d, onGrid? m (e - j) = some d) : ∃ f, onGrid? m f = some (search m fuel e) := by
  induction fuel generalizing j e with
  | zero => omega
  | succ fuel ih =>
    rw [search]
    cases here : onGrid? m e with
    | some d => exact ⟨e, here⟩
    | none =>
      rw [Option.getD_none]
      cases j with
      | zero =>
        rw [Int.natCast_zero, Int.sub_zero, here] at found
        obtain ⟨d, impossible⟩ := found
        cases impossible
      | succ j =>
        refine ih j (e - 1) (by omega) ?_
        have same : e - 1 - (j : Int) = e - (j + 1 : Nat) := by omega
        rw [same]
        exact found

theorem trim_worth (fuel : Nat) (d : Decimal) : (d.trim fuel).worth = d.worth := by
  induction fuel generalizing d with
  | zero => rfl
  | succ fuel ih =>
    rw [trim]
    split
    · rename_i zeros
      rw [Bool.and_eq_true, beq_iff_eq] at zeros
      have split : d.digits = 10 * (d.digits / 10) := by omega
      have tenths : (d.digits : ℚ) = 10 * (d.digits / 10 : Nat) := by exact_mod_cast split
      rw [ih, worth, worth, tenths, zpow_add_one₀ (by norm_num)]
      ring
    · rfl

theorem one_le_stepsToOne {fuel u : Nat} (enough : one ≤ 10 ^ fuel * u) :
    one ≤ 10 ^ stepsToOne fuel u * u := by
  induction fuel generalizing u with
  | zero => exact enough
  | succ fuel ih =>
    rw [stepsToOne]
    split
    · rename_i large
      rw [Nat.pow_zero, Nat.one_mul]
      exact large
    · have more := ih (u := 10 * u) (by rw [← Nat.mul_assoc, ← Nat.pow_succ]; exact enough)
      rw [Nat.pow_succ, Nat.mul_assoc]
      exact more

theorem one_le_pow_mul (n : Nat) {u : Nat} (nonzero : 0 < u) (places : 1074 ≤ 3 * n) :
    one ≤ 10 ^ n * u := by
  have power : one ≤ 10 ^ n := by
    unfold one
    calc 2 ^ 1074 ≤ 2 ^ (3 * n) := Nat.pow_le_pow_right Nat.two_pos places
      _ = 8 ^ n := Nat.pow_mul 2 3 n
      _ ≤ 10 ^ n := Nat.pow_le_pow_left (by decide) n
  exact Nat.le_trans power (Nat.le_mul_of_pos_right _ nonzero)

theorem pow_leadingExponent_le {u : Nat} (nonzero : 0 < u) :
    (10 ^ leadingExponent u * one : ℚ) ≤ u := by
  have unit : 0 < one := by exact_mod_cast one_pos_rat
  rw [leadingExponent]
  split
  · rename_i large
    have whole : 10 ^ (Numeral.length (u / one) - 1) ≤ u / one :=
      Numeral.pow_length_le (Nat.ne_of_gt (Nat.div_pos large unit))
    have scaled : 10 ^ (Numeral.length (u / one) - 1) * one ≤ u :=
      (Nat.le_div_iff_mul_le unit).mp whole
    have power : ((Numeral.length (u / one) : Int) - 1) = (Numeral.length (u / one) - 1 : Nat) := by
      have written := Numeral.length_pos (u / one)
      omega
    rw [power, zpow_natCast]
    exact_mod_cast scaled
  · have places : 1074 ≤ 3 * 400 := by decide
    have enough := one_le_pow_mul 400 nonzero places
    have scaled : (one : ℚ) ≤ 10 ^ stepsToOne 400 u * u := by
      exact_mod_cast one_le_stepsToOne enough
    rw [zpow_neg, zpow_natCast, inv_mul_le_iff₀ (by positivity)]
    exact scaled

theorem width_of_interval {m : Nat} (nonzero : 0 < m) :
    2 * unitsOf m + 10 ^ 16 * unitsOf (m - 1) < 10 ^ 16 * unitsOf (m + 1) := by
  obtain ⟨p, s, scaled, small⟩ := exists_scaled m
  rw [scaled.unitsOf, (scaled.succ small).unitsOf]
  rcases scaled.pred nonzero with ⟨lower, positive⟩ | ⟨q, rfl, rfl, lower⟩
  · obtain ⟨t, rfl⟩ : ∃ t, s = t + 1 := ⟨s - 1, by omega⟩
    have unit := Nat.two_pow_pos p
    have most : (t + 1) * 2 ^ p ≤ 2 ^ 53 * 2 ^ p := Nat.mul_le_mul_right _ (by omega)
    rw [lower.unitsOf, Nat.add_sub_cancel]
    rw [Nat.add_mul] at most
    rw [Nat.add_mul, Nat.add_mul, Nat.add_mul]
    omega
  · have unit := Nat.two_pow_pos q
    have double : 2 ^ (q + 1) = 2 * 2 ^ q := by ring
    rw [lower.unitsOf, double]
    omega

/-- The shortest decimal of a finite number above zero rounds to it. -/
theorem shortest_holds {x : Binary64} (nonzero : 0 < x.magnitude) :
    (roundingInterval x.magnitude).Holds (shortest x).worth := by
  have positive : 0 < unitsOf x.magnitude :=
    Nat.lt_of_le_of_lt (Nat.zero_le _) (unitsOf_pred_lt nonzero)
  have leading := pow_leadingExponent_le positive
  have width : (2 * unitsOf x.magnitude + 10 ^ 16 * unitsOf (x.magnitude - 1) : ℚ) <
      10 ^ 16 * unitsOf (x.magnitude + 1) := by
    exact_mod_cast width_of_interval nonzero
  have fine : 2 * (10 ^ (leadingExponent x.units - (16 : Nat)) * one : ℚ) +
      unitsOf (x.magnitude - 1) < unitsOf (x.magnitude + 1) := by
    rw [zpow_sub₀ (by norm_num), zpow_natCast, Binary64.units, div_mul_eq_mul_div]
    have step : 2 * (10 ^ leadingExponent (unitsOf x.magnitude) * one / 10 ^ 16 : ℚ) ≤
        2 * unitsOf x.magnitude / 10 ^ 16 := by
      rw [← mul_div_assoc]
      gcongr
    have scaled : (2 * unitsOf x.magnitude / 10 ^ 16 + unitsOf (x.magnitude - 1) : ℚ) <
        unitsOf (x.magnitude + 1) := by
      rw [div_add' _ _ _ (by norm_num), div_lt_iff₀ (by norm_num)]
      linarith
    linarith
  -- The last of the seventeen tries succeeds, if none before it does.
  obtain ⟨f, found⟩ := search_found 17 16 (leadingExponent x.units) (by decide)
    (onGrid?_isSome nonzero fine)
  rw [shortest, trim_worth]
  exact onGrid?_holds found

end LoadBench.Decimal
