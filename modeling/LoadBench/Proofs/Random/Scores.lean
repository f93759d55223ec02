import LoadBench.Proofs.Binary64.Value
import LoadBench.Proofs.Random.Draws
import Mathlib.Tactic.Positivity

namespace LoadBench.Metadata

open Binary64

def scoreOf (k : Nat) : Binary64 := (ofRatio false k (2 ^ 53)).mul (ofNat 1000)

variable {source : VectorSource} {j k : Nat}

theorem draw_isFraction (proper : k < 2 ^ 53) : (ofRatio false k (2 ^ 53)).IsFraction k 53 :=
  ofRatio_isFraction proper (by decide)

theorem scoreOf_isScore (proper : k < 2 ^ 53) : IsScore (scoreOf k) :=
  isScore_of_fraction (draw_isFraction proper) proper

theorem scoreOf_mono (le : j ≤ k) (proper : k < 2 ^ 53) : (scoreOf j).le (scoreOf k) = true := by
  have less : j < 2 ^ 53 := Nat.lt_of_le_of_lt le proper
  have lower := draw_isFraction less
  have upper := draw_isFraction proper
  rw [(scoreOf_isScore less).nonnegative.le_iff (scoreOf_isScore proper).nonnegative]
  exact lower.nonnegative.mul_mono upper.nonnegative (ofNat_nonnegative 1000)
    (lower.magnitude_le upper le) (not_isInfinite_of_isFinite upper.finite)
    (isInfinite_ofNat (by decide))

theorem scoreOf_value (proper : k < 2 ^ 53) :
    0 ≤ (scoreOf k).value ∧ (scoreOf k).value < 1000 := by
  have score := scoreOf_isScore proper
  have origin : zero.Nonnegative := (ofMagnitude_nonnegative (Nat.zero_le _)).1
  have nothing : zero.magnitude = 0 := by decide
  have above : zero.le (scoreOf k) = true := by
    rw [origin.le_iff score.nonnegative, nothing]
    exact Nat.zero_le _
  have below := score.below
  have thousand : (ofNat 1000).isFinite = true := (ofNat_isFraction (by decide)).finite
  rw [le_iff_value isFinite_zero score.isFinite, value_zero] at above
  rw [lt_iff_value score.isFinite thousand, value_ofNat (by decide)] at below
  exact ⟨above, by exact_mod_cast below⟩

/-- The one fraction that is drawn for a score, after the tag. -/
def draw (source : VectorSource) : Binary64 := (source.upTo 1).2.unit.1

/-- The score of an insert, for a draw of `k / 2⁵³`. -/
structure Scored (source : VectorSource) (k : Nat) : Prop where
  proper : k < 2 ^ 53
  drawn : draw source = ofRatio false k (2 ^ 53)
  exact : (draw source).value = k / 2 ^ 53
  product : (random source).1.score = (draw source).mul (ofNat 1000)
  spent : (random source).2 = (source.upTo 1).2.unit.2
  nonnegative : 0 ≤ (random source).1.score.value
  below : (random source).1.score.lt (ofNat 1000) = true ∧ (random source).1.score.value < 1000

theorem random_score (source : VectorSource) :
    (random source).1.score = (draw source).mul (ofNat 1000) := by
  rcases tagged : source.upTo 1 with ⟨n, s⟩
  simp only [random, draw, tagged]

theorem Scored.score (scored : Scored source k) : (random source).1.score = scoreOf k := by
  rw [scored.product, scored.drawn, scoreOf]

theorem exists_scored (source : VectorSource) : ∃ k, Scored source k := by
  obtain ⟨k, proper, drawn⟩ := (source.upTo 1).2.generator.unit_eq_ofRatio
  have drawn : draw source = ofRatio false k (2 ^ 53) := drawn
  have product := random_score source
  have score : (random source).1.score = scoreOf k := by rw [product, drawn, scoreOf]
  obtain ⟨nonnegative, below⟩ := scoreOf_value proper
  refine ⟨k, proper, drawn, drawn ▸ (draw_isFraction proper).value_eq, product, rfl, ?_, ?_⟩
  · exact score ▸ nonnegative
  · rw [score]
    exact ⟨(scoreOf_isScore proper).below, below⟩

theorem score_mono {a b : VectorSource} (le : (draw a).le (draw b) = true) :
    (random a).1.score.le (random b).1.score = true := by
  obtain ⟨j, first⟩ := exists_scored a
  obtain ⟨k, second⟩ := exists_scored b
  have finite {source : VectorSource} {k : Nat} (scored : Scored source k) :
      (draw source).isFinite = true := scored.drawn ▸ (draw_isFraction scored.proper).finite
  rw [le_iff_value (finite first) (finite second), first.exact, second.exact] at le
  -- Draws are exact, so their order is that of their numerators.
  have order : j ≤ k := by
    have scaled := (div_le_div_iff_of_pos_right (by positivity)).mp le
    exact_mod_cast scaled
  rw [first.score, second.score]
  exact scoreOf_mono order second.proper

/-- The score that an insert gets is the rounded product of its draw, which is exact, and a thousand.
It stays below a thousand for every draw, and never falls as the draw rises. -/
theorem scores_below_thousand :
    (∀ source, ∃ k, Scored source k) ∧
    (∀ a b, (draw a).le (draw b) = true → (random a).1.score.le (random b).1.score = true) ∧
    (∀ k < 2 ^ 53, IsScore (scoreOf k) ∧ 0 ≤ (scoreOf k).value ∧ (scoreOf k).value < 1000) ∧
    ∀ j k, j ≤ k → k < 2 ^ 53 → (scoreOf j).le (scoreOf k) = true :=
  ⟨exists_scored, fun _ _ => score_mono,
    fun _ proper => ⟨scoreOf_isScore proper, scoreOf_value proper⟩, fun _ _ => scoreOf_mono⟩

theorem scores_below_thousand_drawn :
    (draw (.ofSeed 1 4)).le (draw (.ofSeed 0 4)) = true ∧
      (random (.ofSeed 1 4)).1.score.le (random (.ofSeed 0 4)).1.score = true ∧
      (scoreOf (2 ^ 53 - 1)).value < 1000 ∧
      (scoreOf (2 ^ 53 - 2)).le (scoreOf (2 ^ 53 - 1)) = true := by
  obtain ⟨-, emitted, below, order⟩ := scores_below_thousand
  have lower : (draw (.ofSeed 1 4)).le (draw (.ofSeed 0 4)) = true := by decide +kernel
  obtain ⟨-, -, value⟩ := below (2 ^ 53 - 1) (by decide)
  exact ⟨lower, emitted _ _ lower, value, order _ _ (by decide) (by decide)⟩

end LoadBench.Metadata
