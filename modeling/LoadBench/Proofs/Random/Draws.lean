import LoadBench.Proofs.Binary64.Order
import LoadBench.Run.Vectors

namespace LoadBench

namespace Random.Generator

theorem single_fraction (g : Generator) : ∃ k < 2 ^ 24, g.single.1.IsFraction k 24 := by
  have bits := g.word.1.toNat_lt
  have small : g.word.1.toNat / 2 ^ 8 < 2 ^ 24 := by omega
  exact ⟨_, small, Binary64.ofRatio_isFraction (Nat.lt_trans small (by decide)) (by decide)⟩

theorem doubleWord_lt (g : Generator) : g.doubleWord.1 < 2 ^ 64 := by
  have low := g.word.1.toNat_lt
  have high := g.word.2.word.1.toNat_lt
  simp only [doubleWord]
  omega

theorem unit_eq_ofRatio (g : Generator) :
    ∃ k < 2 ^ 53, g.unit.1 = Binary64.ofRatio false k (2 ^ 53) := by
  have bits := g.doubleWord_lt
  exact ⟨g.doubleWord.1 / 2 ^ 11, by omega, rfl⟩

theorem unit_fraction (g : Generator) : ∃ k < 2 ^ 53, g.unit.1.IsFraction k 53 := by
  obtain ⟨k, small, drawn⟩ := g.unit_eq_ofRatio
  rw [drawn]
  exact ⟨k, small, Binary64.ofRatio_isFraction small (by decide)⟩

theorem upToTrying_lt {range : Nat} (positive : 0 < range) (fuel : Nat) (g : Generator) :
    (upToTrying fuel range g).1 < range := by
  induction fuel generalizing g with
  | zero => exact positive
  | succ fuel ih =>
    rcases drawn : g.word with ⟨w, rest⟩
    simp only [upToTrying, drawn]
    split
    · rw [Nat.div_lt_iff_lt_mul (Nat.two_pow_pos 32)]
      exact Nat.mul_lt_mul_of_pos_left w.toNat_lt positive
    · exact ih rest

theorem upTo_le (bound : Nat) (g : Generator) : (g.upTo bound).1 ≤ bound :=
  Nat.le_of_lt_succ (upToTrying_lt (Nat.succ_pos bound) tries g)

theorem length_singles (n : Nat) (g : Generator) : (g.singles n).1.length = n := by
  induction n generalizing g with
  | zero => rfl
  | succ n ih => simp only [singles, List.length_cons, ih]

theorem singles_fraction (n : Nat) (g : Generator) :
    ∀ x ∈ (g.singles n).1, ∃ k < 2 ^ 24, x.IsFraction k 24 := by
  induction n generalizing g with
  | zero => exact fun _ member => (List.not_mem_nil member).elim
  | succ n ih => exact List.forall_mem_cons.mpr ⟨g.single_fraction, ih g.single.2⟩

end Random.Generator

structure InUnitCube (dimensions : Nat) (xs : List Binary64) : Prop where
  length : xs.length = dimensions
  components : ∀ x ∈ xs, ∃ k < 2 ^ 24, x.IsFraction k 24

namespace VectorSource

variable (source : VectorSource)

theorem vector_inUnitCube : InUnitCube source.dimensions source.vector.1 where
  length := source.generator.length_singles source.dimensions
  components := source.generator.singles_fraction source.dimensions

theorem unit_fraction : ∃ k < 2 ^ 53, source.unit.1.IsFraction k 53 :=
  source.generator.unit_fraction

theorem insertSuffix_le : source.insertSuffix.1 ≤ greatestSuffix :=
  source.generator.upTo_le greatestSuffix

@[simp]
theorem vector_dimensions : source.vector.2.dimensions = source.dimensions := rfl

@[simp]
theorem insertSuffix_dimensions : source.insertSuffix.2.dimensions = source.dimensions := rfl

end VectorSource

namespace Metadata

open Binary64

@[simp]
theorem random_dimensions (source : VectorSource) :
    (random source).2.dimensions = source.dimensions := rfl

structure IsScore (score : Binary64) : Prop where
  nonnegative : score.Nonnegative
  below : score.lt (ofNat 1000) = true

theorem IsScore.isFinite {score : Binary64} (h : IsScore score) : score.isFinite = true := by
  have thousand : (ofNat 1000).Nonnegative := ofNat_nonnegative 1000
  have less := unitsOf_strictMono.lt_iff_lt.mp ((h.nonnegative.lt_iff thousand).mp h.below)
  exact decide_eq_true (Nat.lt_of_lt_of_le less thousand.2)

/-- Not even the greatest fraction below one is rounded up to a thousand. -/
theorem isScore_of_fraction {x : Binary64} {k : Nat} (fraction : x.IsFraction k 53)
    (proper : k < 2 ^ 53) : IsScore (x.mul (ofNat 1000)) := by
  have thousand : (ofNat 1000).Nonnegative := ofNat_nonnegative 1000
  have finite : (ofNat 1000).isInfinite = false := by decide +kernel
  have greatest : (ofRatio false (2 ^ 53 - 1) (2 ^ 53)).IsFraction (2 ^ 53 - 1) 53 :=
    ofRatio_isFraction (by decide) (by decide)
  have le := fraction.magnitude_le greatest (by omega)
  have top : (ofRatio false (2 ^ 53 - 1) (2 ^ 53)).isInfinite = false := by decide +kernel
  have product : (x.mul (ofNat 1000)).Nonnegative := by
    rw [fraction.nonnegative.mul_eq_ofUnits thousand
      (greatest.nonnegative.isInfinite_of_le le top) finite]
    exact ofUnits_nonnegative _ _
  refine ⟨product, (product.lt_iff thousand).mpr (unitsOf_strictMono ?_)⟩
  calc (x.mul (ofNat 1000)).magnitude
      ≤ ((ofRatio false (2 ^ 53 - 1) (2 ^ 53)).mul (ofNat 1000)).magnitude :=
        fraction.nonnegative.mul_mono greatest.nonnegative thousand le top finite
    _ < (ofNat 1000).magnitude := by decide +kernel

theorem random_isScore (source : VectorSource) : IsScore (random source).1.score := by
  rcases tagged : source.upTo 1 with ⟨n, s⟩
  obtain ⟨k, proper, fraction⟩ := s.unit_fraction
  rcases drawn : s.unit with ⟨x, rest⟩
  rw [drawn] at fraction
  simp only [random, tagged, drawn]
  exact isScore_of_fraction fraction proper

end Metadata

end LoadBench
