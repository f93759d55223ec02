import LoadBench.Proofs.Binary64.Whole
import LoadBench.Proofs.Latency.OrderStatistics

namespace LoadBench

open Binary64

theorem share_isJustBelow {p : Nat} (percent : p ∈ [50, 95, 99]) :
    ((ofNat p).div (ofNat 100)).IsJustBelow p 100 := by
  simp only [List.mem_cons, List.not_mem_nil, or_false] at percent
  rcases percent with rfl | rfl | rfl
  all_goals constructor <;> decide +kernel

structure IsNearestRank (p n : Nat) : Prop where
  /-- The whole part of the product of doubles, before it is kept within the values. -/
  truncated : (((ofNat p).div (ofNat 100)).mul (ofNat (n - 1))).toWord = p * (n - 1) / 100
  place : percentileIndex (ofNat p) (n - 1) = p * (n - 1) / 100
  inside : p * (n - 1) / 100 ≤ n - 1

theorem isNearestRank {p n : Nat} (percent : p ∈ [50, 95, 99]) (nonempty : 1 ≤ n) (few : n ≤ 2 ^ 40) :
    IsNearestRank p n := by
  have proper : p ≤ 100 := by
    simp only [List.mem_cons, List.not_mem_nil, or_false] at percent
    omega
  have inside : p * (n - 1) / 100 ≤ n - 1 :=
    Nat.div_le_of_le_mul (Nat.mul_le_mul_right (n - 1) proper)
  have truncated := (share_isJustBelow percent).toWord_mul (n := n - 1) proper (by decide)
    (by decide) (by omega)
  refine ⟨truncated, ?_, inside⟩
  rw [percentileIndex, truncated]
  exact Nat.min_eq_left inside

namespace Statistics

/-- Percentiles are the values at exact nearest ranks in the latencies' ascending order. -/
theorem nearest_rank :
    (∀ p ∈ [50, 95, 99], ∀ n, 1 ≤ n → n ≤ 2 ^ 40 → IsNearestRank p n) ∧
    ∀ (seconds : List Binary64) (wall : Duration), seconds ≠ [] → seconds.length ≤ 2 ^ 40 →
      (sortedMillis seconds).Perm (seconds.map (·.mul (ofNat 1000))) ∧
      (sortedMillis seconds).Pairwise (totalLE · ·) ∧
      ∃ s, ofLatencies? seconds wall = some s ∧
        (sortedMillis seconds)[50 * (seconds.length - 1) / 100]? = some s.p50 ∧
        (sortedMillis seconds)[95 * (seconds.length - 1) / 100]? = some s.p95 ∧
        (sortedMillis seconds)[99 * (seconds.length - 1) / 100]? = some s.p99 := by
  refine ⟨fun p percent n => isNearestRank percent, fun seconds wall nonempty few => ?_⟩
  obtain ⟨s, made, -, -⟩ := ofLatencies?_of_ne_nil nonempty wall
  obtain ⟨-, p50, p95, p99, -, -⟩ := ofLatencies?_fields made
  have positive : 1 ≤ seconds.length := List.length_pos_iff.mpr nonempty
  have place {p : Nat} (percent : p ∈ [50, 95, 99]) :
      percentile? (sortedMillis seconds) (ofNat p) =
        (sortedMillis seconds)[p * (seconds.length - 1) / 100]? := by
    rw [percentile?, length_sortedMillis, (isNearestRank percent positive few).place]
  refine ⟨perm_sortedMillis seconds, sortedMillis_ascending seconds, s, made, ?_, ?_, ?_⟩
  · rw [← p50, place (by decide)]
  · rw [← p95, place (by decide)]
  · rw [← p99, place (by decide)]

/-- At a multiple of 20 the exact rank is a whole number, which 0.95 alone falls short of. -/
theorem nearest_rank_whole :
    IsNearestRank 95 (20 * 2 ^ 35 + 1) ∧
    ∃ s, ofLatencies? [nan, ofNat 3, negativeZero] 0 = some s ∧
      (sortedMillis [nan, ofNat 3, negativeZero])[1]? = some s.p50 := by
  obtain ⟨rank, found⟩ := nearest_rank
  obtain ⟨-, -, s, made, p50, -⟩ := found [nan, ofNat 3, negativeZero] 0 (List.cons_ne_nil _ _) (by decide)
  exact ⟨rank 95 (by decide) _ (by decide) (by decide), s, made, p50⟩

end Statistics

end LoadBench
