import LoadBench.Latency.Statistics
import LoadBench.Proofs.Binary64.TotalOrder

namespace LoadBench

theorem percentileIndex_le (p : Binary64) (n : Nat) : percentileIndex p n ≤ n :=
  Nat.min_le_right _ n

theorem percentile?_of_ne_nil {sorted : List Binary64} (nonempty : sorted ≠ []) (p : Binary64) :
    ∃ x, percentile? sorted p = some x := by
  have bound := percentileIndex_le p (sorted.length - 1)
  have positive := List.length_pos_iff.mpr nonempty
  have inside : percentileIndex p (sorted.length - 1) < sorted.length := by omega
  exact ⟨_, List.getElem?_eq_getElem inside⟩

namespace Statistics

theorem length_sortedMillis (seconds : List Binary64) :
    (sortedMillis seconds).length = seconds.length := by
  rw [sortedMillis, List.length_mergeSort, List.length_map]

theorem sortedMillis_perm {xs ys : List Binary64} (h : xs.Perm ys) :
    sortedMillis xs = sortedMillis ys :=
  Binary64.mergeSort_eq_of_perm (h.map _)

theorem ofLatencies?_perm {xs ys : List Binary64} (h : xs.Perm ys) (wall : Duration) :
    ofLatencies? xs wall = ofLatencies? ys wall := by
  rw [ofLatencies?, ofLatencies?, sortedMillis_perm h]

theorem ofLatencies?_nil (wall : Duration) : ofLatencies? [] wall = none := by
  simp [ofLatencies?, sortedMillis, percentile?]

theorem ofLatencies?_of_ne_nil {seconds : List Binary64} (nonempty : seconds ≠ [])
    (wall : Duration) :
    ∃ s, ofLatencies? seconds wall = some s ∧ s.count = seconds.length ∧
      s.rate = ratePerSecond seconds.length wall := by
  have length := length_sortedMillis seconds
  have sorted : sortedMillis seconds ≠ [] := by
    intro empty
    rw [empty] at length
    exact nonempty (List.length_eq_zero_iff.mp length.symm)
  obtain ⟨p50, h50⟩ := percentile?_of_ne_nil sorted (Binary64.ofNat 50)
  obtain ⟨p95, h95⟩ := percentile?_of_ne_nil sorted (Binary64.ofNat 95)
  obtain ⟨p99, h99⟩ := percentile?_of_ne_nil sorted (Binary64.ofNat 99)
  have least := List.head?_eq_some_head sorted
  have greatest := List.getLast?_eq_some_getLast sorted
  simp only [ofLatencies?, h50, h95, h99, least, greatest, length]
  exact ⟨_, rfl, rfl, rfl⟩

theorem countOf_ofLatencies? (seconds : List Binary64) (wall : Duration) :
    countOf (ofLatencies? seconds wall) = seconds.length := by
  by_cases empty : seconds = []
  · subst empty
    rw [ofLatencies?_nil]
    rfl
  · obtain ⟨s, made, count, _⟩ := ofLatencies?_of_ne_nil empty wall
    rw [made]
    exact count

theorem eq_none_of_countOf {seconds : List Binary64} {wall : Duration}
    (nothing : countOf (ofLatencies? seconds wall) = 0) : ofLatencies? seconds wall = none := by
  rw [countOf_ofLatencies?, List.length_eq_zero_iff] at nothing
  rw [nothing, ofLatencies?_nil]

end Statistics

end LoadBench
