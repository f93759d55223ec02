import LoadBench.Proofs.Binary64.Order
import LoadBench.Proofs.Latency.Statistics

namespace LoadBench

open Binary64

theorem percentileIndex_of_isNegative {p : Binary64} (sign : p.isNegative = true) (n : Nat) :
    percentileIndex p n = 0 := by
  have hundred : (ofNat 100).Positive := ofNat_positive (by decide)
  have finite : (ofNat 100).isInfinite = false := by decide +kernel
  have below := isNegative_div sign hundred finite
  rw [percentileIndex, toWord_mul_of_isNegative below (ofNat_nonnegative n)]
  exact Nat.zero_min n

theorem percentileIndex_zero (n : Nat) : percentileIndex Binary64.zero n = 0 := by
  have quotient : Binary64.zero.div (ofNat 100) = Binary64.zero := by decide +kernel
  have origin : Binary64.zero.Nonnegative := (ofMagnitude_nonnegative (Nat.zero_le _)).1
  have origins : (Binary64.zero.isZero || (ofNat n).isZero) = true := rfl
  rw [percentileIndex, quotient, origin.toWord_mul_of_isZero (ofNat_nonnegative n) origins]
  exact Nat.zero_min n

theorem percentileIndex_mono {p q : Binary64} (le : p.le q = true) (n : Nat) :
    percentileIndex p n ≤ percentileIndex q n := by
  have hundred : (ofNat 100).Positive := ofNat_positive (by decide)
  have finite : (ofNat 100).isInfinite = false := by decide +kernel
  have count := ofNat_nonnegative n
  simp only [Binary64.le, Bool.and_eq_true, Bool.not_eq_true', decide_eq_true_eq] at le
  obtain ⟨⟨hp, hq⟩, ranks⟩ := le
  cases ps : p.isNegative with
  | true =>
    rw [percentileIndex_of_isNegative ps]
    exact Nat.zero_le _
  | false =>
    have positive : p.Nonnegative := ⟨ps, Nat.not_lt.mp (of_decide_eq_false hp)⟩
    cases qs : q.isNegative with
    | true =>
      -- Only minus zero has a sign and is at least a number without one, and that is zero.
      have nothing : p.magnitude = 0 := by
        rw [positive.numericRank, numericRank, if_pos qs] at ranks
        omega
      have origin : p = Binary64.zero := by rw [← ofMagnitude_self p, ps, nothing]; rfl
      rw [origin, percentileIndex_zero]
      exact Nat.zero_le _
    | false =>
      have above : q.Nonnegative := ⟨qs, Nat.not_lt.mp (of_decide_eq_false hq)⟩
      rw [positive.numericRank, above.numericRank, Int.ofNat_le] at ranks
      have quotients := positive.div_mono above ranks hundred finite
      have words := (positive.div hundred finite).toWord_mul_mono (above.div hundred finite) count
        quotients
      exact min_le_min_right n words

section

variable {sorted : List Binary64}

theorem totalLE_refl (x : Binary64) : totalLE x x := totalLE_iff.mpr (Int.le_refl _)

theorem totalLE_getElem (ascending : sorted.Pairwise (totalLE · ·)) {i j : Nat} (le : i ≤ j)
    (inside : j < sorted.length) : totalLE sorted[i] sorted[j] := by
  rcases Nat.lt_or_eq_of_le le with less | rfl
  · exact List.pairwise_iff_getElem.mp ascending i j _ inside less
  · exact totalLE_refl _

theorem percentile?_eq (nonempty : sorted ≠ []) (p : Binary64) :
    ∃ inside : percentileIndex p (sorted.length - 1) < sorted.length,
      percentile? sorted p = some sorted[percentileIndex p (sorted.length - 1)] := by
  have bound := percentileIndex_le p (sorted.length - 1)
  have positive := List.length_pos_iff.mpr nonempty
  exact ⟨by omega, List.getElem?_eq_getElem (by omega)⟩

theorem percentile?_mem (nonempty : sorted ≠ []) (p : Binary64) :
    ∃ x ∈ sorted, percentile? sorted p = some x := by
  obtain ⟨inside, value⟩ := percentile?_eq nonempty p
  exact ⟨_, List.getElem_mem inside, value⟩

theorem percentile?_mono (nonempty : sorted ≠ []) (ascending : sorted.Pairwise (totalLE · ·))
    {p q : Binary64} (le : p.le q = true) :
    ∃ x y, percentile? sorted p = some x ∧ percentile? sorted q = some y ∧ totalLE x y := by
  obtain ⟨_, first⟩ := percentile?_eq nonempty p
  obtain ⟨inside, second⟩ := percentile?_eq nonempty q
  exact ⟨_, _, first, second, totalLE_getElem ascending (percentileIndex_mono le _) inside⟩

end

namespace Statistics

theorem sortedMillis_ascending (seconds : List Binary64) :
    (sortedMillis seconds).Pairwise (totalLE · ·) :=
  List.pairwise_mergeSort totalLE_trans totalLE_total _

theorem perm_sortedMillis (seconds : List Binary64) :
    (sortedMillis seconds).Perm (seconds.map (·.mul (ofNat 1000))) :=
  List.mergeSort_perm _ _

theorem mem_sortedMillis {seconds : List Binary64} {x : Binary64} :
    x ∈ sortedMillis seconds ↔ ∃ sample ∈ seconds, sample.mul (ofNat 1000) = x := by
  rw [(perm_sortedMillis seconds).mem_iff, List.mem_map]

theorem ofLatencies?_fields {seconds : List Binary64} {wall : Duration} {s : Statistics}
    (made : ofLatencies? seconds wall = some s) :
    s.count = seconds.length ∧
      percentile? (sortedMillis seconds) (ofNat 50) = some s.p50 ∧
      percentile? (sortedMillis seconds) (ofNat 95) = some s.p95 ∧
      percentile? (sortedMillis seconds) (ofNat 99) = some s.p99 ∧
      (sortedMillis seconds).head? = some s.least ∧
      (sortedMillis seconds).getLast? = some s.greatest := by
  simp only [ofLatencies?, Option.bind_eq_bind, Option.bind_eq_some_iff, Option.pure_def,
    Option.some.injEq, length_sortedMillis] at made
  obtain ⟨p50, h50, p95, h95, p99, h99, least, hl, greatest, hg, rfl⟩ := made
  exact ⟨rfl, h50, h95, h99, hl, hg⟩

theorem head?_le {sorted : List Binary64} (ascending : sorted.Pairwise (totalLE · ·))
    {least x : Binary64} (first : sorted.head? = some least) (member : x ∈ sorted) :
    totalLE least x := by
  obtain ⟨i, inside, rfl⟩ := List.getElem_of_mem member
  rw [List.head?_eq_getElem?] at first
  obtain ⟨_, rfl⟩ := List.getElem?_eq_some_iff.mp first
  exact totalLE_getElem ascending (Nat.zero_le i) inside

theorem le_getLast? {sorted : List Binary64} (ascending : sorted.Pairwise (totalLE · ·))
    {greatest x : Binary64} (last : sorted.getLast? = some greatest) (member : x ∈ sorted) :
    totalLE x greatest := by
  obtain ⟨i, inside, rfl⟩ := List.getElem_of_mem member
  rw [List.getLast?_eq_getElem?] at last
  obtain ⟨inside, rfl⟩ := List.getElem?_eq_some_iff.mp last
  exact totalLE_getElem ascending (by omega) inside

/-- What statistics tell of the latencies in seconds that they were made of. -/
structure Ranks (seconds : List Binary64) (s : Statistics) : Prop where
  count : s.count = seconds.length
  samples : ∀ x ∈ [s.least, s.p50, s.p95, s.p99, s.greatest],
    ∃ sample ∈ seconds, sample.mul (ofNat 1000) = x
  bounds : ∀ sample ∈ seconds,
    totalLE s.least (sample.mul (ofNat 1000)) ∧ totalLE (sample.mul (ofNat 1000)) s.greatest
  ascending : totalLE s.least s.p50 ∧ totalLE s.p50 s.p95 ∧ totalLE s.p95 s.p99 ∧
    totalLE s.p99 s.greatest

theorem ranks_of_made {seconds : List Binary64} {wall : Duration} {s : Statistics}
    (made : ofLatencies? seconds wall = some s) : Ranks seconds s := by
  obtain ⟨count, h50, h95, h99, first, last⟩ := ofLatencies?_fields made
  have ascending := sortedMillis_ascending seconds
  have nonempty : sortedMillis seconds ≠ [] := by
    intro empty
    rw [empty] at first
    cases first
  have value {p x : Binary64} (found : percentile? (sortedMillis seconds) p = some x) :
      x ∈ sortedMillis seconds := by
    obtain ⟨y, member, same⟩ := percentile?_mem nonempty p
    rw [found] at same
    cases same
    exact member
  have order {p q x y : Binary64} (le : p.le q = true)
      (hx : percentile? (sortedMillis seconds) p = some x)
      (hy : percentile? (sortedMillis seconds) q = some y) : totalLE x y := by
    obtain ⟨_, _, first, second, ordered⟩ := percentile?_mono nonempty ascending le
    rw [hx] at first
    rw [hy] at second
    cases first
    cases second
    exact ordered
  refine ⟨count, fun x member => mem_sortedMillis.mp ?_, fun sample member => ?_, ?_⟩
  · simp only [List.mem_cons, List.not_mem_nil, or_false] at member
    rcases member with rfl | rfl | rfl | rfl | rfl
    · exact List.mem_of_head? first
    · exact value h50
    · exact value h95
    · exact value h99
    · exact List.mem_of_getLast? last
  · have inside := mem_sortedMillis.mpr ⟨sample, member, rfl⟩
    exact ⟨head?_le ascending first inside, le_getLast? ascending last inside⟩
  · exact ⟨head?_le ascending first (value h50), order (by decide +kernel) h50 h95,
      order (by decide +kernel) h95 h99, le_getLast? ascending last (value h99)⟩

/-- There are statistics exactly where there are latencies, and they are order statistics of these.
Percentiles of any values in ascending order are among the values, and ascend with the percentage,
whatever that is, as long as it is a number. -/
theorem order_statistics (seconds : List Binary64) (wall : Duration) :
    (ofLatencies? seconds wall = none ↔ seconds = []) ∧
    (∀ s, ofLatencies? seconds wall = some s → Ranks seconds s) ∧
    ∀ sorted : List Binary64, sorted ≠ [] → sorted.Pairwise (totalLE · ·) →
      (∀ p, ∃ x ∈ sorted, percentile? sorted p = some x) ∧
      ∀ p q : Binary64, p.le q = true →
        ∃ x y, percentile? sorted p = some x ∧ percentile? sorted q = some y ∧ totalLE x y := by
  refine ⟨?_, fun s => ranks_of_made, fun sorted nonempty ascending => ?_⟩
  · constructor
    · intro absent
      by_contra present
      obtain ⟨_, made, _⟩ := ofLatencies?_of_ne_nil present wall
      rw [absent] at made
      cases made
    · rintro rfl
      exact ofLatencies?_nil wall
  · exact ⟨percentile?_mem nonempty, fun p q => percentile?_mono nonempty ascending⟩

theorem order_statistics_nan_and_zero :
    (∃ s, ofLatencies? [nan, negativeZero, ofNat 3] 0 = some s ∧
      Ranks [nan, negativeZero, ofNat 3] s) ∧
    percentile? [negativeZero, zero, nan] (infinity true) = some negativeZero ∧
    percentile? [negativeZero, zero, nan] (ofNat 250) = some nan ∧ totalLE negativeZero nan := by
  obtain ⟨absent, made, percentiles⟩ := order_statistics [nan, negativeZero, ofNat 3] 0
  obtain ⟨s, found⟩ :=
    Option.ne_none_iff_exists'.mp fun missing => List.cons_ne_nil _ _ (absent.mp missing)
  have ascending : [negativeZero, zero, nan].Pairwise (totalLE · ·) := by decide +kernel
  obtain ⟨_, ordered⟩ := percentiles _ (List.cons_ne_nil _ _) ascending
  obtain ⟨x, y, first, second, le⟩ := ordered (infinity true) (ofNat 250) (by decide +kernel)
  have least : percentile? [negativeZero, zero, nan] (infinity true) = some negativeZero := by
    decide +kernel
  have greatest : percentile? [negativeZero, zero, nan] (ofNat 250) = some nan := by
    decide +kernel
  rw [least] at first
  rw [greatest] at second
  cases first
  cases second
  exact ⟨⟨s, found, made s found⟩, least, greatest, le⟩

end Statistics

end LoadBench
