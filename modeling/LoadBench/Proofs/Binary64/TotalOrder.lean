import LoadBench.Binary64.Basic

namespace LoadBench.Binary64

theorem rank_injective {x y : Binary64} (h : x.rank = y.rank) : x = y := by
  have xs := x.bits.toNat_lt
  have ys := y.bits.toNat_lt
  have same : x.bits.toNat = y.bits.toNat := by
    simp only [rank, isNegative, magnitude, decide_eq_true_eq] at h
    split at h <;> split at h <;> omega
  cases x
  cases y
  exact congrArg mk (UInt64.toNat_inj.mp same)

theorem totalLE_iff {x y : Binary64} : totalLE x y ↔ x.rank ≤ y.rank := by
  simp only [totalLE, decide_eq_true_eq]

theorem totalLE_trans (x y z : Binary64) (xy : totalLE x y) (yz : totalLE y z) : totalLE x z := by
  rw [totalLE_iff] at xy yz ⊢
  omega

theorem totalLE_total (x y : Binary64) : totalLE x y || totalLE y x := by
  simp only [totalLE, Bool.or_eq_true, decide_eq_true_eq]
  omega

theorem totalLE_antisymm {x y : Binary64} (xy : totalLE x y) (yx : totalLE y x) : x = y := by
  rw [totalLE_iff] at xy yx
  apply rank_injective
  omega

/-- Sorting forgets in which order a list came. -/
theorem mergeSort_eq_of_perm {xs ys : List Binary64} (h : xs.Perm ys) :
    xs.mergeSort totalLE = ys.mergeSort totalLE := by
  have same : (xs.mergeSort totalLE).Perm (ys.mergeSort totalLE) :=
    (List.mergeSort_perm xs totalLE).trans (h.trans (List.mergeSort_perm ys totalLE).symm)
  apply same.eq_of_pairwise (fun _ _ _ _ => totalLE_antisymm)
  · exact List.pairwise_mergeSort totalLE_trans totalLE_total xs
  · exact List.pairwise_mergeSort totalLE_trans totalLE_total ys

end LoadBench.Binary64
