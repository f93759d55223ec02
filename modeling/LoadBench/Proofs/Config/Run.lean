import LoadBench.Config.Run
import LoadBench.Proofs.Binary64.Sign

namespace LoadBench

namespace RunConfig

variable {c : RunConfig}

theorem rules_kept (valid : c.fault? = none) : ∀ rule ∈ c.rules, rule.1 = false := by
  have unbroken := List.find?_eq_none.mp (Option.map_eq_none_iff.mp valid)
  exact fun rule member => Bool.eq_false_iff.mpr (unbroken rule member)

theorem searchRatio_isShare (valid : c.fault? = none) : isShare c.searchRatio = true := by
  have rule := rules_kept valid (!isShare c.searchRatio, .searchRatioOutside c.searchRatio)
    (by simp [rules])
  simpa using rule

theorem insertRatio_isShare (valid : c.fault? = none) : isShare c.insertRatio = true := by
  have rule := rules_kept valid (!isShare c.insertRatio, .insertRatioOutside c.insertRatio)
    (by simp [rules])
  simpa using rule

variable {x : Binary64}

theorem isShare_isNaN (share : isShare x = true) : x.isNaN = false := by
  simp only [isShare, Binary64.le, Bool.and_eq_true, Bool.not_eq_true'] at share
  exact share.1.1.2

theorem isShare_isNegative (share : isShare x = true) :
    x.isNegative = true ↔ x = Binary64.negativeZero := by
  constructor
  · intro negative
    have origin : Binary64.zero.numericRank = 0 := by decide
    simp only [isShare, Binary64.le, Bool.and_eq_true, decide_eq_true_eq, origin] at share
    have least := share.1.2
    rw [Binary64.numericRank, if_pos negative] at least
    have nothing : x.magnitude = 0 := by omega
    rw [← Binary64.ofMagnitude_self x, negative, nothing, Binary64.negativeZero]
  · rintro rfl
    decide

end RunConfig

end LoadBench
