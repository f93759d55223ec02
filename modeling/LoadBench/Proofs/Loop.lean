import LoadBench.Loop
import Mathlib.Logic.Function.Iterate

namespace LoadBench.Loop

variable {σ : Type} {loop : Loop σ} {s ended : σ}

theorem Ends.iterate (ends : loop.Ends s ended) :
    loop.done ended = true ∧ ∃ n, loop.step^[n] s = ended := by
  induction ends with
  | done done => exact ⟨done, 0, rfl⟩
  | step _ _ ih =>
    obtain ⟨done, n, steps⟩ := ih
    exact ⟨done, n + 1, steps⟩

theorem ends_iterate {n : Nat} (still : ∀ s, loop.done s = true → loop.step s = s)
    (done : loop.done (loop.step^[n] s) = true) : loop.Ends s (loop.step^[n] s) := by
  induction n generalizing s with
  | zero => exact .done done
  | succ n ih =>
    rw [Function.iterate_succ_apply] at done ⊢
    cases reached : loop.done s with
    | true =>
      rw [still s reached] at done ⊢
      exact ih done
    | false => exact .step reached (ih done)

theorem ends_iff_of_still (still : ∀ s, loop.done s = true → loop.step s = s) :
    loop.Ends s ended ↔ loop.done ended = true ∧ ∃ n, loop.step^[n] s = ended := by
  constructor
  · exact Ends.iterate
  · rintro ⟨done, n, rfl⟩
    exact ends_iterate still done

theorem Ends.keeps {P : σ → Prop}
    (keeps : ∀ s, P s → loop.done s = false → P (loop.step s)) (start : P s)
    (ends : loop.Ends s ended) : P ended := by
  induction ends with
  | done _ => exact start
  | @step s _ going _ ih => exact ih (keeps s start going)

theorem exists_ends {P : σ → Prop} (left : σ → Nat)
    (keeps : ∀ s, P s → loop.done s = false → P (loop.step s) ∧ left (loop.step s) < left s)
    (start : P s) : ∃ ended, loop.Ends s ended := by
  -- The induction is on what is left to the loop, not on its states.
  induction amount : left s using Nat.strongRecOn generalizing s with
  | ind amount ih =>
    subst amount
    cases reached : loop.done s with
    | true => exact ⟨s, .done reached⟩
    | false =>
      obtain ⟨next, less⟩ := keeps s start reached
      obtain ⟨ended, ends⟩ := ih _ less next rfl
      exact ⟨ended, .step reached ends⟩

/-- A loop that keeps to states in which there is more to do goes on forever. -/
theorem run?_eq_none_of_keeps {P : σ → Prop} (going : ∀ s, P s → loop.done s = false)
    (keeps : ∀ s, P s → P (loop.step s)) (start : P s) : loop.run? s = none := by
  rw [run?_eq_none_iff]
  intro ended ends
  induction ends with
  | @done s done =>
    rw [going s start] at done
    cases done
  | @step s _ _ _ ih => exact ih (keeps s start)

end LoadBench.Loop
