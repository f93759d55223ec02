namespace LoadBench

/-- Steps that are taken until there is no more to do, which is looked for before each. -/
structure Loop (σ : Type) where
  done : σ → Bool
  step : σ → σ

namespace Loop

variable {σ : Type} {loop : Loop σ} {s ended : σ}

inductive Ends (loop : Loop σ) : σ → σ → Prop where
  | done {s : σ} : loop.done s = true → Ends loop s s
  | step {s ended : σ} : loop.done s = false → Ends loop (loop.step s) ended → Ends loop s ended

theorem ends_of_done (done : loop.done s = true) : loop.Ends s ended ↔ s = ended := by
  constructor
  · intro ends
    cases ends with
    | done _ => rfl
    | step going _ => exact absurd done (Bool.eq_false_iff.mp going)
  · rintro rfl
    exact .done done

theorem ends_of_going (going : loop.done s = false) :
    loop.Ends s ended ↔ loop.Ends (loop.step s) ended := by
  constructor
  · intro ends
    cases ends with
    | done done => exact absurd done (Bool.eq_false_iff.mp going)
    | step _ later => exact later
  · exact .step going

theorem Ends.unique {a b : σ} (ha : loop.Ends s a) (hb : loop.Ends s b) : a = b := by
  induction ha with
  | done done => exact (ends_of_done done).mp hb
  | step going _ ih => exact ih ((ends_of_going going).mp hb)

def End (loop : Loop σ) (s : σ) : Type :=
  { ended? : Option σ // ∀ ended, ended? = some ended ↔ loop.Ends s ended }

theorem end_exists (loop : Loop σ) (s : σ) : Nonempty (loop.End s) := by
  by_cases finite : ∃ ended, loop.Ends s ended
  · obtain ⟨ended, ends⟩ := finite
    refine ⟨some ended, fun other => ⟨fun same => ?_, fun h => congrArg some (ends.unique h)⟩⟩
    exact Option.some.inj same ▸ ends
  · refine ⟨none, fun ended => ⟨fun same => ?_, fun ends => absurd ⟨ended, ends⟩ finite⟩⟩
    cases same

instance (loop : Loop σ) (s : σ) : Nonempty (loop.End s) := end_exists loop s

/-- Steps until there is no more to do. Their number has no bound that is known beforehand; the
result itself says which state it is. -/
def finish (loop : Loop σ) (s : σ) : loop.End s :=
  WellFounded.extrinsicFix (C := loop.End) (fun _ _ => True)
    (fun s finish =>
      if done : loop.done s = true then
        ⟨some s, fun ended => by rw [ends_of_done done, Option.some_inj]⟩
      else
        ⟨(finish (loop.step s) trivial).val, fun ended => by
          rw [ends_of_going (Bool.eq_false_iff.mpr done)]
          exact (finish (loop.step s) trivial).property ended⟩) s

def run? (loop : Loop σ) (s : σ) : Option σ := (loop.finish s).val

theorem run?_eq_some_iff : loop.run? s = some ended ↔ loop.Ends s ended :=
  (loop.finish s).property ended

theorem run?_eq_none_iff : loop.run? s = none ↔ ∀ ended, ¬loop.Ends s ended := by
  rw [Option.eq_none_iff_forall_ne_some]
  exact forall_congr' fun ended => not_congr run?_eq_some_iff

end Loop

end LoadBench
