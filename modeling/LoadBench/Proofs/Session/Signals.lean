import LoadBench.Proofs.Session.Group

namespace LoadBench

def Fate.Mortal (fate : Fate) : Prop :=
  ∀ signals, Killed signals → ∃ ended status, fate signals = some (ended, status)

namespace Guard

variable {g : Guard} {now : Instant}

theorem exited?_eq_none_iff (g : Guard) (now : Instant) :
    g.exited? now = none ↔ ¬ g.leader.EndsBy g.sent now := by
  rw [Option.eq_none_iff_forall_ne_some]
  constructor
  · rintro running ⟨ended, status, fate, past⟩
    exact running status ((exited?_eq_some_iff g now status).mpr ⟨ended, fate, past⟩)
  · rintro running status exited
    obtain ⟨ended, fate, past⟩ := (exited?_eq_some_iff g now status).mp exited
    exact running ⟨ended, status, fate, past⟩

theorem outlasts_iff (g : Guard) (now : Instant) :
    g.Outlasts now ↔ ¬ g.leader.EndsBy g.sent now ∧
      ¬ g.leader.EndsBy (g.terminate now).sent (now + g.grace) :=
  and_congr (exited?_eq_none_iff g now) (exited?_eq_none_iff (g.terminate now) _)

structure Stopped (g : Guard) (stopped : ExitStatus × Instant × Guard) : Prop where
  leader : stopped.2.2.leader = g.leader
  ended : ∃ ended, stopped.2.2.fate = some (ended, stopped.1) ∧ ended ≤ stopped.2.1
  reaped : stopped.2.2.reaped = true

theorem stopped_reapKilled (now : Instant) {ended : Instant} {status : ExitStatus}
    (fate : g.fate = some (ended, status)) : g.Stopped (g.reapKilled now) := by
  rw [reapKilled, fate]
  exact ⟨rfl, ⟨ended, fate, Nat.le_max_left ended now⟩, rfl⟩

theorem stopped_shutdown (mortal : g.leader.Mortal) (now : Instant) :
    g.Stopped (g.shutdown now) := by
  rcases shutdown_cases g now with
    ⟨time, status, fate, past, same⟩ | ⟨-, time, status, fate, -, same⟩ | ⟨-, same⟩
  · rw [same]
    exact ⟨rfl, ⟨time, fate, past⟩, rfl⟩
  · rw [same]
    exact ⟨rfl, ⟨time, fate, Nat.le_max_left time now⟩, rfl⟩
  · have killed : Killed ((g.terminate now).kill (now + g.grace)).sent :=
      ⟨⟨now + g.grace, .kill, false⟩, by simp [kill, send], rfl⟩
    obtain ⟨ended, status, fate⟩ : ∃ ended status,
        ((g.terminate now).kill (now + g.grace)).fate = some (ended, status) := mortal _ killed
    have stopped := stopped_reapKilled (now + g.grace) fate
    rw [same]
    exact ⟨stopped.leader, stopped.ended, stopped.reaped⟩

theorem drop_of_stopped {stopped : ExitStatus × Instant × Guard} (ends : g.Stopped stopped)
    {later : Instant} (since : stopped.2.1 ≤ later) : stopped.2.2.drop later = stopped.2.2 := by
  obtain ⟨ended, fate, past⟩ := ends.ended
  have exited := (exited?_eq_some_iff _ later stopped.1).mpr
    ⟨ended, fate, Nat.le_trans past since⟩
  rw [drop, exited]

def AreKills (signals : List Delivery) (time : Instant) : Prop :=
  ∀ d ∈ signals, d.signal = .kill ∧ d.time = time

theorem sent_kill (g : Guard) (now : Instant) :
    ∃ kills, (g.kill now).sent = g.sent ++ kills ∧ kills ≠ [] ∧ AreKills kills now ∧
      ∀ d ∈ kills, d.toGroup = true → g.reachesGroup = true := by
  refine ⟨_, rfl, List.append_ne_nil_of_right_ne_nil _ (List.cons_ne_nil _ _), ?_, ?_⟩
  all_goals
    intro d member
    cases reaches : g.reachesGroup <;> simp [reaches] at member
  · exact member ▸ ⟨rfl, rfl⟩
  · rcases member with rfl | rfl <;> exact ⟨rfl, rfl⟩
  · rw [member]
    exact nofun
  · exact fun _ => rfl

theorem sent_shutdown_cases (g : Guard) (now : Instant) :
    (g.leader.EndsBy g.sent now ∧ (g.shutdown now).2.2.sent = g.sent) ∨
    (¬ g.leader.EndsBy g.sent now ∧ g.leader.EndsBy (g.terminate now).sent (now + g.grace) ∧
      (g.shutdown now).2.2.sent = (g.terminate now).sent) ∨
    (¬ g.leader.EndsBy g.sent now ∧ ¬ g.leader.EndsBy (g.terminate now).sent (now + g.grace) ∧
      (g.shutdown now).2.2.sent = ((g.terminate now).kill (now + g.grace)).sent) := by
  rcases shutdown_cases g now with
    ⟨time, status, fate, past, same⟩ | ⟨running, time, status, fate, inTime, same⟩ |
    ⟨outlasts, same⟩
  · exact .inl ⟨⟨time, status, fate, past⟩, by rw [same]⟩
  · exact .inr (.inl ⟨(exited?_eq_none_iff g now).mp running, ⟨time, status, fate, inTime⟩,
      by rw [same]⟩)
  · obtain ⟨running, surviving⟩ := (outlasts_iff g now).mp outlasts
    exact .inr (.inr ⟨running, surviving, by rw [same, sent_reapKilled]⟩)

theorem sent_shutdown_of_running (running : ¬ g.leader.EndsBy g.sent now) {first : Delivery}
    (asked : (g.terminate now).sent = g.sent ++ [first]) :
    ∃ kills, (g.shutdown now).2.2.sent = g.sent ++ first :: kills ∧
      AreKills kills (now + g.grace) ∧
      (kills ≠ [] ↔ ¬ g.leader.EndsBy (g.sent ++ [first]) (now + g.grace)) ∧
      ∀ d ∈ kills, d.toGroup = true → g.reachesGroup = true := by
  rw [← asked]
  rcases sent_shutdown_cases g now with
    ⟨ended, -⟩ | ⟨-, inTime, sent⟩ | ⟨-, surviving, sent⟩
  · exact absurd ended running
  · refine ⟨[], sent.trans asked, List.forall_mem_nil _, ?_, List.forall_mem_nil _⟩
    exact iff_of_false (fun spared => spared rfl) (fun surviving => surviving inTime)
  · obtain ⟨kills, killed, killing, pure, reached⟩ := (g.terminate now).sent_kill (now + g.grace)
    refine ⟨kills, ?_, pure, iff_of_true killing surviving, reached⟩
    rw [sent, killed, asked, List.append_assoc, List.singleton_append]

/-- What a shutdown begun at some time does. -/
structure ShutsDown (g : Guard) (now : Instant) : Prop where
  stopped : g.Stopped (g.shutdown now)
  spared : g.leader.EndsBy g.sent now → (g.shutdown now).2.2.sent = g.sent
  asked : ¬ g.leader.EndsBy g.sent now → g.reachesGroup = true →
    ∃ kills, (g.shutdown now).2.2.sent = g.sent ++ ⟨now, .term, true⟩ :: kills ∧
      AreKills kills (now + g.grace) ∧
      (kills ≠ [] ↔ ¬ g.leader.EndsBy (g.sent ++ [⟨now, .term, true⟩]) (now + g.grace))
  alone : ¬ g.leader.EndsBy g.sent now → g.reachesGroup = false →
    ∃ kills, (g.shutdown now).2.2.sent = g.sent ++ ⟨now, .kill, false⟩ :: kills ∧
      AreKills kills (now + g.grace) ∧ ∀ d ∈ kills, d.toGroup = false
  dropped : ∀ later, (g.shutdown now).2.1 ≤ later →
    ((g.shutdown now).2.2.drop later).sent = (g.shutdown now).2.2.sent

def Drops (g : Guard) (now : Instant) : Prop :=
  ∃ kills, (g.drop now).sent = g.sent ++ kills ∧ AreKills kills now ∧
    (kills ≠ [] ↔ ¬ g.leader.EndsBy g.sent now)

theorem shutsDown (mortal : g.leader.Mortal) (now : Instant) : g.ShutsDown now where
  stopped := stopped_shutdown mortal now
  spared := by
    intro ended
    rcases sent_shutdown_cases g now with ⟨-, sent⟩ | ⟨running, -⟩ | ⟨running, -⟩
    · exact sent
    · exact absurd ended running
    · exact absurd ended running
  asked := by
    intro running reaches
    have asked : (g.terminate now).sent = g.sent ++ [⟨now, .term, true⟩] := by
      rw [terminate, send, if_pos reaches]
    obtain ⟨kills, sent, pure, outlasts, -⟩ := sent_shutdown_of_running running asked
    exact ⟨kills, sent, pure, outlasts⟩
  alone := by
    intro running unreached
    have asked : (g.terminate now).sent = g.sent ++ [⟨now, .kill, false⟩] := by
      rw [terminate, send, unreached, if_neg Bool.false_ne_true]
    obtain ⟨kills, sent, pure, -, reached⟩ := sent_shutdown_of_running running asked
    refine ⟨kills, sent, pure, fun d member => Bool.eq_false_iff.mpr fun grouped => ?_⟩
    rw [unreached] at reached
    exact absurd (reached d member grouped) Bool.false_ne_true
  dropped := by
    intro later since
    rw [drop_of_stopped (stopped_shutdown mortal now) since]

theorem drops (g : Guard) (now : Instant) : g.Drops now := by
  rw [Drops, ← exited?_eq_none_iff, drop]
  cases exited : g.exited? now with
  | none =>
    obtain ⟨kills, sent, killing, pure, -⟩ := g.sent_kill now
    exact ⟨kills, sent, pure, iff_of_true killing rfl⟩
  | some status =>
    refine ⟨[], (List.append_nil _).symm, List.forall_mem_nil _, ?_⟩
    exact iff_of_false (fun spared => spared rfl) (Option.some_ne_none status)

/-- Whatever a process does short of outliving a kill, its guard keeps to the discipline: a shutdown
returns when the process has ended, and asks before it kills; a guard that is dropped instead kills
a process that still runs. -/
theorem signals_disciplined (g : Guard) (mortal : g.leader.Mortal) (now : Instant) :
    g.ShutsDown now ∧ g.Drops now :=
  ⟨shutsDown mortal now, drops g now⟩

theorem mortal_endsWhenKilled : endsWhenKilled.Mortal := by
  rintro signals ⟨d, member, kill⟩
  have found : (signals.find? (·.signal = .kill)).isSome = true :=
    List.find?_isSome.mpr ⟨d, member, decide_eq_true kill⟩
  obtain ⟨first, same⟩ := Option.isSome_iff_exists.mp found
  exact ⟨first.time, .signal .kill, by rw [endsWhenKilled, same, Option.map_some]⟩

/-- A process that ends only when it is killed is, when its grace period is over. -/
theorem signals_disciplined_unheeded :
    endsWhenKilled.Mortal ∧
    (ofFate endsWhenKilled 5 true).shutdown 1 =
      (.signal .kill, 6, ⟨endsWhenKilled, 5, true,
        [⟨1, .term, true⟩, ⟨6, .kill, true⟩, ⟨6, .kill, false⟩], true⟩) ∧
    (ofFate endsWhenKilled 5 true).ShutsDown 1 ∧ (ofFate endsWhenKilled 5 true).Drops 1 := by
  refine ⟨mortal_endsWhenKilled, rfl, ?_⟩
  exact signals_disciplined (ofFate endsWhenKilled 5 true) mortal_endsWhenKilled 1

end Guard

end LoadBench
