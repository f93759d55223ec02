import LoadBench.Session.Guard

namespace LoadBench

def Fate.EndsBy (fate : Fate) (signals : List Delivery) (time : Instant) : Prop :=
  ∃ ended status, fate signals = some (ended, status) ∧ ended ≤ time

def Killed (signals : List Delivery) : Prop := ∃ d ∈ signals, d.signal = .kill

/-- A process has ended by some time, or it has been sent the signal that it cannot outlive. -/
def Fate.Settled (fate : Fate) (signals : List Delivery) (time : Instant) : Prop :=
  fate.EndsBy signals time ∨ Killed signals

namespace Guard

def toGroup (g : Guard) : List Delivery := g.sent.filter (·.toGroup)

def Outlasts (g : Guard) (now : Instant) : Prop :=
  g.exited? now = none ∧ (g.terminate now).exited? (now + g.grace) = none

theorem exited?_eq_some_iff (g : Guard) (now : Instant) (status : ExitStatus) :
    g.exited? now = some status ↔ ∃ time, g.fate = some (time, status) ∧ time ≤ now := by
  rw [exited?]
  cases g.fate with
  | none => simp
  | some ended =>
    obtain ⟨time, last⟩ := ended
    simp only [Option.ite_none_right_eq_some, Option.some.injEq, Prod.mk.injEq]
    constructor
    · rintro ⟨past, rfl⟩
      exact ⟨time, ⟨rfl, rfl⟩, past⟩
    · rintro ⟨_, ⟨rfl, rfl⟩, past⟩
      exact ⟨past, rfl⟩

theorem shutdown_cases (g : Guard) (now : Instant) :
    (∃ time status, g.fate = some (time, status) ∧ time ≤ now ∧
      g.shutdown now = (status, now, { g with reaped := true })) ∨
    (g.exited? now = none ∧ ∃ time status, (g.terminate now).fate = some (time, status) ∧
      time ≤ now + g.grace ∧
      g.shutdown now = (status, max time now, { g.terminate now with reaped := true })) ∨
    (g.Outlasts now ∧
      g.shutdown now = ((g.terminate now).kill (now + g.grace)).reapKilled (now + g.grace)) := by
  cases before : g.exited? now with
  | some status =>
    obtain ⟨time, fate, past⟩ := (exited?_eq_some_iff g now status).mp before
    exact .inl ⟨time, status, fate, past, by rw [shutdown, before]⟩
  | none =>
    cases within : (g.terminate now).exited? (now + g.grace) with
    | some status =>
      obtain ⟨time, fate, inTime⟩ := (exited?_eq_some_iff _ _ status).mp within
      refine .inr (.inl ⟨rfl, time, status, fate, inTime, ?_⟩)
      simp only [shutdown, before, within, fate]
    | none =>
      refine .inr (.inr ⟨⟨before, within⟩, ?_⟩)
      simp only [shutdown, before, within]

def requests (g : Guard) (now : Instant) : List Delivery :=
  if (g.exited? now).isSome then [] else [⟨now, .term, true⟩]

/-- What a guard leaves when it has sent what it sends by some time: its leader has ended or been
killed, and any other process of the group has if the group was killed or if it ends of its own
accord on certain signals. -/
structure Leaves (g after : Guard) (time : Instant) (killed : Prop) (signals : List Delivery) :
    Prop where
  leader : g.leader.Settled after.sent time
  member : ∀ member : Fate,
    member.Settled after.toGroup time ↔ killed ∨ member.EndsBy signals time

theorem leaves_of_killed {g after : Guard} {time : Instant} {killed : Prop}
    {signals : List Delivery} (sent : Killed after.toGroup) (reason : killed) :
    g.Leaves after time killed signals where
  leader := by
    obtain ⟨d, member, kill⟩ := sent
    exact .inr ⟨d, (List.mem_filter.mp member).1, kill⟩
  member _ := iff_of_true (.inr sent) (.inl reason)

theorem leaves_of_spared {g after : Guard} {time : Instant} {killed : Prop}
    {signals : List Delivery} (ended : g.leader.EndsBy after.sent time)
    (sent : after.toGroup = signals) (harmless : ¬ Killed signals) (spared : ¬ killed) :
    g.Leaves after time killed signals where
  leader := .inl ended
  member _ := by
    rw [sent]
    exact (or_iff_left harmless).trans (or_iff_right spared).symm

variable {g : Guard}

theorem killed_kill (reaches : g.reachesGroup = true) (now : Instant) :
    Killed (g.kill now).toGroup := by
  refine ⟨⟨now, .kill, true⟩, List.mem_filter.mpr ⟨?_, rfl⟩, rfl⟩
  simp [kill, send, reaches]

theorem sent_reapKilled (g : Guard) (now : Instant) : (g.reapKilled now).2.2.sent = g.sent := by
  rw [reapKilled]
  split <;> rfl

theorem leaves_shutdown (fresh : g.sent = []) (reaches : g.reachesGroup = true) (now : Instant) :
    g.Leaves (g.shutdown now).2.2 (g.shutdown now).2.1 (g.Outlasts now) (g.requests now) := by
  rcases shutdown_cases g now with
    ⟨time, status, fate, past, same⟩ | ⟨running, time, status, fate, inTime, same⟩ |
    ⟨outlasts, same⟩
  · have before := (exited?_eq_some_iff g now status).mpr ⟨time, fate, past⟩
    have nothing : g.requests now = [] := by rw [requests, before, Option.isSome_some, if_pos rfl]
    rw [same, nothing]
    refine leaves_of_spared ⟨time, status, fate, past⟩ ?_ ?_ ?_
    · rw [toGroup, fresh, List.filter_nil]
    · rintro ⟨d, member, -⟩
      exact absurd member List.not_mem_nil
    · rintro ⟨running, -⟩
      rw [before] at running
      cases running
  · have within := (exited?_eq_some_iff _ _ status).mpr ⟨time, fate, inTime⟩
    have asked : g.requests now = [⟨now, .term, true⟩] := by
      rw [requests, running, Option.isSome_none, if_neg Bool.false_ne_true]
    have sent : (g.terminate now).sent = [⟨now, .term, true⟩] := by
      rw [terminate, send, fresh, reaches, if_pos rfl, List.nil_append]
    rw [same, asked]
    refine leaves_of_spared ⟨time, status, fate, Nat.le_max_left time now⟩ ?_ ?_ ?_
    · simp [toGroup, sent]
    · rintro ⟨d, member, kill⟩
      rw [List.mem_singleton.mp member] at kill
      cases kill
    · rintro ⟨-, running⟩
      rw [within] at running
      cases running
  · rw [same]
    refine leaves_of_killed ?_ outlasts
    rw [toGroup, sent_reapKilled]
    exact killed_kill (g := g.terminate now) reaches (now + g.grace)

theorem leaves_drop (fresh : g.sent = []) (reaches : g.reachesGroup = true) (now : Instant) :
    g.Leaves (g.drop now) now (g.exited? now = none) [] := by
  rw [drop]
  cases before : g.exited? now with
  | none => exact leaves_of_killed (killed_kill reaches now) rfl
  | some status =>
    obtain ⟨time, fate, past⟩ := (exited?_eq_some_iff g now status).mp before
    refine leaves_of_spared ⟨time, status, fate, past⟩ ?_ ?_ (Option.some_ne_none status)
    · rw [toGroup, fresh, List.filter_nil]
    · rintro ⟨d, member, -⟩
      exact absurd member List.not_mem_nil

/-- A guard that is shut down kills the group if the leader outlasts its grace period, and one that
is dropped if the leader still runs. If not, a process of the group is left running unless it ends
when it is asked to, or by itself where it is not even asked. -/
theorem leaves_group (fresh : g.sent = []) (reaches : g.reachesGroup = true) (now : Instant) :
    g.Leaves (g.shutdown now).2.2 (g.shutdown now).2.1 (g.Outlasts now) (g.requests now) ∧
      g.Leaves (g.drop now) now (g.exited? now = none) [] :=
  ⟨leaves_shutdown fresh reaches now, leaves_drop fresh reaches now⟩

def endsAtOnce : Fate := fun _ => some (0, .code 0)

def endsWhenAsked : Fate := fun signals => (signals.head?).map fun d => (d.time, .signal d.signal)

def endsWhenKilled : Fate := fun signals =>
  (signals.find? (·.signal = .kill)).map fun d => (d.time, .signal .kill)

/-- A process that ends when it is killed, and only then, is left running by a guard whose leader
has ended before, and by one whose leader ends when asked to. -/
theorem leaves_group_running :
    (∀ signals, Killed signals → ∃ ended, endsWhenKilled signals = some ended) ∧
    ¬ endsWhenKilled.Settled ((ofFate endsAtOnce defaultGrace true).shutdown 1).2.2.toGroup
      ((ofFate endsAtOnce defaultGrace true).shutdown 1).2.1 ∧
    ¬ endsWhenKilled.Settled ((ofFate endsAtOnce defaultGrace true).drop 1).toGroup 1 ∧
    ¬ endsWhenKilled.Settled ((ofFate endsWhenAsked defaultGrace true).shutdown 1).2.2.toGroup
      ((ofFate endsWhenAsked defaultGrace true).shutdown 1).2.1 := by
  have outlives (signals : List Delivery) (time : Instant)
      (spared : endsWhenKilled signals = none) : ¬ endsWhenKilled.EndsBy signals time := by
    rintro ⟨ended, status, fate, -⟩
    rw [spared] at fate
    cases fate
  obtain ⟨atOnce, dropped⟩ := leaves_group (g := ofFate endsAtOnce defaultGrace true) rfl rfl 1
  obtain ⟨asked, -⟩ := leaves_group (g := ofFate endsWhenAsked defaultGrace true) rfl rfl 1
  rw [atOnce.member, dropped.member, asked.member]
  refine ⟨?_, not_or.mpr ⟨?_, outlives _ _ rfl⟩, not_or.mpr ⟨?_, outlives _ _ rfl⟩,
    not_or.mpr ⟨?_, outlives _ _ rfl⟩⟩
  · rintro signals ⟨d, member, kill⟩
    have found : (signals.find? (·.signal = .kill)).isSome = true :=
      List.find?_isSome.mpr ⟨d, member, decide_eq_true kill⟩
    exact Option.isSome_iff_exists.mp (Option.isSome_map.trans found)
  · exact fun outlasts => absurd outlasts.1 (by decide)
  · decide
  · exact fun outlasts => absurd outlasts.2 (by decide)

end Guard

end LoadBench
