import LoadBench.Proofs.Latency.Recording
import LoadBench.Proofs.Service
import LoadBench.Run.Benchmark

namespace LoadBench

open Http

def Flight.sent (f : Flight) : Sent := ⟨f.started, f.call.request⟩

structure Landed where
  worker : Nat
  flight : Flight
  ended : Instant

namespace Landed

def started (k : Landed) : Instant := k.flight.started

def recording (k : Landed) : Recording :=
  match k.flight.outcome with
  | .ok response =>
    if response.isError then .failure k.flight.call.kind
    else .success k.flight.call.kind (Duration.seconds (k.ended - k.started))
  | .error _ => .failure .search

end Landed

def Waiting.landed (p : Waiting) (now : Instant) : Option Landed :=
  p.flight.map fun f => ⟨p.worker.index, f, now⟩

namespace Window

/-- A worker, whichever it is, goes on once its call has been answered. After the deadline it may
find that it has been told to stop. -/
inductive Turn (w : Window) : Option Landed → Window → Prop where
  | goOn {p : Waiting} {rest : List Waiting} {now : Instant} :
      w.waiting.Perm (p :: rest) → p.time ≤ now → w.channel.now ≤ now →
        Turn w (p.landed now) (w.goOn p rest now)
  | retire {p : Waiting} {rest : List Waiting} {now : Instant} :
      w.waiting.Perm (p :: rest) → p.time ≤ now → w.channel.now ≤ now → w.deadline ≤ now →
        Turn w (p.landed now) (w.retire p rest now)

/-- A worker goes on at the moment of its answer, none being answered before. Of workers answered at
the same moment any may be first, and one answered at the very deadline may go on or stop. -/
inductive Prompt (w : Window) : Option Landed → Window → Prop where
  | goOn {p : Waiting} {rest : List Waiting} :
      w.waiting.Perm (p :: rest) → (∀ q ∈ rest, p.time ≤ q.time) → p.time ≤ w.deadline →
        Prompt w (p.landed p.time) (w.goOn p rest p.time)
  | retire {p : Waiting} {rest : List Waiting} :
      w.waiting.Perm (p :: rest) → (∀ q ∈ rest, p.time ≤ q.time) → w.deadline ≤ p.time →
        Prompt w (p.landed p.time) (w.retire p rest p.time)

inductive Reaches (turn : Window → Option Landed → Window → Prop) (start : Window) :
    List Landed → Window → Prop where
  | here : Reaches turn start [] start
  | turn {calls : List Landed} {landed : Option Landed} {w later : Window} :
      Reaches turn start calls w → turn w landed later →
        Reaches turn start (calls ++ landed.toList) later

end Window

/-- The courses that a run may take, with what comes of it and what it leaves of the channel. As
long as its window is open nothing has come of it. -/
inductive Course (c : RunConfig) (ch : Channel) :
    Option (Except RunFault RunSummary) → Channel → Prop where
  | failed {fault : RunFault} {later : Channel} :
      setUp c ch = (.error fault, later) → Course c ch (some (.error fault)) later
  | underWay {opened : Channel} {calls : List Landed} {w : Window} :
      setUp c ch = (.ok (), opened) → Window.Reaches Window.Turn (.opening c opened) calls w →
        Course c ch none w.channel
  | returned {opened : Channel} {calls : List Landed} {w : Window} {ended : Instant} :
      setUp c ch = (.ok (), opened) → Window.Reaches Window.Turn (.opening c opened) calls w →
        w.waiting = [] → w.deadline ≤ ended → w.channel.now ≤ ended →
          Course c ch (some (.ok (RunSummary.ofRun c w.collector (ended - opened.now)))) w.channel

namespace Window

theorem enqueue_perm (now : Instant) (p : Waiting) (queue : List Waiting) :
    (enqueue now p queue).Perm (p :: queue) := by
  unfold enqueue
  split
  · exact .refl _
  · have cut := List.takeWhile_append_dropWhile (p := fun q => q.time ≤ p.time) (l := queue)
    refine List.perm_middle.trans (.cons p ?_)
    rw [cut]

def Ahead (w : Window) : Prop := ∀ p ∈ w.waiting, w.channel.now ≤ p.time

theorem opening_ahead (c : RunConfig) (ch : Channel) : (opening c ch).Ahead := by
  intro p member
  obtain ⟨i, _, rfl⟩ := List.mem_map.mp member
  exact Nat.le_refl _

theorem Prompt.turn {w later : Window} {landed : Option Landed} (h : Prompt w landed later)
    (ahead : w.Ahead) : Turn w landed later := by
  cases h with
  | goOn chosen earliest inTime =>
    exact .goOn chosen (Nat.le_refl _) (ahead _ (chosen.mem_iff.mpr List.mem_cons_self))
  | retire chosen earliest closed =>
    exact .retire chosen (Nat.le_refl _) (ahead _ (chosen.mem_iff.mpr List.mem_cons_self)) closed

theorem goOn_ahead {w : Window} {p : Waiting} {rest : List Waiting}
    (earliest : ∀ q ∈ rest, p.time ≤ q.time) : (w.goOn p rest p.time).Ahead := by
  intro q member
  rcases List.mem_cons.mp ((enqueue_perm _ _ _).mem_iff.mp member) with rfl | member
  · exact Nat.le_add_right _ _
  · exact earliest q member

theorem Prompt.ahead {w later : Window} {landed : Option Landed} (h : Prompt w landed later) :
    later.Ahead := by
  cases h with
  | goOn _ earliest _ => exact goOn_ahead earliest
  | retire _ earliest _ => exact earliest

theorem Reaches.mono {a b : Window → Option Landed → Window → Prop} {start w : Window}
    {calls : List Landed} (weaker : ∀ w landed later, a w landed later → b w landed later)
    (h : Reaches a start calls w) : Reaches b start calls w := by
  induction h with
  | here => exact .here
  | turn _ step ih => exact .turn ih (weaker _ _ _ step)

theorem Reaches.turns {start w : Window} {calls : List Landed} (h : Reaches Prompt start calls w)
    (ahead : start.Ahead) : Reaches Turn start calls w ∧ w.Ahead := by
  induction h with
  | here => exact ⟨.here, ahead⟩
  | turn _ step ih => exact ⟨.turn ih.1 (step.turn ih.2), step.ahead⟩

end Window

end LoadBench
