import LoadBench.Proofs.Run.Accounts
import LoadBench.Proofs.Run.Steps

namespace LoadBench

def callsOf (i : Nat) (calls : List Landed) : List Landed := calls.filter (·.worker = i)

/-- Calls that fill a stretch of time: the first starts with it, each other at the moment at which
the one before has ended, and the last ends with it. -/
def Fill : Instant → List Landed → Instant → Prop
  | t, [], u => t = u
  | t, k :: rest, u => k.started = t ∧ t < k.ended ∧ Fill k.ended rest u

section Fill

variable {t u s : Instant} {calls : List Landed}

theorem Fill.append_one (h : Fill t calls u) {k : Landed} (start : k.started = u)
    (takes : k.started < k.ended) : Fill t (calls ++ [k]) k.ended := by
  induction calls generalizing t with
  | nil =>
    have same : t = u := h
    exact ⟨start.trans same.symm, by lia, rfl⟩
  | cons first rest ih => exact ⟨h.1, h.2.1, ih h.2.2⟩

theorem Fill.first (h : Fill t calls u) (stretch : t < u) :
    ∃ k rest, calls = k :: rest ∧ k.started = t := by
  cases calls with
  | nil => exact absurd h (Nat.ne_of_lt stretch)
  | cons k rest => exact ⟨k, rest, rfl, h.1⟩

theorem Fill.last (h : Fill t calls u) (nonempty : calls ≠ []) : ∃ k ∈ calls, k.ended = u := by
  induction calls generalizing t with
  | nil => exact absurd rfl nonempty
  | cons k rest ih =>
    obtain ⟨_, _, after⟩ := h
    by_cases final : rest = []
    · subst final
      exact ⟨k, List.mem_cons_self, after⟩
    · obtain ⟨last, member, ended⟩ := ih after final
      exact ⟨last, List.mem_cons_of_mem _ member, ended⟩

end Fill

theorem callsOf_append (i : Nat) (xs ys : List Landed) :
    callsOf i (xs ++ ys) = callsOf i xs ++ callsOf i ys :=
  List.filter_append ..

theorem callsOf_landed {p : Waiting} {f : Flight} (flight : p.flight = some f) (now : Instant)
    (calls : List Landed) :
    callsOf p.worker.index (calls ++ (p.landed now).toList) =
      callsOf p.worker.index calls ++ [⟨p.worker.index, f, now⟩] := by
  rw [callsOf_append, Waiting.landed, flight]
  simp [callsOf]

theorem callsOf_landed_ne {p : Waiting} {i : Nat} (other : p.worker.index ≠ i) (now : Instant)
    (calls : List Landed) : callsOf i (calls ++ (p.landed now).toList) = callsOf i calls := by
  rw [callsOf_append, Waiting.landed]
  cases p.flight with
  | none => exact List.append_nil _
  | some f => simp [callsOf, other]

namespace Window

def running (w : Window) : List Nat := w.waiting.map (·.worker.index)

/-- Each call takes time, and none ends at the very deadline. -/
def Regular (w : Window) : Prop :=
  ∀ p ∈ w.waiting, ∀ f, p.flight = some f → f.started < p.time ∧ p.time ≠ w.deadline

def OnTime (w : Window) (landed : Option Landed) (later : Window) : Prop :=
  Prompt w landed later ∧ later.Regular

structure Due (opened : Instant) (calls : List Landed) (p : Waiting) : Prop where
  idle : p.flight = none → callsOf p.worker.index calls = [] ∧ p.time = opened
  busy : ∀ f, p.flight = some f → Fill opened (callsOf p.worker.index calls) f.started

/-- How the calls of a window lie in time up to some moment of it. -/
structure Timely (c : RunConfig) (opened : Instant) (calls : List Landed) (w : Window) : Prop where
  deadline : w.deadline = opened + c.duration
  regular : w.Regular
  distinct : w.running.Nodup
  workers : ∀ i ∈ w.running, i < c.concurrency
  landed : ∀ k ∈ calls, k.worker < c.concurrency ∧ k.ended ≤ w.channel.now
  due : ∀ p ∈ w.waiting, Due opened calls p
  stopped : ∀ i < c.concurrency, i ∉ w.running →
    ∃ u, opened + c.duration < u ∧ Fill opened (callsOf i calls) u
  started : ∀ f ∈ flights calls w, f.started < opened + c.duration
  latest : calls = [] ∨ ∃ k ∈ calls, k.ended = w.channel.now

variable {c : RunConfig} {opened : Instant} {calls : List Landed} {w later : Window} {p : Waiting}
  {rest : List Waiting}

theorem Timely.fill (h : Timely c opened calls w) (member : p ∈ w.waiting) :
    Fill opened (callsOf p.worker.index (calls ++ (p.landed p.time).toList)) p.time := by
  cases flight : p.flight with
  | none =>
    obtain ⟨unsent, time⟩ := (h.due p member).idle flight
    rw [Waiting.landed, flight, callsOf_append, unsent]
    exact time.symm
  | some f =>
    have takes := (h.regular p member f flight).1
    rw [callsOf_landed flight]
    exact ((h.due p member).busy f flight).append_one (k := ⟨p.worker.index, f, p.time⟩) rfl takes

theorem Timely.time_ne (h : Timely c opened calls w) (long : 0 < c.duration)
    (member : p ∈ w.waiting) : p.time ≠ opened + c.duration := by
  cases flight : p.flight with
  | none =>
    have time := ((h.due p member).idle flight).2
    lia
  | some f =>
    rw [← h.deadline]
    exact (h.regular p member f flight).2

theorem Timely.ended (h : Timely c opened calls w) (member : p ∈ w.waiting)
    (ahead : w.channel.now ≤ p.time) :
    ∀ k ∈ calls ++ (p.landed p.time).toList, k.worker < c.concurrency ∧ k.ended ≤ p.time := by
  intro k inside
  rcases List.mem_append.mp inside with before | new
  · obtain ⟨worker, ended⟩ := h.landed k before
    exact ⟨worker, Nat.le_trans ended ahead⟩
  · obtain ⟨f, flight, rfl⟩ := Option.map_eq_some_iff.mp (Option.mem_toList.mp new)
    exact ⟨h.workers _ (List.mem_map_of_mem member), Nat.le_refl _⟩

theorem Timely.last (h : Timely c opened calls w) (member : p ∈ w.waiting)
    (ahead : w.channel.now ≤ p.time) (forward : opened ≤ w.channel.now) :
    calls ++ (p.landed p.time).toList = [] ∨
      ∃ k ∈ calls ++ (p.landed p.time).toList, k.ended = p.time := by
  cases flight : p.flight with
  | none =>
    have time := ((h.due p member).idle flight).2
    have still : w.channel.now = p.time := by lia
    rw [Waiting.landed, flight, ← still]
    simpa using h.latest
  | some f =>
    rw [Waiting.landed, flight]
    exact .inr ⟨⟨p.worker.index, f, p.time⟩, by simp, rfl⟩

theorem running_chosen (chosen : w.waiting.Perm (p :: rest)) :
    w.running.Perm (p.worker.index :: rest.map (·.worker.index)) :=
  chosen.map fun q : Waiting => q.worker.index

theorem Timely.rest_due (h : Timely c opened calls w) (chosen : w.waiting.Perm (p :: rest)) :
    ∀ q ∈ rest, Due opened (calls ++ (p.landed p.time).toList) q := by
  intro q inside
  have due := h.due q (chosen.mem_iff.mpr (List.mem_cons_of_mem _ inside))
  have distinct := (running_chosen chosen).nodup_iff.mp h.distinct
  have other : p.worker.index ≠ q.worker.index := fun same =>
    (List.nodup_cons.mp distinct).1 (same ▸ List.mem_map_of_mem inside)
  have unchanged := callsOf_landed_ne other p.time calls
  exact ⟨fun idle => unchanged ▸ due.idle idle, fun f flight => unchanged ▸ due.busy f flight⟩

theorem Timely.goOn (h : Timely c opened calls w) (long : 0 < c.duration) (ahead : w.Ahead)
    (forward : opened ≤ w.channel.now) (chosen : w.waiting.Perm (p :: rest))
    (inTime : p.time ≤ w.deadline) (regular : (w.goOn p rest p.time).Regular) :
    Timely c opened (calls ++ (p.landed p.time).toList) (w.goOn p rest p.time) := by
  have member : p ∈ w.waiting := chosen.mem_iff.mpr List.mem_cons_self
  have waiting := goOn_waiting w p rest p.time
  have running : (w.goOn p rest p.time).running.Perm w.running :=
    (waiting.map fun q : Waiting => q.worker.index).trans (running_chosen chosen).symm
  refine {
    deadline := h.deadline
    regular := regular
    distinct := running.nodup_iff.mpr h.distinct
    workers := fun i inside => h.workers i (running.mem_iff.mp inside)
    landed := h.ended member (ahead p member)
    due := ?_
    stopped := ?_
    started := ?_
    latest := h.last member (ahead p member) forward }
  -- The next call starts as the one that has landed ends; no other worker's call has landed.
  · intro q inside
    rcases mem_goOn.mp inside with rfl | inside
    · refine ⟨fun idle => ?_, fun f flight => ?_⟩
      · rw [departed_flight] at idle
        cases idle
      · rw [departed_flight] at flight
        cases flight
        exact h.fill member
    · exact h.rest_due chosen q inside
  · intro i known stopped
    have absent : i ∉ w.running := fun inside => stopped (running.mem_iff.mpr inside)
    have other : p.worker.index ≠ i := fun same => absent (same ▸ List.mem_map_of_mem member)
    rw [callsOf_landed_ne other]
    exact h.stopped i known absent
  · intro f inside
    rcases List.mem_append.mp ((flights_goOn chosen calls p.time).mem_iff.mp inside) with old | new
    · exact h.started f old
    · have differ := h.time_ne long member
      rw [h.deadline] at inTime
      rw [List.mem_singleton.mp new]
      exact Nat.lt_of_le_of_ne inTime differ

theorem Timely.retire (h : Timely c opened calls w) (long : 0 < c.duration) (ahead : w.Ahead)
    (forward : opened ≤ w.channel.now) (chosen : w.waiting.Perm (p :: rest))
    (closed : w.deadline ≤ p.time) (regular : (w.retire p rest p.time).Regular) :
    Timely c opened (calls ++ (p.landed p.time).toList) (w.retire p rest p.time) := by
  have member : p ∈ w.waiting := chosen.mem_iff.mpr List.mem_cons_self
  have running := running_chosen chosen
  refine {
    deadline := h.deadline
    regular := regular
    distinct := (List.nodup_cons.mp (running.nodup_iff.mp h.distinct)).2
    workers := fun i inside => h.workers i (running.mem_iff.mpr (List.mem_cons_of_mem _ inside))
    landed := h.ended member (ahead p member)
    due := h.rest_due chosen
    stopped := ?_
    started := ?_
    latest := h.last member (ahead p member) forward }
  · intro i known stopped
    -- Its last call has ended behind the deadline, as none ends at it.
    by_cases own : p.worker.index = i
    · subst own
      have differ := h.time_ne long member
      rw [h.deadline] at closed
      exact ⟨p.time, Nat.lt_of_le_of_ne closed differ.symm, h.fill member⟩
    · rw [callsOf_landed_ne own]
      refine h.stopped i known fun inside => ?_
      rcases List.mem_cons.mp (running.mem_iff.mp inside) with rfl | inside
      · exact own rfl
      · exact stopped inside
  · intro f inside
    exact h.started f ((flights_retire chosen calls p.time).mem_iff.mp inside)

theorem Timely.turn {landed : Option Landed} (h : Timely c opened calls w) (long : 0 < c.duration)
    (ahead : w.Ahead) (forward : opened ≤ w.channel.now) (turn : OnTime w landed later) :
    Timely c opened (calls ++ landed.toList) later := by
  obtain ⟨prompt, regular⟩ := turn
  cases prompt with
  | goOn chosen _ inTime => exact h.goOn long ahead forward chosen inTime regular
  | retire chosen _ closed => exact h.retire long ahead forward chosen closed regular

theorem pollUntil_eq {deadline now : Instant} (h : now ≤ deadline) :
    pollUntil deadline now = deadline := by
  fun_induction pollUntil deadline now with
  | case1 now reached => exact Nat.le_antisymm h reached
  | case2 now early ih => exact ih (by lia)

end Window

end LoadBench
