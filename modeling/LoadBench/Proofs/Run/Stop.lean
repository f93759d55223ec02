import LoadBench.Proofs.Run.Conservation
import LoadBench.Proofs.Run.Stream

namespace LoadBench

open Http

def BackToBack : Instant → List Landed → Instant → Prop
  | t, [], u => t = u
  | t, k :: rest, u => k.started = t ∧ t ≤ k.ended ∧ BackToBack k.ended rest u

namespace Worker

theorem succeeded_eq_accepted (outcome : Outcome) : succeeded outcome = accepted outcome := by
  cases outcome with
  | error fault => rfl
  | ok response =>
    have either : ¬400 ≤ response.status ↔ response.status < 400 := Nat.not_le
    simp only [succeeded, accepted, Response.isError, ← decide_not, either]

theorem foldl_add (calls : List Landed) (t : Totals) :
    calls.foldl (fun t k => t.add k.flight.outcome) t =
      ⟨t.calls + calls.length, t.successes + calls.countP (accepted ·.flight.outcome),
        t.failures + calls.countP (!accepted ·.flight.outcome)⟩ := by
  induction calls generalizing t with
  | nil => rfl
  | cons k rest ih =>
    rw [List.foldl_cons, ih, Totals.add, succeeded_eq_accepted]
    cases h : accepted k.flight.outcome <;>
      simp [h, Nat.add_assoc, Nat.add_comm 1]

namespace Solo

def start (c : RunConfig) (i : Nat) (ch : Channel) : Solo := ⟨Worker.start c i, ch, .empty, .zero⟩

def loop (stopped : Nat → Bool) : Loop Solo := ⟨(stopped ·.totals.calls), step⟩

theorem calls_step (s : Solo) : s.step.totals.calls = s.totals.calls + 1 := by
  simp only [step, Totals.add]
  split <;> rfl

theorem ends_iff {n : Nat} {s ended : Solo} :
    (loop (s.totals.calls + n ≤ ·)).Ends s ended ↔ ended = step^[n] s := by
  induction n generalizing s with
  | zero => exact (Loop.ends_of_done (decide_eq_true (Nat.le_refl _))).trans eq_comm
  | succ n ih =>
    have more : ¬s.totals.calls + (n + 1) ≤ s.totals.calls := by omega
    have shift : s.totals.calls + (n + 1) = s.step.totals.calls + n := by
      rw [calls_step]
      omega
    have next : (loop (s.totals.calls + (n + 1) ≤ ·)).step s = s.step := rfl
    rw [Loop.ends_of_going (decide_eq_false more), next, shift, ih, Function.iterate_succ_apply]

def landed (s : Solo) : Landed :=
  ⟨s.worker.index,
    ⟨s.worker.next.1, s.channel.now,
      s.channel.script.outcome s.channel.served s.worker.next.1.request⟩,
    s.step.channel.now⟩

def calls : Nat → Solo → List Landed
  | 0, _ => []
  | n + 1, s => s.landed :: calls n s.step

theorem length_calls (n : Nat) (s : Solo) : (s.calls n).length = n := by
  induction n generalizing s with
  | zero => rfl
  | succ n ih => rw [calls, List.length_cons, ih]

theorem collector_step (s : Solo) : s.step.collector = s.landed.recording.apply s.collector :=
  s.landed.record_eq s.collector

/-- What some calls in a row make of a worker and of all that keeps count of them. -/
structure Books (s : Solo) (calls : List Landed) (later : Solo) : Prop where
  requests : calls.map (·.flight.call.request) = s.worker.requests calls.length
  proper : ∀ k ∈ calls, k.flight.call.Proper s.worker.config
  sent : s.channel.Since (calls.map (·.flight.sent)) later.channel
  exchanges : calls.map (·.flight.exchange) =
    s.channel.script.exchanges s.channel.served (calls.map (·.flight.sent))
  backToBack : BackToBack s.channel.now calls later.channel.now
  collector : later.collector = s.collector.recordAll (calls.map (·.recording))
  totals : later.totals = calls.foldl (fun t k => t.add k.flight.outcome) s.totals

theorem Books.nil (s : Solo) : Books s [] s :=
  ⟨rfl, fun _ member => (List.not_mem_nil member).elim, .refl _, rfl, rfl, rfl, rfl⟩

theorem Books.cons {s later : Solo} {calls : List Landed} (h : Books s.step calls later) :
    Books s (s.landed :: calls) later where
  requests := by
    rw [List.map_cons, h.requests]
    rfl
  proper := List.forall_mem_cons.mpr ⟨s.worker.next_proper, h.proper⟩
  sent := (Channel.since_call s.worker.next.1.request s.channel).trans h.sent
  exchanges := by
    rw [List.map_cons, h.exchanges]
    rfl
  backToBack := ⟨rfl, Nat.le_add_right _ _, h.backToBack⟩
  collector := by
    rw [h.collector, collector_step]
    rfl
  totals := h.totals

theorem books_iterate (n : Nat) (s : Solo) : Books s (s.calls n) (step^[n] s) := by
  induction n generalizing s with
  | zero => exact .nil s
  | succ n ih => exact (ih s.step).cons

end Solo

end Worker

namespace Landed

def elapsed (k : Landed) : Binary64 := Duration.seconds (k.ended - k.started)

def isOf (kind : OperationKind) (sort : Outcome → Bool) (k : Landed) : Bool :=
  k.flight.call.kind = kind && sort k.flight.outcome

theorem sample?_recording (k : Landed) (kind : OperationKind) :
    k.recording.sample? kind = if k.isOf kind accepted then some k.elapsed else none := by
  rw [isOf, ← Worker.succeeded_eq_accepted]
  simp only [recording]
  cases k.flight.outcome with
  | error fault => simp [Recording.sample?, Worker.succeeded]
  | ok response =>
    cases error : response.isError <;>
      simp [Recording.sample?, Worker.succeeded, error, elapsed]

theorem filterMap_sample? (calls : List Landed) (kind : OperationKind) :
    (calls.map (·.recording)).filterMap (·.sample? kind) =
      (calls.filter (·.isOf kind accepted)).map (·.elapsed) := by
  induction calls with
  | nil => rfl
  | cons k rest ih =>
    rw [List.map_cons, List.filterMap_cons, sample?_recording, ih, List.filter_cons]
    cases k.isOf kind accepted <;> rfl

theorem failed_recording (k : Landed) (kind : OperationKind) :
    (k.recording.failed kind).toNat =
      (k.isOf kind refused).toNat + (decide (kind = .search) && lost k.flight.outcome).toNat := by
  simp only [isOf, recording]
  cases k.flight.outcome with
  | error fault => cases kind <;> simp [Recording.failed, refused, lost]
  | ok response =>
    by_cases error : 400 ≤ response.status <;>
      simp [Response.isError, Recording.failed, refused, lost, error]

theorem not_accepted (k : Landed) :
    (!accepted k.flight.outcome).toNat =
      (k.recording.failed .search).toNat + (k.recording.failed .insert).toNat := by
  rw [failed_recording, failed_recording, isOf, isOf]
  cases k.flight.outcome with
  | error fault => simp [accepted, refused, lost]
  | ok response =>
    have either : response.status < 400 ↔ ¬400 ≤ response.status := Nat.not_le.symm
    by_cases error : 400 ≤ response.status <;> cases k.flight.call.kind <;>
      simp [accepted, refused, lost, either, error]

end Landed

namespace Worker

/-- A worker alone with the service that has made some calls and seen the stop. -/
structure Finished (c : RunConfig) (i : Nat) (ch : Channel) (calls : List Landed) (s : Solo) :
    Prop where
  requests : calls.map (·.flight.call.request) = (start c i).requests calls.length
  sent : ch.Since (calls.map (·.flight.sent)) s.channel
  exchanges : calls.map (·.flight.exchange) =
    ch.script.exchanges ch.served (calls.map (·.flight.sent))
  backToBack : BackToBack ch.now calls s.channel.now
  count : s.totals.calls = calls.length
  total : s.totals.successes + s.totals.failures = calls.length
  successes : s.totals.successes =
    (s.collector.samples .search).size + (s.collector.samples .insert).size
  failures : s.totals.failures = s.collector.errors.search + s.collector.errors.insert
  samples : ∀ kind, (s.collector.samples kind).toList =
    (calls.filter (·.isOf kind accepted)).map (·.elapsed)
  insertErrors : s.collector.errors.insert = calls.countP (·.isOf .insert refused)
  searchErrors : s.collector.errors.search =
    calls.countP (·.isOf .search refused) + calls.countP (lost ·.flight.outcome)

theorem Solo.Books.finished {c : RunConfig} {i : Nat} {ch : Channel} {calls : List Landed}
    {s : Solo} (books : Solo.Books (.start c i ch) calls s) : Finished c i ch calls s := by
  have totals := books.totals
  rw [foldl_add] at totals
  have samples (kind : OperationKind) : (s.collector.samples kind).toList =
      (calls.filter (·.isOf kind accepted)).map (·.elapsed) := by
    rw [books.collector]
    exact (Collector.samples_empty_recordAll _ kind).trans (Landed.filterMap_sample? calls kind)
  have size (kind : OperationKind) :
      (s.collector.samples kind).size = calls.countP (·.isOf kind accepted) := by
    rw [← Array.length_toList, samples, List.length_map, List.countP_eq_length_filter]
  have errors (kind : OperationKind) :
      s.collector.errors.get kind = calls.countP (·.recording.failed kind) := by
    rw [books.collector]
    exact (Collector.errors_empty_recordAll _ kind).trans List.countP_map
  have split (kind : OperationKind) : s.collector.errors.get kind =
      calls.countP (·.isOf kind refused) +
        calls.countP fun k => kind = .search && lost k.flight.outcome := by
    rw [errors]
    exact countP_eq_add fun k _ => k.failed_recording kind
  refine ⟨books.requests, books.sent, books.exchanges, books.backToBack, ?_, ?_, ?_, ?_, samples,
    ?_, split .search⟩
  · rw [totals]
    exact Nat.zero_add _
  · rw [totals, calls.length_eq_countP_add_countP fun k => accepted k.flight.outcome]
    simp [start, Totals.zero]
  · rw [totals, size, size]
    refine (Nat.zero_add _).trans (countP_eq_add fun k _ => ?_)
    rw [Landed.isOf, Landed.isOf]
    cases k.flight.call.kind <;> cases accepted k.flight.outcome <;> rfl
  · have failed := countP_eq_add fun (k : Landed) (_ : k ∈ calls) => k.not_accepted
    rw [← errors, ← errors] at failed
    rw [totals]
    exact (Nat.zero_add _).trans failed
  · refine (split .insert).trans ?_
    simp

/-- A worker that is told to stop during its `n`-th call makes exactly `n` calls, the last one
completed and recorded like the others, and ends. Before its first call it makes none. -/
theorem stops_after_call (c : RunConfig) (i n : Nat) (ch : Channel) :
    (∀ s, (Solo.loop (n ≤ ·)).Ends (.start c i ch) s ↔ s = runAlone c i n ch) ∧
      ∃ calls, calls.length = n ∧ Finished c i ch calls (runAlone c i n ch) := by
  have fromStart : (Solo.start c i ch).totals.calls + n = n := Nat.zero_add n
  have run : runAlone c i n ch = Solo.step^[n] (.start c i ch) := by
    have stopped := run_until (Nat.lt_succ_self n) (.start c i ch)
    rw [fromStart] at stopped
    exact stopped
  refine ⟨fun s => ?_, (Solo.start c i ch).calls n, Solo.length_calls n _, ?_⟩
  · have ends : (Solo.loop ((Solo.start c i ch).totals.calls + n ≤ ·)).Ends (.start c i ch) s ↔
        s = Solo.step^[n] (.start c i ch) := Solo.ends_iff
    rw [fromStart] at ends
    rw [ends, run]
  · rw [run]
    exact (Solo.books_iterate n _).finished

end Worker

end LoadBench
