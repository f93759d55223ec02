import LoadBench.Proofs.Run.Steady

namespace LoadBench

open Http

namespace Http

def accepted : Outcome → Bool
  | .ok response => response.status < 400
  | .error _ => false

def refused : Outcome → Bool
  | .ok response => 400 ≤ response.status
  | .error _ => false

def lost : Outcome → Bool
  | .ok _ => false
  | .error _ => true

end Http

def tally (url : String) (sort : Outcome → Bool) (calls : List (Sent × Outcome)) : Nat :=
  calls.countP fun call => call.1.request.url = url && sort call.2

/-- Where the calls of a window are counted. A call without a response counts against searches,
whatever its kind. -/
structure Counted (c : RunConfig) (calls : List (Sent × Outcome)) (summary : RunSummary) : Prop where
  searches : Statistics.countOf summary.search = tally c.searchUrl accepted calls
  inserts : Statistics.countOf summary.insert = tally c.insertUrl accepted calls
  insertErrors : summary.errors.insert = tally c.insertUrl refused calls
  searchErrors :
    summary.errors.search = tally c.searchUrl refused calls + calls.countP (lost ·.2)
  total : Statistics.countOf summary.search + Statistics.countOf summary.insert +
    summary.errors.search + summary.errors.insert = calls.length

namespace Call

variable {c : RunConfig} {call : Call}

theorem Proper.url (proper : call.Proper c) : call.request.url = c.operationUrl call.kind := by
  obtain ⟨body, request⟩ := proper
  rw [request]
  rfl

theorem Proper.decide_url (proper : call.Proper c) (kind : OperationKind) :
    decide (call.request.url = c.operationUrl kind) = decide (call.kind = kind) := by
  rw [proper.url, decide_eq_decide]
  exact ⟨c.operationUrl_injective, fun same => by rw [same]⟩

end Call

namespace Landed

variable {c : RunConfig} {k : Landed}

theorem sampled (proper : k.flight.call.Proper c) (kind : OperationKind) :
    (k.recording.sample? kind).isSome =
      (decide (k.flight.call.request.url = c.operationUrl kind) && accepted k.flight.outcome) := by
  rw [proper.decide_url, recording]
  cases k.flight.outcome with
  | error fault => simp [Recording.sample?, accepted]
  | ok response =>
    by_cases error : 400 ≤ response.status
    · simp [Response.isError, Recording.sample?, accepted, error]
    · have below : response.status < 400 := by omega
      by_cases same : k.flight.call.kind = kind <;>
        simp [Response.isError, Recording.sample?, accepted, error, below, same]

theorem failed_insert (proper : k.flight.call.Proper c) :
    k.recording.failed .insert =
      (decide (k.flight.call.request.url = c.insertUrl) && refused k.flight.outcome) := by
  have url := proper.decide_url .insert
  rw [RunConfig.operationUrl] at url
  rw [url, recording]
  cases k.flight.outcome with
  | error fault => simp [Recording.failed, refused]
  | ok response =>
    by_cases error : 400 ≤ response.status <;>
      simp [Response.isError, Recording.failed, refused, error]

theorem failed_search (proper : k.flight.call.Proper c) :
    (k.recording.failed .search).toNat =
      (decide (k.flight.call.request.url = c.searchUrl) && refused k.flight.outcome).toNat +
        (lost k.flight.outcome).toNat := by
  have url := proper.decide_url .search
  rw [RunConfig.operationUrl] at url
  rw [url, recording]
  cases k.flight.outcome with
  | error fault => simp [Recording.failed, refused, lost]
  | ok response =>
    by_cases error : 400 ≤ response.status <;>
      simp [Response.isError, Recording.failed, refused, lost, error]

end Landed

theorem tally_landed (url : String) (sort : Outcome → Bool) (calls : List Landed) :
    tally url sort (calls.map (·.flight.exchange)) =
      calls.countP fun k => k.flight.call.request.url = url && sort k.flight.outcome := by
  rw [tally, List.countP_map]
  rfl

namespace Collector

variable {c : RunConfig} {calls : List Landed}

theorem size_samples (proper : ∀ k ∈ calls, k.flight.call.Proper c) (kind : OperationKind) :
    ((empty.recordAll (calls.map (·.recording))).samples kind).toList.length =
      tally (c.operationUrl kind) accepted (calls.map (·.flight.exchange)) := by
  rw [samples_empty_recordAll, List.length_filterMap_eq_countP, List.countP_map, tally_landed]
  refine List.countP_congr fun k member => ?_
  rw [Function.comp_apply, Landed.sampled (proper k member) kind]

theorem insert_errors (proper : ∀ k ∈ calls, k.flight.call.Proper c) :
    (empty.recordAll (calls.map (·.recording))).errors.insert =
      tally c.insertUrl refused (calls.map (·.flight.exchange)) := by
  refine (errors_empty_recordAll _ .insert).trans ?_
  rw [List.countP_map, tally_landed]
  refine List.countP_congr fun k member => ?_
  rw [Function.comp_apply, Landed.failed_insert (proper k member)]

theorem search_errors (proper : ∀ k ∈ calls, k.flight.call.Proper c) :
    (empty.recordAll (calls.map (·.recording))).errors.search =
      tally c.searchUrl refused (calls.map (·.flight.exchange)) +
        (calls.map (·.flight.exchange)).countP (lost ·.2) := by
  refine (errors_empty_recordAll _ .search).trans ?_
  rw [List.countP_map, tally_landed, List.countP_map]
  refine countP_eq_add fun k member => ?_
  rw [Function.comp_apply, Landed.failed_search (proper k member)]
  rfl

end Collector

theorem tally_perm {url : String} {sort : Outcome → Bool} {xs ys : List (Sent × Outcome)}
    (h : xs.Perm ys) : tally url sort xs = tally url sort ys :=
  h.countP_eq _

theorem one_count {c : RunConfig} {url : String} {kind : OperationKind}
    (known : url = c.operationUrl kind) (outcome : Outcome) :
    (decide (url = c.searchUrl) && accepted outcome).toNat +
      (decide (url = c.insertUrl) && accepted outcome).toNat +
      ((decide (url = c.searchUrl) && refused outcome).toNat + (lost outcome).toNat) +
      (decide (url = c.insertUrl) && refused outcome).toNat = 1 := by
  have differ := c.searchUrl_ne_insertUrl
  cases outcome with
  | error fault => simp [accepted, refused, lost]
  | ok response =>
    have either : response.status < 400 ↔ ¬400 ≤ response.status := by omega
    cases kind <;> simp only [RunConfig.operationUrl] at known <;>
      by_cases error : 400 ≤ response.status <;>
        simp [known, differ, differ.symm, accepted, refused, lost, either, error]

theorem tally_total {c : RunConfig} {calls : List (Sent × Outcome)}
    (known : ∀ call ∈ calls, ∃ kind, call.1.request.url = c.operationUrl kind) :
    tally c.searchUrl accepted calls + tally c.insertUrl accepted calls +
      (tally c.searchUrl refused calls + calls.countP (lost ·.2)) +
      tally c.insertUrl refused calls = calls.length := by
  induction calls with
  | nil => rfl
  | cons call rest ih =>
    obtain ⟨⟨kind, url⟩, others⟩ := List.forall_mem_cons.mp known
    have one := one_count url call.2
    specialize ih others
    simp only [tally, countP_cons_toNat, List.length_cons] at ih ⊢
    omega

theorem Window.Accounted.counted {c : RunConfig} {opened : Channel} {calls : List Landed}
    {w : Window} (books : Accounted c opened calls w) (stopped : w.waiting = []) (wall : Duration)
    {timed : List Sent} (exchanges : ((flights calls w).map (·.exchange)).Perm
      (opened.script.exchanges opened.served timed)) :
    Counted c (opened.script.exchanges opened.served timed)
      (RunSummary.ofRun c w.collector wall) := by
  have landed := flights_stopped stopped calls
  have proper : ∀ k ∈ calls, k.flight.call.Proper c := by
    intro k member
    have inside := List.mem_map_of_mem (f := (·.flight)) member
    exact books.proper _ (landed ▸ inside)
  rw [landed, List.map_map] at exchanges
  have successes (kind : OperationKind) :
      Statistics.countOf (w.collector.summarize kind wall) =
        tally (c.operationUrl kind) accepted (opened.script.exchanges opened.served timed) := by
    rw [Collector.summarize, Statistics.countOf_ofLatencies?, books.collector,
      Collector.size_samples proper]
    exact tally_perm exchanges
  have insertErrors : w.collector.errors.insert =
      tally c.insertUrl refused (opened.script.exchanges opened.served timed) := by
    rw [books.collector, Collector.insert_errors proper]
    exact tally_perm exchanges
  have searchErrors : w.collector.errors.search =
      tally c.searchUrl refused (opened.script.exchanges opened.served timed) +
        (opened.script.exchanges opened.served timed).countP (lost ·.2) := by
    rw [books.collector, Collector.search_errors proper]
    exact congr (congrArg _ (tally_perm exchanges)) (exchanges.countP_eq _)
  refine ⟨successes .search, successes .insert, insertErrors, searchErrors, ?_⟩
  have known : ∀ call ∈ opened.script.exchanges opened.served timed,
      ∃ kind, call.1.request.url = c.operationUrl kind := by
    intro call member
    obtain ⟨k, inside, rfl⟩ := List.mem_map.mp (exchanges.mem_iff.mpr member)
    exact ⟨_, (proper k inside).url⟩
  rw [← tally_total known, ← searchErrors, ← insertErrors]
  exact congrArg (· + _ + _) (congr (congrArg _ (successes .search)) (successes .insert))

/-- Of all requests that a run has sent, those of its setup are counted nowhere and the others, which
are its workers' calls, once each. -/
def Conserved (c : RunConfig) (ch later : Channel) (summary : RunSummary) : Prop :=
  ∃ setup timed, later.log.toList = ch.log.toList ++ (setup ++ timed) ∧
    setup.map (·.request) = c.setupRequests ∧
    (∀ s ∈ timed, ∃ kind body,
      s.request = .post (c.operationUrl kind) body c.requestTimeout) ∧
    Counted c (ch.script.exchanges (ch.served.after c.setupRequests) timed) summary

/-- Conservation over a whole run, whatever the service does and in whatever order the workers go
on. -/
theorem Course.conserved {c : RunConfig} {ch later : Channel} {summary : RunSummary}
    (h : Course c ch (some (.ok summary)) later) : Conserved c ch later summary := by
  cases h with
  | @returned opened calls w ended setup reached stopped _ _ =>
    have books := reached.accounted
    obtain ⟨timed, since, _, exchanges⟩ := books.sent
    obtain ⟨before, requests, setupSince⟩ := Channel.since_callAll c.setupRequests ch
    rw [← (setUp_ok setup).2] at setupSince
    have counted := books.counted stopped (ended - opened.now) exchanges
    rw [setupSince.script, setupSince.served, requests] at counted
    have log := (setupSince.trans since).log
    exact ⟨before, timed, log, requests, books.requests exchanges, counted⟩

theorem conserved_faulty : ∃ summary later,
    benchmark (busyRun .mixed) (.ofScript faultyService) = some (.ok summary, later) ∧
      summary.errors = ⟨4, 1⟩ ∧
      Conserved (busyRun .mixed) (.ofScript faultyService) later summary := by
  obtain ⟨summary, later, ran, errors⟩ := benchmark_busyRun_mixed
  exact ⟨summary, later, ran, errors, Course.conserved (benchmark_course ran)⟩

end LoadBench
