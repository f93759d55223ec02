import LoadBench.Proofs.Config.Run
import LoadBench.Proofs.Random.Draws
import LoadBench.Proofs.Run.Conservation
import LoadBench.Proofs.Run.FailFast
import LoadBench.Proofs.Run.Independence

namespace LoadBench

open Http Binary64

namespace OperationKind

variable {c : RunConfig}

theorem next_search (mode : c.mode = .search) (source : VectorSource) :
    (next c source).1 = .search := by
  rw [next, mode]

theorem next_insert (mode : c.mode = .insert) (source : VectorSource) :
    (next c source).1 = .insert := by
  rw [next, mode]

theorem next_mixed (mode : c.mode = .mixed) (source : VectorSource) :
    next c source = (select .mixed c.searchRatio c.insertRatio source.unit.1, source.unit.2) := by
  rw [next, mode]

theorem select_eq_insert_iff {searches inserts draw : Binary64} (share : searches.isNaN = false)
    (number : draw.isNaN = false) :
    select .mixed searches inserts draw = .insert ↔
      searches.le draw = true ∧ draw.lt (searches.add inserts) = true := by
  simp only [select, lt_eq_not_le number share]
  cases searches.le draw <;> cases draw.lt (searches.add inserts) <;> simp

end OperationKind

namespace Draw

def kind : Draw → OperationKind
  | search _ => .search
  | insert _ _ _ => .insert

def ofKind (kind : OperationKind) (source : VectorSource) : Draw × VectorSource :=
  match kind with
  | .search => (.search source.vector.1, source.vector.2)
  | .insert =>
    let suffix := source.insertSuffix
    let vector := suffix.2.vector
    let metadata := Metadata.random vector.2
    (.insert suffix.1 vector.1 metadata.1, metadata.2)

theorem next_eq (c : RunConfig) (source : VectorSource) :
    next c source = ofKind (OperationKind.next c source).1 (OperationKind.next c source).2 := by
  rw [next]
  cases (OperationKind.next c source).1 <;> rfl

theorem kind_ofKind (kind : OperationKind) (source : VectorSource) :
    (ofKind kind source).1.kind = kind := by
  cases kind <;> rfl

theorem kind_next (c : RunConfig) (source : VectorSource) :
    (next c source).1.kind = (OperationKind.next c source).1 := by
  rw [next_eq, kind_ofKind]

theorem kind_of_mem_draws {c : RunConfig} {only : OperationKind}
    (always : ∀ source, (OperationKind.next c source).1 = only) (n : Nat) (source : VectorSource) :
    ∀ draw ∈ draws c n source, draw.kind = only := by
  induction n generalizing source with
  | zero => exact fun _ member => (List.not_mem_nil member).elim
  | succ n ih =>
    refine List.forall_mem_cons.mpr ⟨?_, ih _⟩
    rw [kind_next, always]

theorem url_request (c : RunConfig) (i : Nat) (draw : Draw) :
    (draw.request c i).url = c.operationUrl draw.kind := by
  cases draw <;> rfl

/-- One operation in mixed mode: one number in [0, 1) is drawn for it, then what its payload is made
of. It is an insert if the number is beyond the searches' share and within the inserts' above it. -/
structure Mixed (c : RunConfig) (source : VectorSource) : Prop where
  fraction : ∃ k < 2 ^ 53, source.unit.1.IsFraction k 53
  next : ∃ kind, next c source = ofKind kind source.unit.2 ∧
    (kind = .insert ↔ c.searchRatio.le source.unit.1 = true ∧
      source.unit.1.lt (c.searchRatio.add c.insertRatio) = true)

theorem mixed {c : RunConfig} (valid : c.fault? = none) (mode : c.mode = .mixed)
    (source : VectorSource) : Mixed c source := by
  obtain ⟨k, proper, fraction⟩ := source.unit_fraction
  have share := RunConfig.isShare_isNaN (RunConfig.searchRatio_isShare valid)
  refine ⟨⟨k, proper, fraction⟩, _, ?_, OperationKind.select_eq_insert_iff share
    fraction.nonnegative.isNaN⟩
  rw [next_eq, OperationKind.next_mixed mode]

end Draw

namespace OperationKind

variable {c : RunConfig}

theorem next_allSearches (mode : c.mode = .mixed) (whole : c.searchRatio = Binary64.ofNat 1)
    (source : VectorSource) : (next c source).1 = .search := by
  obtain ⟨k, proper, fraction⟩ := source.unit_fraction
  rw [next_mixed mode, whole, select, if_pos (fraction.lt_one proper)]

theorem next_allInserts (mode : c.mode = .mixed) (nothing : c.searchRatio.isZero = true)
    (whole : c.insertRatio = Binary64.ofNat 1) (source : VectorSource) :
    (next c source).1 = .insert := by
  obtain ⟨k, proper, fraction⟩ := source.unit_fraction
  have beyond : source.unit.1.lt c.searchRatio = false :=
    not_lt_of_isZero fraction.nonnegative nothing
  rw [next_mixed mode, whole, select, beyond, add_one_of_isZero nothing, fraction.lt_one proper]
  rfl

end OperationKind

/-- How the mode of a run confines the calls of its workers, and with them its summary. Each call goes
with the index of its worker. -/
structure Confined (c : RunConfig) (opened : Channel) (timed : List (Nat × Sent))
    (result : Option (Except RunFault RunSummary)) : Prop where
  workers : (∀ s ∈ timed, s.1 < c.concurrency) ∧ ∀ i < c.concurrency, ∃ n,
    (timed.filter (·.1 = i)).map (·.2.request) =
      (Draw.draws c n (.forWorker c.seed i c.dimensions)).map (·.request c i)
  search : c.mode = .search →
    (∀ s ∈ timed, s.2.request.url = c.searchUrl) ∧
    ∀ summary, result = some (.ok summary) → summary.insert = none ∧ summary.errors.insert = 0
  insert : c.mode = .insert →
    (∀ s ∈ timed, s.2.request.url = c.insertUrl) ∧
    ∀ summary, result = some (.ok summary) → summary.search = none ∧
      summary.errors.search =
        (opened.script.exchanges opened.served (timed.map (·.2))).countP (lost ·.2)
  allSearches : c.mode = .mixed → c.searchRatio = ofNat 1 → c.insertRatio.isZero = true →
    ∀ s ∈ timed, s.2.request.url = c.searchUrl
  allInserts : c.mode = .mixed → c.searchRatio.isZero = true → c.insertRatio = ofNat 1 →
    ∀ s ∈ timed, s.2.request.url = c.insertUrl
  mixed : c.mode = .mixed → ∀ source, Draw.Mixed c source

section

variable {c : RunConfig} {ch opened later : Channel} {timed : List (Nat × Sent)}
  {result : Option (Except RunFault RunSummary)}

theorem exists_draw (known : ∀ s ∈ timed, s.1 < c.concurrency)
    (shares : ∀ i < c.concurrency, ∃ n, (timed.filter (·.1 = i)).map (·.2.request) =
      (Draw.draws c n (.forWorker c.seed i c.dimensions)).map (·.request c i)) :
    ∀ s ∈ timed, ∃ n, ∃ draw ∈ Draw.draws c n (.forWorker c.seed s.1 c.dimensions),
      s.2.request = draw.request c s.1 := by
  intro s member
  obtain ⟨n, share⟩ := shares s.1 (known s member)
  have own : s ∈ timed.filter (·.1 = s.1) := List.mem_filter.mpr ⟨member, decide_eq_true rfl⟩
  have inside := List.mem_map_of_mem (f := fun s : Nat × Sent => s.2.request) own
  rw [share] at inside
  obtain ⟨draw, drawn, request⟩ := List.mem_map.mp inside
  exact ⟨n, draw, drawn, request.symm⟩

theorem Course.shares (setup : setUp c ch = (.ok (), opened)) (course : Course c ch result later) :
    ∃ timed : List (Nat × Sent), opened.Since (timed.map (·.2)) later ∧
      (∀ s ∈ timed, s.1 < c.concurrency) ∧
      ∀ i < c.concurrency, ∃ n, (timed.filter (·.1 = i)).map (·.2.request) =
        (Draw.draws c n (.forWorker c.seed i c.dimensions)).map (·.request c i) := by
  obtain ⟨timed, since, known, sends⟩ :=
    Worker.course_sends (c := c) (k := c.concurrency) setup course
  refine ⟨timed, since, known, fun i inside => ?_⟩
  have stream := (sends i inside).stream
  rw [Worker.requests_draws] at stream
  exact ⟨_, stream⟩

theorem Course.sends (course : Course c ch result later) :
    ∃ (setup : List Sent) (timed : List (Nat × Sent)),
      ch.Since (setup ++ timed.map (·.2)) later ∧ setup.map (·.request) <+: c.setupRequests ∧
      (∀ s ∈ timed, s.1 < c.concurrency) ∧
      ∀ i < c.concurrency, ∃ n, (timed.filter (·.1 = i)).map (·.2.request) =
        (Draw.draws c n (.forWorker c.seed i c.dimensions)).map (·.request c i) := by
  obtain ⟨setup, prepared, front⟩ := since_setUp c ch
  rcases made : setUp c ch with ⟨outcome, opened⟩
  rw [made] at prepared
  cases outcome with
  | error fault =>
    obtain ⟨_, rfl⟩ := (failsWith_of_setUp made).courses result later course
    refine ⟨setup, [], ?_, front, fun _ member => (List.not_mem_nil member).elim,
      fun i _ => ⟨0, rfl⟩⟩
    rw [List.map_nil, List.append_nil]
    exact prepared
  | ok =>
    obtain ⟨timed, since, known, shares⟩ := course.shares made
    exact ⟨setup, timed, prepared.trans since, front, known, shares⟩

theorem Course.counted {summary : RunSummary} (setup : setUp c ch = (.ok (), opened))
    (course : Course c ch (some (.ok summary)) later) {sent : List Sent}
    (since : opened.Since sent later) :
    Counted c (opened.script.exchanges opened.served sent) summary ∧
      (Statistics.countOf summary.search = 0 → summary.search = none) ∧
      (Statistics.countOf summary.insert = 0 → summary.insert = none) := by
  cases course with
  | @returned start calls w ended made reached stopped _ _ =>
    rw [setup] at made
    cases made
    have books := reached.accounted
    obtain ⟨other, sinceOther, _, exchanges⟩ := books.sent
    rw [sinceOther.unique since] at exchanges
    exact ⟨books.counted stopped (ended - opened.now) exchanges,
      Statistics.eq_none_of_countOf, Statistics.eq_none_of_countOf⟩

theorem tally_eq_zero {url : String} {sort : Outcome → Bool} {calls : List (Sent × Outcome)}
    (elsewhere : ∀ call ∈ calls, call.1.request.url ≠ url) : tally url sort calls = 0 := by
  refine List.countP_eq_zero.mpr fun call member counted => ?_
  rw [Bool.and_eq_true, decide_eq_true_eq] at counted
  exact elsewhere call member counted.1

theorem tally_exchanges_eq_zero {url other : String} (differ : url ≠ other)
    (alike : ∀ s ∈ timed, s.2.request.url = url) (sort : Outcome → Bool) :
    tally other sort (opened.script.exchanges opened.served (timed.map (·.2))) = 0 := by
  refine tally_eq_zero fun call member => ?_
  have sent := List.mem_map_of_mem (f := (·.1)) member
  rw [Script.map_fst_exchanges] at sent
  obtain ⟨s, inside, same⟩ := List.mem_map.mp sent
  rw [← same, alike s inside]
  exact differ

/-- The mode of a run confines its traffic, whatever the service does and in whatever order the
workers go on, for as long as the window is open and when it has closed. -/
theorem Course.confined (setup : setUp c ch = (.ok (), opened))
    (course : Course c ch result later) :
    ∃ timed, opened.Since (timed.map (·.2)) later ∧ Confined c opened timed result := by
  obtain ⟨valid, _⟩ := setUp_ok setup
  obtain ⟨timed, since, known, shares⟩ := course.shares setup
  have differ := c.searchUrl_ne_insertUrl
  have urls {only : OperationKind} (always : ∀ source, (OperationKind.next c source).1 = only) :
      ∀ s ∈ timed, s.2.request.url = c.operationUrl only := by
    intro s member
    obtain ⟨n, draw, drawn, request⟩ := exists_draw known shares s member
    rw [request, Draw.url_request, Draw.kind_of_mem_draws always n _ draw drawn]
  refine ⟨timed, since, ⟨known, shares⟩, fun mode => ?_, fun mode => ?_, fun mode whole _ => ?_,
    fun mode nothing whole => ?_, Draw.mixed valid⟩
  · have searches := urls (OperationKind.next_search mode)
    refine ⟨searches, ?_⟩
    rintro summary rfl
    obtain ⟨counted, _, nothing⟩ := course.counted setup since
    refine ⟨nothing ?_, ?_⟩
    · rw [counted.inserts]
      exact tally_exchanges_eq_zero differ searches _
    · rw [counted.insertErrors]
      exact tally_exchanges_eq_zero differ searches _
  · have inserts := urls (OperationKind.next_insert mode)
    refine ⟨inserts, ?_⟩
    rintro summary rfl
    obtain ⟨counted, nothing, _⟩ := course.counted setup since
    refine ⟨nothing ?_, ?_⟩
    · rw [counted.searches]
      exact tally_exchanges_eq_zero differ.symm inserts _
    · rw [counted.searchErrors, tally_exchanges_eq_zero differ.symm inserts, Nat.zero_add]
  · exact urls (OperationKind.next_allSearches mode whole)
  · exact urls (OperationKind.next_allInserts mode nothing whole)

theorem confined_inserts :
    ∃ timed summary later,
      setUp (busyRun .insert) (.ofScript faultyService) = (.ok (), busyOpened .insert) ∧
      benchmark (busyRun .insert) (.ofScript faultyService) = some (.ok summary, later) ∧
      (busyOpened .insert).Since (timed.map (·.2)) later ∧
      Confined (busyRun .insert) (busyOpened .insert) timed (some (.ok summary)) ∧
      summary.search = none ∧ summary.errors = ⟨2, 3⟩ := by
  have setup := setUp_busyRun .insert
  obtain ⟨summary, later, ran, errors⟩ := benchmark_busyRun_insert
  obtain ⟨timed, since, confined⟩ := Course.confined setup (benchmark_course ran)
  have unsearched := ((confined.insert rfl).2 _ rfl).1
  exact ⟨timed, summary, later, setup, ran, since, confined, unsearched, errors⟩

end

end LoadBench
