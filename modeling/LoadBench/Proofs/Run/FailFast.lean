import LoadBench.Proofs.Run.Setup
import LoadBench.Proofs.Run.Steps
import LoadBench.Proofs.Run.Accounts

namespace LoadBench

open Http

namespace Channel

def requests (ch : Channel) : List Request := ch.log.toList.map (·.request)

theorem Since.requests {a b : Channel} {sent : List Sent} (h : Since a sent b) :
    b.requests = a.requests ++ sent.map (·.request) := by
  rw [Channel.requests, h.log, List.map_append]
  rfl

end Channel

/-- A run that ends with a fault and nothing else, whatever its course. -/
structure FailsWith (c : RunConfig) (ch : Channel) (fault : RunFault) (later : Channel) : Prop where
  program : benchmark c ch = some (.error fault, later)
  courses : ∀ result after, Course c ch result after → result = some (.error fault) ∧ after = later

theorem failsWith_of_setUp {c : RunConfig} {ch later : Channel} {fault : RunFault}
    (h : setUp c ch = (.error fault, later)) : FailsWith c ch fault later where
  program := by rw [benchmark, h]
  courses result after course := by
    cases course with
    | failed setup =>
      rw [h] at setup
      cases setup
      exact ⟨rfl, rfl⟩
    | underWay setup =>
      rw [h] at setup
      cases setup
    | returned setup =>
      rw [h] at setup
      cases setup

/-- A run that gets as far as its window never ends with a fault, and what it sends then are its
workers' calls. -/
structure Proceeds (c : RunConfig) (opened : Channel)
    (result : Option (Except RunFault RunSummary)) (later : Channel) : Prop where
  result : ∀ fault, result ≠ some (.error fault)
  timed : ∃ timed, opened.Since timed later ∧ ∀ s ∈ timed, opened.now ≤ s.time ∧
    ∃ kind body, s.request = .post (c.operationUrl kind) body c.requestTimeout

theorem Window.Accounted.proceeds {c : RunConfig} {opened : Channel} {calls : List Landed}
    {w : Window} (books : Accounted c opened calls w)
    {result : Option (Except RunFault RunSummary)} (fine : ∀ fault, result ≠ some (.error fault)) :
    Proceeds c opened result w.channel := by
  obtain ⟨timed, since, times, exchanges⟩ := books.sent
  have requests := books.requests exchanges
  exact ⟨fine, timed, since, fun s member => ⟨times s member, requests s member⟩⟩

theorem Course.proceeds {c : RunConfig} {ch opened later : Channel}
    {result : Option (Except RunFault RunSummary)} (h : Course c ch result later)
    (setup : setUp c ch = (.ok (), opened)) : Proceeds c opened result later := by
  cases h with
  | failed failed =>
    rw [setup] at failed
    cases failed
  | underWay made reached =>
    rw [setup] at made
    cases made
    exact reached.accounted.proceeds fun fault same => by cases same
  | returned made reached _ _ _ =>
    rw [setup] at made
    cases made
    exact reached.accounted.proceeds fun fault same => by cases same

theorem Course.ne_invalid {c : RunConfig} {ch later : Channel}
    {result : Option (Except RunFault RunSummary)} (h : Course c ch result later)
    (valid : c.fault? = none) (broken : RunConfig.Fault) :
    result ≠ some (.error (.invalid broken)) := by
  rintro rfl
  cases h with
  | failed refused => exact setUp_ne_invalid valid ch broken (congrArg Prod.fst refused)

theorem benchmark_proceeds {c : RunConfig} {ch opened later : Channel}
    {result : Except RunFault RunSummary} (setup : setUp c ch = (.ok (), opened))
    (ran : benchmark c ch = some (result, later)) :
    ∃ summary, result = .ok summary ∧ Proceeds c opened (some result) later := by
  have proceeds := (benchmark_course ran).proceeds setup
  cases result with
  | error fault => exact absurd rfl (proceeds.result fault)
  | ok summary => exact ⟨summary, rfl, proceeds⟩

end LoadBench
