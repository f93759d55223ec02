import LoadBench.Proofs.Service
import LoadBench.Run.Benchmark

namespace LoadBench

open Http

inductive SetupCall where
  | drop
  | create
  | batch (vectors : List StoredVector)

namespace SetupCall

def request (c : RunConfig) : SetupCall → Request
  | drop => c.dropRequest
  | create => c.createRequest
  | batch vectors => Prefill.request c vectors

/-- What an outcome of the call ends the run with, if it is fatal. -/
def fault? : SetupCall → Outcome → Option RunFault
  | _, .error fault => some (.transport fault)
  | drop, .ok _ => none
  | create, .ok response => if 400 ≤ response.status then some (.ofCreate response) else none
  | batch _, .ok response => if 400 ≤ response.status then some (.ofPrefill response) else none

def makeAll (c : RunConfig) : List SetupCall → Channel → Except RunFault Unit × Channel
  | [], ch => (.ok (), ch)
  | call :: rest, ch =>
    match call.fault? (ch.call (call.request c)).1 with
    | some fault => (.error fault, (ch.call (call.request c)).2)
    | none => makeAll c rest (ch.call (call.request c)).2

end SetupCall

namespace RunConfig

def setupCalls (c : RunConfig) : List SetupCall :=
  .drop :: .create :: (Prefill.allBatches c).map .batch

def setupRequests (c : RunConfig) : List Request := c.setupCalls.map (·.request c)

end RunConfig

theorem sendAll_makeAll (c : RunConfig) (done : Prefill.Totals) (batches : List (List StoredVector))
    (ch : Channel) :
    ((Prefill.sendAll c done batches ch).1.map fun _ => (),
      (Prefill.sendAll c done batches ch).2.2) =
      SetupCall.makeAll c (batches.map .batch) ch := by
  induction batches generalizing done ch with
  | nil => rfl
  | cons batch rest ih =>
    simp only [Prefill.sendAll, List.map_cons, SetupCall.makeAll, SetupCall.request]
    rcases ch.call (Prefill.request c batch) with ⟨outcome, later⟩
    cases outcome with
    | error fault => rfl
    | ok response =>
      by_cases fatal : 400 ≤ response.status
      · simp [SetupCall.fault?, Response.isError, fatal, Except.map]
      · simp [SetupCall.fault?, Response.isError, fatal, ih]

theorem prefill_makeAll (c : RunConfig) (ch : Channel) :
    ((prefill c ch).1.map fun _ => (), (prefill c ch).2.2) =
      SetupCall.makeAll c ((Prefill.allBatches c).map .batch) ch := by
  unfold prefill
  split
  · rename_i nothing
    have count : Prefill.batchCount 0 c.batchSize = 0 := by
      simp only [Prefill.batchCount]
      exact Nat.div_eq_of_lt (by omega)
    have unbatched : Prefill.allBatches c = [] := by
      rw [Prefill.allBatches, nothing, count]
      rfl
    rw [unbatched]
    rfl
  · exact sendAll_makeAll c ⟨0, 0⟩ (Prefill.allBatches c) ch

theorem setUp_makeAll {c : RunConfig} (valid : c.fault? = none) (ch : Channel) :
    setUp c ch = SetupCall.makeAll c c.setupCalls ch := by
  have batches := fun ch => prefill_makeAll c ch
  simp only [setUp, valid, recreate, RunConfig.setupCalls, SetupCall.makeAll, SetupCall.request]
  rcases ch.call c.dropRequest with ⟨dropped, ch⟩
  cases dropped with
  | error fault => rfl
  | ok response =>
    simp only [SetupCall.fault?]
    rcases ch.call c.createRequest with ⟨created, ch⟩
    cases created with
    | error fault => rfl
    | ok response =>
      by_cases fatal : 400 ≤ response.status
      · simp [Response.isError, fatal]
      · simp only [Response.isError, fatal, decide_false, Bool.false_eq_true, if_false, ← batches]
        rcases prefill c ch with ⟨result, progress, ch⟩
        cases result <;> rfl

theorem makeAll_cases (c : RunConfig) (calls : List SetupCall) (ch : Channel) :
    let exchanges := calls.zip (ch.script.outcomes ch.served (calls.map (·.request c)))
    (∃ before failing after fault, exchanges = before ++ failing :: after ∧
      (∀ x ∈ before, x.1.fault? x.2 = none) ∧ failing.1.fault? failing.2 = some fault ∧
      SetupCall.makeAll c calls ch =
        (.error fault, ch.callAll ((before ++ [failing]).map (·.1.request c)))) ∨
    ((∀ x ∈ exchanges, x.1.fault? x.2 = none) ∧
      SetupCall.makeAll c calls ch = (.ok (), ch.callAll (calls.map (·.request c)))) := by
  induction calls generalizing ch with
  | nil => exact .inr ⟨fun _ member => (List.not_mem_nil member).elim, rfl⟩
  | cons call rest ih =>
    have since := Channel.since_call (call.request c) ch
    specialize ih (ch.call (call.request c)).2
    rw [since.script, since.served] at ih
    simp only [List.map_cons, Script.outcomes, List.zip_cons_cons, SetupCall.makeAll,
      Channel.call_outcome]
    generalize ch.script.outcome ch.served (call.request c) = outcome
    cases fatal : call.fault? outcome with
    | some fault =>
      exact .inl ⟨[], (call, outcome), _, fault, rfl, fun _ h => (List.not_mem_nil h).elim, fatal, rfl⟩
    | none =>
      rcases ih with ⟨before, failing, after, fault, split, passed, failed, made⟩ | ⟨passed, made⟩
      · refine .inl ⟨(call, outcome) :: before, failing, after, fault, ?_, ?_, failed, made⟩
        · rw [List.cons_append, ← split]
          rfl
        · exact List.forall_mem_cons.mpr ⟨fatal, passed⟩
      · exact .inr ⟨List.forall_mem_cons.mpr ⟨fatal, passed⟩, made⟩

theorem SetupCall.fault?_ne_invalid (call : SetupCall) (outcome : Outcome)
    (broken : RunConfig.Fault) : call.fault? outcome ≠ some (.invalid broken) := by
  cases outcome with
  | error fault => cases call <;> simp [fault?]
  | ok response =>
    cases call <;> simp only [fault?, RunFault.ofCreate, RunFault.ofPrefill]
    all_goals grind

theorem setUp_ne_invalid {c : RunConfig} (valid : c.fault? = none) (ch : Channel)
    (broken : RunConfig.Fault) : (setUp c ch).1 ≠ .error (.invalid broken) := by
  rw [setUp_makeAll valid]
  rcases makeAll_cases c c.setupCalls ch with ⟨_, failing, _, fault, _, _, fatal, made⟩ | ⟨_, made⟩
  · rw [made]
    rintro same
    cases same
    exact SetupCall.fault?_ne_invalid failing.1 failing.2 broken fatal
  · rw [made]
    nofun

theorem setUp_ok {c : RunConfig} {ch opened : Channel} (h : setUp c ch = (.ok (), opened)) :
    c.fault? = none ∧ opened = ch.callAll c.setupRequests := by
  cases checked : c.fault? with
  | some fault =>
    simp only [setUp, checked] at h
    cases h
  | none =>
    rw [setUp_makeAll checked] at h
    rcases makeAll_cases c c.setupCalls ch with ⟨_, _, _, _, _, _, _, made⟩ | ⟨_, made⟩
    · rw [made] at h
      cases h
    · rw [made] at h
      cases h
      exact ⟨rfl, rfl⟩

theorem setUp_of_accepted {c : RunConfig} {ch : Channel}
    (accepted : (setUp c ch).1.toBool = true) :
    setUp c ch = (.ok (), ch.callAll c.setupRequests) := by
  rcases made : setUp c ch with ⟨_ | _, opened⟩
  · rw [made] at accepted
    cases accepted
  · rw [(setUp_ok made).2]

theorem since_setUp (c : RunConfig) (ch : Channel) :
    ∃ sent, ch.Since sent (setUp c ch).2 ∧ sent.map (·.request) <+: c.setupRequests := by
  cases checked : c.fault? with
  | some fault =>
    rw [setUp, checked]
    exact ⟨[], .refl ch, List.nil_prefix⟩
  | none =>
    rw [setUp_makeAll checked]
    rcases makeAll_cases c c.setupCalls ch with
      ⟨before, failing, after, fault, split, _, _, made⟩ | ⟨_, made⟩
    · have length : (ch.script.outcomes ch.served (c.setupCalls.map (·.request c))).length =
          c.setupCalls.length := by rw [Script.length_outcomes, List.length_map]
      have calls := List.map_fst_zip (Nat.le_of_eq length.symm)
      have parts := congrArg (List.map (·.request c)) calls
      rw [split, List.append_cons, List.map_append, List.map_append, List.map_map,
        List.map_map] at parts
      obtain ⟨sent, requests, since⟩ :=
        Channel.since_callAll ((before ++ [failing]).map (·.1.request c)) ch
      refine ⟨sent, ?_, after.map (·.1.request c), ?_⟩
      · simp only [made]
        exact since
      · rw [requests]
        exact parts
    · obtain ⟨sent, requests, since⟩ :=
        Channel.since_callAll (c.setupCalls.map (·.request c)) ch
      refine ⟨sent, ?_, ?_⟩
      · simp only [made]
        exact since
      · rw [requests]
        exact List.prefix_refl _

theorem setUp_of_accepting {c : RunConfig} (valid : c.fault? = none) {ch : Channel}
    (accepting : ∀ route n, ∃ response, (ch.script route n).reply = .ok response ∧
      response.status < 400) :
    setUp c ch = (.ok (), ch.callAll c.setupRequests) := by
  rw [setUp_makeAll valid]
  rcases makeAll_cases c c.setupCalls ch with ⟨before, failing, after, fault, split, _, fatal, _⟩ | made
  · have inside : failing ∈ c.setupCalls.zip
        (ch.script.outcomes ch.served (c.setupCalls.map (·.request c))) := by
      rw [split]
      simp
    obtain ⟨served, request, outcome⟩ := Script.of_mem_outcomes (List.of_mem_zip inside).2
    obtain ⟨response, reply, accepted⟩ :=
      accepting (Route.of request) (served.count (Route.of request))
    rw [outcome, Script.outcome, Script.answer, Answer.outcome, reply] at fatal
    have below : ¬400 ≤ response.status := by omega
    cases h : failing.1 <;> simp [h, SetupCall.fault?, below] at fatal
  · exact made.2

end LoadBench
