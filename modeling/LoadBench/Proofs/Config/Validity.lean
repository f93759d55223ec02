import LoadBench.Config.Source
import LoadBench.Proofs.Binary64.Value
import LoadBench.Proofs.Config.Run
import LoadBench.Proofs.Config.Scenarios

namespace LoadBench

open Binary64

namespace RunConfig

theorem isShare_iff (x : Binary64) : isShare x = true ↔ x.IsPart := by
  rw [isShare, Bool.and_eq_true, isPart_iff]

theorem isFinite_greatestTotal : greatestTotal.isFinite = true := by decide +kernel

theorem value_greatestTotal : greatestTotal.value = 1 + 1 / 2 ^ 52 := by
  obtain ⟨scale, positive, units, whole⟩ : ∃ scale : Nat, 0 < scale ∧
      greatestTotal.signedUnits = (scale * (2 ^ 52 + 1) : Nat) ∧ one = scale * 2 ^ 52 :=
    ⟨2 ^ 1022, Nat.two_pow_pos 1022, by decide +kernel, by decide +kernel⟩
  have nonzero : (scale : ℚ) ≠ 0 := by exact_mod_cast positive.ne'
  rw [value, units, whole]
  push_cast
  field_simp
  norm_num

/-- What a run may be asked for. The shares are added as doubles, so their total may be one unit in the
last place above one. -/
structure Valid (c : RunConfig) : Prop where
  baseUrl : c.baseUrl ≠ ""
  collection : c.collection ≠ ""
  dimensions : 0 < c.dimensions
  batchSize : 0 < c.batchSize
  durationSecs : 0 < c.durationSecs
  concurrency : 0 < c.concurrency
  searchK : 0 < c.searchK
  requestTimeoutSecs : 0 < c.requestTimeoutSecs
  searchRatio : c.searchRatio.IsPart
  insertRatio : c.insertRatio.IsPart
  total : (c.searchRatio.add c.insertRatio).isFinite = true ∧
    (c.searchRatio.add c.insertRatio).value ≤ 1 + 1 / 2 ^ 52

theorem total_iff {x y : Binary64} (hx : x.IsPart) (hy : y.IsPart) :
    greatestTotal.lt (x.add y) = false ↔
      (x.add y).isFinite = true ∧ (x.add y).value ≤ 1 + 1 / 2 ^ 52 := by
  have finite := hx.isFinite_add hy
  rw [lt_eq_not_le (not_isNaN_of_isFinite isFinite_greatestTotal) (not_isNaN_of_isFinite finite),
    Bool.not_eq_false', le_iff_value finite isFinite_greatestTotal, value_greatestTotal]
  exact (and_iff_right finite).symm

theorem fault?_eq_none_iff (c : RunConfig) : c.fault? = none ↔ c.Valid := by
  rw [fault?, Option.map_eq_none_iff, List.find?_eq_none]
  simp only [rules, List.forall_mem_cons, Bool.not_eq_true, decide_eq_false_iff_not,
    Bool.not_eq_false', isShare_iff, List.not_mem_nil, false_imp_iff, implies_true, and_true]
  constructor
  · rintro ⟨baseUrl, collection, dimensions, batchSize, durationSecs, concurrency, searchK,
      requestTimeoutSecs, searches, inserts, total⟩
    exact ⟨baseUrl, collection, Nat.pos_of_ne_zero dimensions, Nat.pos_of_ne_zero batchSize,
      Nat.pos_of_ne_zero durationSecs, Nat.pos_of_ne_zero concurrency, Nat.pos_of_ne_zero searchK,
      Nat.pos_of_ne_zero requestTimeoutSecs, searches, inserts,
      (total_iff searches inserts).mp total⟩
  · intro valid
    exact ⟨valid.baseUrl, valid.collection, valid.dimensions.ne', valid.batchSize.ne',
      valid.durationSecs.ne', valid.concurrency.ne', valid.searchK.ne',
      valid.requestTimeoutSecs.ne', valid.searchRatio, valid.insertRatio,
      (total_iff valid.searchRatio valid.insertRatio).mpr valid.total⟩

end RunConfig

structure ServerConfig.Valid (server : ServerConfig) : Prop where
  startCommand : ∃ c ∈ server.startCommand.toList, Text.isBlank c = false
  startupTimeoutSecs : 0 < server.startupTimeoutSecs
  healthPath : server.healthPath.toList.head? = some '/'

namespace SessionConfig

structure Valid (c : SessionConfig) : Prop where
  server : c.server.Valid
  named : ∀ s ∈ c.traffic.scenarios, ProperName s.name
  distinct : (c.traffic.scenarios.map (·.name)).Nodup
  runs : ∀ s ∈ c.traffic.scenarios, (c.run s).Valid

/-- How a scenario offends, given those before it, and what is said of it. -/
inductive Offends (c : SessionConfig) (earlier : List Scenario) (s : Scenario) : String → Prop
  | unnamed : ¬ProperName s.name → Offends c earlier s ("invalid scenario name '" ++ s.name ++ "'")
  | repeated : ProperName s.name → s.name ∈ earlier.map (·.name) →
      Offends c earlier s ("duplicate scenario name '" ++ s.name ++ "'")
  | rejected {fault : RunConfig.Fault} : ProperName s.name → s.name ∉ earlier.map (·.name) →
      (c.run s).fault? = some fault →
        Offends c earlier s ("scenario '" ++ s.name ++ "': " ++ fault.message)

theorem serverFault?_eq_none_iff (server : ServerConfig) :
    serverFault? server = none ↔ server.Valid := by
  have command : Text.allBlank server.startCommand = false ↔
      ∃ c ∈ server.startCommand.toList, Text.isBlank c = false := by
    simp only [Text.allBlank, List.all_eq_false, Bool.not_eq_true]
  have path : server.healthPath.startsWith "/" = true ↔
      server.healthPath.toList.head? = some '/' := startsWith_iff rfl server.healthPath
  constructor
  · intro sound
    rw [serverFault?] at sound
    split at sound
    · cases sound
    · rename_i visible
      split at sound
      · cases sound
      · rename_i time
        split at sound
        · cases sound
        · rename_i rooted
          rw [Bool.not_eq_true, Bool.not_eq_false'] at rooted
          exact ⟨command.mp (Bool.eq_false_iff.mpr visible), Nat.pos_of_ne_zero time,
            path.mp rooted⟩
  · intro valid
    rw [serverFault?, command.mpr valid.startCommand, path.mpr valid.healthPath,
      if_neg Bool.false_ne_true, if_neg valid.startupTimeoutSecs.ne', if_neg]
    exact Bool.false_ne_true

theorem keeps_iff (c : SessionConfig) :
    Keeps c [] c.traffic.scenarios ↔ (∀ s ∈ c.traffic.scenarios, ProperName s.name) ∧
      (c.traffic.scenarios.map (·.name)).Nodup ∧ ∀ s ∈ c.traffic.scenarios, (c.run s).Valid := by
  simp only [← isName_iff, ← RunConfig.fault?_eq_none_iff]
  exact ⟨fun keeps => ⟨keeps.named, keeps.distinct, keeps.valid⟩,
    fun h => ⟨h.1, fun _ _ => List.not_mem_nil, h.2.1, h.2.2⟩⟩

theorem fault?_eq_none_iff (c : SessionConfig) : c.fault? = none ↔ c.Valid := by
  rw [fault?_eq_none_iff_keeps, serverFault?_eq_none_iff, keeps_iff]
  constructor
  · rintro ⟨server, named, distinct, runs⟩
    exact ⟨server, named, distinct, runs⟩
  · intro valid
    exact ⟨valid.server, valid.named, valid.distinct, valid.runs⟩

theorem Valid.perm {c : SessionConfig} (valid : c.Valid) {scenarios : List Scenario}
    (same : scenarios.Perm c.traffic.scenarios) :
    Valid { c with traffic := { c.traffic with scenarios } } where
  server := valid.server
  named s member := valid.named s (same.mem_iff.mp member)
  distinct := (same.map (·.name)).nodup_iff.mpr valid.distinct
  runs s member := valid.runs s (same.mem_iff.mp member)

theorem offends_iff (c : SessionConfig) (earlier : List Scenario) (s : Scenario)
    (message : String) :
    c.Offends earlier s message ↔
      ∃ fault, c.offence? (earlier.map (·.name)).reverse s = some fault ∧
        fault.message = message := by
  have contains : (earlier.map (·.name)).reverse.contains s.name = true ↔
      s.name ∈ earlier.map (·.name) := by
    rw [List.contains_iff_mem, List.mem_reverse]
  have unnamed : (!isName s.name) = true ↔ ¬ProperName s.name := by
    rw [Bool.not_eq_true', ← Bool.not_eq_true, isName_iff]
  have legible : ¬(!isName s.name) = true ↔ ProperName s.name := unnamed.not.trans not_not
  simp only [offence?, contains]
  constructor
  · intro offends
    cases offends with
    | unnamed bad => exact ⟨_, if_pos (unnamed.mpr bad), rfl⟩
    | repeated named again =>
      rw [if_neg (legible.mpr named), if_pos again]
      exact ⟨_, rfl, rfl⟩
    | rejected named fresh fault =>
      rw [if_neg (legible.mpr named), if_neg fresh, fault]
      exact ⟨_, rfl, rfl⟩
  · rintro ⟨fault, found, rfl⟩
    split at found
    · rename_i bad
      cases found
      exact .unnamed (unnamed.mp bad)
    · rename_i named
      split at found
      · rename_i again
        cases found
        exact .repeated (legible.mp named) again
      · rename_i fresh
        obtain ⟨broken, rejected, rfl⟩ := Option.map_eq_some_iff.mp found
        exact .rejected (legible.mp named) fresh rejected

theorem scenarioFault?_first {c : SessionConfig} (earlier : List Scenario) {rest : List Scenario}
    {fault : Fault}
    (found : c.scenarioFault? (earlier.map (·.name)).reverse rest = some fault) :
    ∃ i, ∃ inside : i < rest.length, c.Offends (earlier ++ rest.take i) rest[i] fault.message ∧
      ∀ j, ∀ before : j < i, ∀ message, ¬c.Offends (earlier ++ rest.take j) rest[j] message := by
  -- The names that have been seen are those of the earlier scenarios, the last of them first.
  induction rest generalizing earlier with
  | nil => cases found
  | cons s rest ih =>
    rw [scenarioFault?_cons] at found
    cases offence : c.offence? (earlier.map (·.name)).reverse s with
    | some first =>
      rw [offence, Option.some_or, Option.some.injEq] at found
      subst found
      refine ⟨0, Nat.succ_pos _, ?_, fun j before => absurd before (Nat.not_lt_zero j)⟩
      rw [List.take_zero, List.append_nil]
      exact (c.offends_iff earlier s _).mpr ⟨first, offence, rfl⟩
    | none =>
      have more : s.name :: (earlier.map (·.name)).reverse =
          ((earlier ++ [s]).map (·.name)).reverse := by simp
      rw [offence, Option.none_or, more] at found
      obtain ⟨i, inside, offends, least⟩ := ih (earlier ++ [s]) found
      rw [List.append_assoc] at offends
      refine ⟨i + 1, Nat.succ_lt_succ inside, offends, fun j before message wrong => ?_⟩
      cases j with
      | zero =>
        rw [List.take_zero, List.append_nil, offends_iff] at wrong
        obtain ⟨fault, same, _⟩ := wrong
        rw [List.getElem_cons_zero, offence] at same
        cases same
      | succ j =>
        have earlier := least j (Nat.lt_of_succ_lt_succ before) message
        rw [List.append_assoc] at earlier
        exact earlier wrong

structure Checked (c : SessionConfig) : Prop where
  accepted : c.fault? = none ↔ c.Valid
  reordered : ∀ scenarios : List Scenario, scenarios.Perm c.traffic.scenarios →
    (fault? { c with traffic := { c.traffic with scenarios } } = none ↔ c.fault? = none)
  first : c.server.Valid → ∀ fault, c.fault? = some fault →
    ∃ i, ∃ inside : i < c.traffic.scenarios.length, ∃ message,
      (ConfigError.session fault).message = "Configuration validation failed: " ++ message ∧
      c.Offends (c.traffic.scenarios.take i) c.traffic.scenarios[i] message ∧
      ∀ j, ∀ before : j < i, ∀ other,
        ¬c.Offends (c.traffic.scenarios.take j) c.traffic.scenarios[j] other

/-- A configuration is accepted exactly if it is valid, whatever the order of its scenarios, and what
is said of one that is not, if it is not for the server, is said of the first scenario that offends. -/
theorem checked (c : SessionConfig) : c.Checked where
  accepted := c.fault?_eq_none_iff
  reordered scenarios same := by
    rw [fault?_eq_none_iff, fault?_eq_none_iff]
    exact ⟨fun valid => valid.perm same.symm, fun valid => valid.perm same⟩
  first server fault found := by
    rw [fault?, (serverFault?_eq_none_iff c.server).mpr server] at found
    obtain ⟨i, inside, offends, least⟩ := scenarioFault?_first [] found
    exact ⟨i, inside, fault.message, rfl, offends, least⟩

end SessionConfig

end LoadBench
