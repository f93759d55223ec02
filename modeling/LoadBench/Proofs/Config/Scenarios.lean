import LoadBench.Config.Session
import LoadBench.Proofs.Path

namespace LoadBench.SessionConfig

open LoadBench.Path

structure ProperName (name : String) : Prop where
  nonempty : name ≠ ""
  noSlash : '/' ∉ name.toList
  noBackslash : '\\' ∉ name.toList
  visible : name.toList.head? ≠ some '.'

theorem startsWith_iff {front : String} {c : Char} (single : front.toList = [c]) (text : String) :
    text.startsWith front = true ↔ text.toList.head? = some c := by
  rw [String.startsWith_string_iff, single, List.head?_eq_some_iff]
  exact exists_congr fun _ => eq_comm

theorem isName_iff (name : String) : isName name = true ↔ ProperName name := by
  have letters : name.toList.any (fun c => c == '/' || c == '\\') = false ↔
      '/' ∉ name.toList ∧ '\\' ∉ name.toList := by
    simp only [List.any_eq_false, Bool.or_eq_true, beq_iff_eq, not_or]
    exact ⟨fun single => ⟨fun slash => (single _ slash).1 rfl, fun back => (single _ back).2 rfl⟩,
      fun plain c member => ⟨fun slash => plain.1 (slash ▸ member), fun back => plain.2 (back ▸ member)⟩⟩
  have front : name.startsWith "." = false ↔ name.toList.head? ≠ some '.' := by
    rw [← Bool.not_eq_true]
    exact not_congr (startsWith_iff rfl name)
  rw [isName, Bool.and_eq_true, Bool.and_eq_true, bne_iff_ne, Bool.not_eq_true', Bool.not_eq_true',
    letters, front]
  constructor
  · rintro ⟨⟨nonempty, slash, backslash⟩, visible⟩
    exact ⟨nonempty, slash, backslash, visible⟩
  · intro proper
    exact ⟨⟨proper.nonempty, proper.noSlash, proper.noBackslash⟩, proper.visible⟩

/-- What the rules ask of scenarios, given the names of those before them. -/
structure Keeps (c : SessionConfig) (seen : List String) (scenarios : List Scenario) : Prop where
  named : ∀ s ∈ scenarios, isName s.name = true
  fresh : ∀ s ∈ scenarios, s.name ∉ seen
  distinct : (scenarios.map (·.name)).Nodup
  valid : ∀ s ∈ scenarios, (c.run s).fault? = none

def offence? (c : SessionConfig) (seen : List String) (s : Scenario) : Option Fault :=
  if !isName s.name then some (.invalidName s.name)
  else if seen.contains s.name then some (.duplicateName s.name)
  else (c.run s).fault?.map (.run s.name)

section

variable (c : SessionConfig) (seen : List String) (s : Scenario)

theorem scenarioFault?_cons (rest : List Scenario) :
    c.scenarioFault? seen (s :: rest) =
      (c.offence? seen s).or (c.scenarioFault? (s.name :: seen) rest) := by
  rw [scenarioFault?, offence?]
  split
  · rfl
  · split
    · rfl
    · cases (c.run s).fault? <;> rfl

theorem offence?_eq_none_iff :
    c.offence? seen s = none ↔
      isName s.name = true ∧ s.name ∉ seen ∧ (c.run s).fault? = none := by
  rw [offence?, ← List.contains_iff_mem]
  cases isName s.name <;> cases seen.contains s.name <;> simp

theorem keeps_cons (rest : List Scenario) :
    Keeps c seen (s :: rest) ↔
      (isName s.name = true ∧ s.name ∉ seen ∧ (c.run s).fault? = none) ∧
        Keeps c (s.name :: seen) rest := by
  constructor
  · rintro ⟨named, fresh, distinct, valid⟩
    rw [List.forall_mem_cons] at named fresh valid
    rw [List.map_cons, List.nodup_cons] at distinct
    refine ⟨⟨named.1, fresh.1, valid.1⟩, named.2, fun t member => ?_, distinct.2, valid.2⟩
    rw [List.mem_cons, not_or]
    refine ⟨fun same => distinct.1 ?_, fresh.2 t member⟩
    rw [← same]
    exact List.mem_map_of_mem member
  · rintro ⟨⟨named, fresh, valid⟩, rest⟩
    refine ⟨List.forall_mem_cons.mpr ⟨named, rest.named⟩, List.forall_mem_cons.mpr ⟨fresh, ?_⟩,
      ?_, List.forall_mem_cons.mpr ⟨valid, rest.valid⟩⟩
    · exact fun t member old => rest.fresh t member (List.mem_cons_of_mem s.name old)
    · rw [List.map_cons, List.nodup_cons]
      refine ⟨fun again => ?_, rest.distinct⟩
      obtain ⟨t, member, same⟩ := List.mem_map.mp again
      exact rest.fresh t member (same ▸ List.mem_cons_self)

theorem scenarioFault?_eq_none_iff (scenarios : List Scenario) :
    c.scenarioFault? seen scenarios = none ↔ Keeps c seen scenarios := by
  induction scenarios generalizing seen with
  | nil => exact ⟨fun _ => ⟨by simp, by simp, List.nodup_nil, by simp⟩, fun _ => rfl⟩
  | cons s rest ih =>
    rw [scenarioFault?_cons, Option.or_eq_none_iff, offence?_eq_none_iff, ih, keeps_cons]

end

theorem fault?_eq_none_iff_keeps (c : SessionConfig) :
    c.fault? = none ↔ serverFault? c.server = none ∧ Keeps c [] c.traffic.scenarios := by
  rw [fault?, ← scenarioFault?_eq_none_iff]
  cases serverFault? c.server <;> simp [Option.orElse]

theorem keeps_of_fault? {c : SessionConfig} (sound : c.fault? = none) :
    Keeps c [] c.traffic.scenarios :=
  (c.fault?_eq_none_iff_keeps.mp sound).2

theorem isEntry_scenarioOutputs : IsEntry "_scenario_outputs" :=
  ⟨by decide, by decide⟩

theorem isOpen_scenarioFolder (report : String) : IsOpen (scenarioFolder report) :=
  isOpen_join _ isEntry_scenarioOutputs

theorem isEntry_summary {name : String} (named : isName name = true) :
    IsEntry (name ++ ".json") := by
  have proper := (isName_iff name).mp named
  constructor
  · intro empty
    have nothing := congrArg String.toList empty
    rw [String.toList_append] at nothing
    exact absurd (List.append_eq_nil_iff.mp nothing).2 (by decide)
  · rw [String.toList_append, List.mem_append, not_or]
    exact ⟨proper.noSlash, by decide⟩

theorem summary_ne_dots {name : String} (named : isName name = true) :
    name ++ ".json" ∉ ["", ".", ".."] := by
  have proper := (isName_iff name).mp named
  have longer : name.toList ≠ [] := fun empty => proper.nonempty (String.toList_eq_nil_iff.mp empty)
  obtain ⟨c, rest, split⟩ := List.exists_cons_of_ne_nil longer
  have first := proper.visible
  rw [split, List.head?_cons, Ne, Option.some.injEq] at first
  have differs (other : String) (dotted : other.toList.head?.all (· == '.') = true) :
      name ++ ".json" ≠ other := by
    rintro rfl
    rw [String.toList_append, split] at dotted
    exact first (eq_of_beq dotted)
  simp only [List.mem_cons, List.not_mem_nil, or_false, not_or]
  exact ⟨differs "" (by decide), differs "." (by decide), differs ".." (by decide)⟩

theorem names_scenarioFile (report : String) {s : Scenario} (named : isName s.name = true) :
    names (scenarioFile report s) = names (scenarioFolder report) ++ [s.name ++ ".json"] :=
  names_join (isOpen_scenarioFolder report) (isEntry_summary named)

theorem head?_scenarioFile (report : String) {s : Scenario} (named : isName s.name = true) :
    (scenarioFile report s).toList.head? = report.toList.head? ∨
      (scenarioFile report s).toList.head? = some '_' := by
  rw [scenarioFile, head?_join _ (isEntry_summary named), scenarioFolder,
    head?_join _ isEntry_scenarioOutputs]
  cases found : parent? report with
  | none => exact .inr rfl
  | some parent =>
    have stretch := parent?_prefix found
    rw [Option.getD_some]
    cases front : parent.toList with
    | nil => exact .inr rfl
    | cons c rest =>
      rw [front] at stretch
      obtain ⟨tail, whole⟩ := stretch
      rw [← whole]
      exact .inl rfl

theorem name_eq_of_scenarioFile {report : String} {s t : Scenario} (named : isName s.name = true)
    (other : isName t.name = true)
    (same : names (scenarioFile report s) = names (scenarioFile report t)) : s.name = t.name := by
  rw [names_scenarioFile report named, names_scenarioFile report other] at same
  have ends := List.head_eq_of_cons_eq (List.append_cancel_left same)
  exact (String.append_left_inj ".json").mp ends

theorem nodup_scenarioFiles {c : SessionConfig} {scenarios : List Scenario}
    (keeps : Keeps c [] scenarios) (report : String) :
    (scenarios.map fun s => names (scenarioFile report s)).Nodup := by
  have apart := List.pairwise_map.mp keeps.distinct
  refine List.pairwise_map.mpr (apart.imp_of_mem fun first second differ same => differ ?_)
  exact name_eq_of_scenarioFile (keeps.named _ first) (keeps.named _ second) same

end LoadBench.SessionConfig
