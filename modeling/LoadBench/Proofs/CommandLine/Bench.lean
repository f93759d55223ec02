import LoadBench.CommandLine.Command
import LoadBench.Proofs.CommandLine.Options
import LoadBench.Proofs.Config.Choice
import LoadBench.Proofs.Decimal.Reading

namespace LoadBench

open Text CommandLine

namespace CommandLine

variable {α : Type} {options : List (Opt α)} {name : String}

structure Distinct (options : List (Opt α)) : Prop where
  nameable : ∀ o ∈ options, Nameable o.name
  nodup : (options.map (·.name)).Nodup

theorem Distinct.find? (distinct : Distinct options) {o : Opt α} (member : o ∈ options) :
    options.find? (·.name == o.name) = some o := by
  obtain ⟨-, nodup⟩ := distinct
  induction options with
  | nil => cases member
  | cons first rest ih =>
    rw [List.map_cons, List.nodup_cons] at nodup
    rcases List.mem_cons.mp member with rfl | later
    · simp only [List.find?_cons, beq_self_eq_true]
    · have other : (first.name == o.name) = false := by
        rw [beq_eq_false_iff_ne]
        intro same
        exact nodup.1 (same ▸ List.mem_map_of_mem later)
      simp only [List.find?_cons, other]
      exact ih later nodup.2

theorem Distinct.fits (distinct : Distinct options) {g : Given}
    (listed : (g.name, g.value.isSome) ∈ options.map fun o => (o.name, o.takesValue)) :
    ∃ o, Fits options g o := by
  obtain ⟨o, member, same⟩ := List.mem_map.mp listed
  obtain ⟨named, valued⟩ := Prod.mk.inj same
  refine ⟨o, ?_, ?_, valued⟩
  · rw [← named]
    exact distinct.nameable o member
  · rw [← named]
    exact distinct.find? member

theorem apply_flag {change : α → α}
    (found : options.find? (·.name == name) = some (flag name change)) (settings : α) :
    Given.apply options settings ⟨name, none⟩ = .ok (change settings) := by
  rw [Given.apply, found]
  rfl

theorem apply_textOption {change : String → α → α}
    (found : options.find? (·.name == name) = some (textOption name change)) (text : String)
    (settings : α) :
    Given.apply options settings ⟨name, some text⟩ = .ok (change text settings) := by
  rw [Given.apply, found]
  rfl

theorem apply_pathOption {change : String → α → α}
    (found : options.find? (·.name == name) = some (pathOption name change)) (path : String)
    (settings : α) :
    Given.apply options settings ⟨name, some path⟩ =
      if path = "" then .error .invalidValue else .ok (change path settings) := by
  rw [Given.apply, found]
  rfl

theorem apply_wordOption {change : Nat → α → α}
    (found : options.find? (·.name == name) = some (wordOption name change)) {n : Nat}
    (small : n ≤ Numeral.wordMax) (settings : α) :
    Given.apply options settings ⟨name, some (Numeral.toString n)⟩ = .ok (change n settings) := by
  rw [Given.apply, found]
  simp only [wordOption, Option.getD_some, Numeral.word?_toString small]

theorem apply_numberOption {change : Binary64 → α → α}
    (found : options.find? (·.name == name) = some (numberOption name change)) {x : Binary64}
    (number : x.isNaN = false) (settings : α) :
    Given.apply options settings ⟨name, some (Decimal.plainText x)⟩ = .ok (change x settings) := by
  rw [Given.apply, found]
  simp only [numberOption, Option.getD_some, Decimal.float?_plainText number]

theorem apply_choiceOption {β : Type} [Choice β] {change : β → α → α}
    (found : options.find? (·.name == name) = some (choiceOption name change)) {b : β}
    (reads : Choice.ofName? (Choice.name b) = some b) (settings : α) :
    Given.apply options settings ⟨name, some (Choice.name b)⟩ = .ok (change b settings) := by
  rw [Given.apply, found]
  simp only [choiceOption, Option.getD_some, reads]

theorem foldlM_apply {g : Given} {before after : α} (applied : g.apply options before = .ok after)
    (rest : List Given) :
    (g :: rest).foldlM (Given.apply options) before = rest.foldlM (Given.apply options) after := by
  rw [List.foldlM_cons, applied]
  rfl

end CommandLine

theorem not_isDashed_toString (n : Nat) : ¬ IsDashed (Numeral.toString n) := by
  obtain ⟨c, cs, split, digit⟩ := Numeral.digits_eq_cons n
  rintro ⟨hyphen, -⟩
  rw [Numeral.toString, String.toList_ofList, split, List.head?_cons, Option.some.injEq] at hyphen
  rw [hyphen] at digit
  cases digit

namespace RunConfig

def alwaysGiven (c : RunConfig) : List Given :=
  [⟨"base-url", some c.baseUrl⟩,
    ⟨"collection", some c.collection⟩,
    ⟨"dimensions", some (Numeral.toString c.dimensions)⟩,
    ⟨"distance", some c.distance⟩,
    ⟨"quantization", some (Choice.name c.quantization)⟩,
    ⟨"prefill", some (Numeral.toString c.prefill)⟩,
    ⟨"batch-size", some (Numeral.toString c.batchSize)⟩,
    ⟨"duration", some (Numeral.toString c.durationSecs)⟩,
    ⟨"concurrency", some (Numeral.toString c.concurrency)⟩,
    ⟨"mode", some (Choice.name c.mode)⟩,
    ⟨"search-k", some (Numeral.toString c.searchK)⟩,
    ⟨"search-ratio", some (Decimal.plainText c.searchRatio)⟩,
    ⟨"insert-ratio", some (Decimal.plainText c.insertRatio)⟩,
    ⟨"seed", some (Numeral.toString c.seed)⟩,
    ⟨"request-timeout-secs", some (Numeral.toString c.requestTimeoutSecs)⟩]

def filterGiven (c : RunConfig) : List Given :=
  if c.useFilter then
    [⟨"use-filter", none⟩, ⟨"filter-type", some (Choice.name c.filterType)⟩] else []

def metadataGiven (c : RunConfig) : List Given :=
  if c.includeMetadata then [] else [⟨"no-metadata", none⟩]

def outputGiven (c : RunConfig) : List Given :=
  match c.output with
  | some path => [⟨"output", some path⟩]
  | none => []

def given (c : RunConfig) : List Given :=
  c.alwaysGiven ++ c.filterGiven ++ c.metadataGiven ++ c.outputGiven

theorem arguments_eq (c : RunConfig) : c.arguments = render c.given := by
  rw [arguments, given, filterGiven, metadataGiven, outputGiven]
  cases c.useFilter <;> cases c.includeMetadata <;> cases c.output <;> rfl

def givenNames (useFilter includeMetadata recorded : Bool) : List (String × Bool) :=
  [("base-url", true), ("collection", true), ("dimensions", true), ("distance", true),
    ("quantization", true), ("prefill", true), ("batch-size", true), ("duration", true),
    ("concurrency", true), ("mode", true), ("search-k", true), ("search-ratio", true),
    ("insert-ratio", true), ("seed", true), ("request-timeout-secs", true)] ++
  (if useFilter then [("use-filter", false), ("filter-type", true)] else []) ++
  (if includeMetadata then [] else [("no-metadata", false)]) ++
  (if recorded then [("output", true)] else [])

theorem map_given (c : RunConfig) :
    (c.given.map fun g => (g.name, g.value.isSome)) =
      givenNames c.useFilter c.includeMetadata c.output.isSome := by
  rw [given, filterGiven, metadataGiven, outputGiven]
  cases c.useFilter <;> cases c.includeMetadata <;> cases c.output <;> rfl

theorem distinct_benchOptions : Distinct benchOptions where
  nameable := by
    have names : ∀ name ∈ benchOptions.map (·.name),
        name.toList ≠ [] ∧ '=' ∉ name.toList ∧ name ≠ "help" := by decide
    intro o member
    obtain ⟨nonempty, unattached, noHelp⟩ := names o.name (List.mem_map_of_mem member)
    exact ⟨nonempty, unattached, noHelp⟩
  nodup := by decide

theorem fits_given (c : RunConfig) : ∀ g ∈ c.given, ∃ o, Fits benchOptions g o := by
  have listed : ∀ useFilter includeMetadata recorded,
      ∀ name ∈ givenNames useFilter includeMetadata recorded,
        name ∈ benchOptions.map fun o => (o.name, o.takesValue) := by decide
  intro g member
  refine distinct_benchOptions.fits (listed c.useFilter c.includeMetadata c.output.isSome _ ?_)
  rw [← map_given]
  exact List.mem_map_of_mem member

theorem nodup_given (c : RunConfig) : (c.given.map (·.name)).Nodup := by
  have nodup : ∀ useFilter includeMetadata recorded,
      ((givenNames useFilter includeMetadata recorded).map (·.1)).Nodup := by decide
  have names := nodup c.useFilter c.includeMetadata c.output.isSome
  rw [← map_given, List.map_map] at names
  exact names

structure WordSized (c : RunConfig) : Prop where
  dimensions : c.dimensions ≤ Numeral.wordMax
  prefill : c.prefill ≤ Numeral.wordMax
  batchSize : c.batchSize ≤ Numeral.wordMax
  durationSecs : c.durationSecs ≤ Numeral.wordMax
  concurrency : c.concurrency ≤ Numeral.wordMax
  searchK : c.searchK ≤ Numeral.wordMax
  seed : c.seed ≤ Numeral.wordMax
  requestTimeoutSecs : c.requestTimeoutSecs ≤ Numeral.wordMax

theorem foldlM_alwaysGiven {c : RunConfig} (sized : c.WordSized)
    (search : c.searchRatio.isNaN = false) (insert : c.insertRatio.isNaN = false) (s : RunConfig) :
    c.alwaysGiven.foldlM (Given.apply benchOptions) s =
      .ok { c with
        useFilter := s.useFilter
        filterType := s.filterType
        includeMetadata := s.includeMetadata
        output := s.output } := by
  rw [alwaysGiven, foldlM_apply (apply_textOption rfl c.baseUrl _),
    foldlM_apply (apply_textOption rfl c.collection _),
    foldlM_apply (apply_wordOption rfl sized.dimensions _),
    foldlM_apply (apply_textOption rfl c.distance _),
    foldlM_apply (apply_choiceOption rfl c.quantization.ofName?_name _),
    foldlM_apply (apply_wordOption rfl sized.prefill _),
    foldlM_apply (apply_wordOption rfl sized.batchSize _),
    foldlM_apply (apply_wordOption rfl sized.durationSecs _),
    foldlM_apply (apply_wordOption rfl sized.concurrency _),
    foldlM_apply (apply_choiceOption rfl c.mode.ofName?_name _),
    foldlM_apply (apply_wordOption rfl sized.searchK _),
    foldlM_apply (apply_numberOption rfl search _),
    foldlM_apply (apply_numberOption rfl insert _),
    foldlM_apply (apply_wordOption rfl sized.seed _),
    foldlM_apply (apply_wordOption rfl sized.requestTimeoutSecs _)]
  rfl

theorem foldlM_filterGiven (c s : RunConfig) :
    c.filterGiven.foldlM (Given.apply benchOptions) s =
      .ok { s with
        useFilter := c.useFilter || s.useFilter
        filterType := if c.useFilter then c.filterType else s.filterType } := by
  rw [filterGiven]
  cases c.useFilter with
  | true =>
    rw [if_pos rfl, foldlM_apply (apply_flag rfl _),
      foldlM_apply (apply_choiceOption rfl c.filterType.ofName?_name _)]
    rfl
  | false => rfl

theorem foldlM_metadataGiven (c s : RunConfig) :
    c.metadataGiven.foldlM (Given.apply benchOptions) s =
      .ok { s with includeMetadata := c.includeMetadata && s.includeMetadata } := by
  rw [metadataGiven]
  cases c.includeMetadata with
  | true => rfl
  | false =>
    rw [if_neg Bool.false_ne_true, foldlM_apply (apply_flag rfl _)]
    rfl

theorem foldlM_outputGiven (c s : RunConfig) :
    c.outputGiven.foldlM (Given.apply benchOptions) s =
      if c.output = some "" then .error .invalidValue
      else .ok { s with output := c.output.or s.output } := by
  rw [outputGiven]
  rcases c.output with _ | path
  · rfl
  · dsimp only
    rw [List.foldlM_cons, apply_pathOption rfl]
    simp only [Option.some.injEq]
    split <;> rfl

/-- The run that a run's arguments ask for: of a filter that is not used they do not speak. -/
def spoken (c : RunConfig) : RunConfig :=
  { c with filterType := if c.useFilter then c.filterType else .exact }

theorem foldlM_given {c : RunConfig} (sized : c.WordSized) (search : c.searchRatio.isNaN = false)
    (insert : c.insertRatio.isNaN = false) :
    c.given.foldlM (Given.apply benchOptions) default =
      if c.output = some "" then .error .invalidValue else .ok c.spoken := by
  rw [given, List.foldlM_append, List.foldlM_append, List.foldlM_append,
    foldlM_alwaysGiven sized search insert]
  simp only [bind, Except.bind, foldlM_filterGiven, foldlM_metadataGiven, foldlM_outputGiven]
  simp only [default, Bool.or_false, Bool.and_true, Option.or_none, spoken]

/-- The texts among a run's arguments that could look like an option. -/
def texts (c : RunConfig) : List String :=
  [c.baseUrl, c.collection, c.distance, Decimal.plainText c.searchRatio,
    Decimal.plainText c.insertRatio] ++ c.output.toList

theorem plain_given (c : RunConfig) :
    (∀ g ∈ c.given, ∀ value ∈ g.value, ¬ IsDashed value) ↔ ∀ text ∈ c.texts, ¬ IsDashed text := by
  have quantization : ¬ IsDashed (Choice.name c.quantization) := by
    cases c.quantization <;> decide
  have mode : ¬ IsDashed (Choice.name c.mode) := by
    cases c.mode <;> decide
  have filterType : ¬ IsDashed (Choice.name c.filterType) := by
    cases c.filterType <;> decide
  have filter : ∀ g ∈ c.filterGiven, ∀ value ∈ g.value, ¬ IsDashed value := by
    rw [filterGiven]
    split <;> simp [filterType]
  have metadata : ∀ g ∈ c.metadataGiven, ∀ value ∈ g.value, ¬ IsDashed value := by
    rw [metadataGiven]
    split <;> simp
  have output : (∀ g ∈ c.outputGiven, ∀ value ∈ g.value, ¬ IsDashed value) ↔
      ∀ path ∈ c.output.toList, ¬ IsDashed path := by
    rw [outputGiven]
    cases c.output <;> simp
  rw [given, texts]
  simp only [List.forall_mem_append, output, eq_true filter, eq_true metadata, and_true]
  simp only [alwaysGiven, List.forall_mem_cons, Option.mem_def, Option.some.injEq, forall_eq',
    not_isDashed_toString, quantization, mode, not_false_eq_true, true_and, List.not_mem_nil,
    IsEmpty.forall_iff, implies_true]

/-- The arguments of a run are taken just when none of its texts looks like an option and the path
of its output, if any, is not empty; and they ask for that run, of which only the type of a filter
that is not used is lost. -/
theorem parse_arguments {c : RunConfig} (sized : c.WordSized)
    (search : c.searchRatio.isNaN = false) (insert : c.insertRatio.isNaN = false) :
    ((∃ command, parse ("bench" :: c.arguments) = .ok command) ↔
      (∀ text ∈ c.texts, ¬ IsDashed text) ∧ c.output ≠ some "") ∧
    ∀ command, parse ("bench" :: c.arguments) = .ok command →
      command = .bench { c with filterType := if c.useFilter then c.filterType else .exact } := by
  have taken (result : RunConfig) : settings benchOptions default c.arguments = .ok result ↔
      (∀ text ∈ c.texts, ¬ IsDashed text) ∧ c.output ≠ some "" ∧ c.spoken = result := by
    rw [arguments_eq, settings_render c.fits_given c.nodup_given, plain_given,
      foldlM_given sized search insert]
    split
    · rename_i empty
      simp [empty]
    · rename_i recorded
      simp [recorded]
  have parsed (command : Command) : parse ("bench" :: c.arguments) = .ok command ↔
      ∃ result, settings benchOptions default c.arguments = .ok result ∧
        .bench result = command := by
    rw [parse]
    cases settings benchOptions default c.arguments <;> simp [Except.map]
  simp only [parsed, taken]
  constructor
  · constructor
    · rintro ⟨command, result, ⟨plain, written, -⟩, -⟩
      exact ⟨plain, written⟩
    · rintro ⟨plain, written⟩
      exact ⟨.bench c.spoken, c.spoken, ⟨plain, written, rfl⟩, rfl⟩
  · rintro command ⟨result, ⟨-, -, rfl⟩, rfl⟩
    rfl

def filteredRun : RunConfig :=
  { RunConfig.default with
    useFilter := true, filterType := .oneOf, includeMetadata := false
    output := some "out/filtered.json" }

theorem parse_arguments_filtered :
    parse ("bench" :: filteredRun.arguments) = .ok (.bench filteredRun) := by
  have sized : filteredRun.WordSized := by constructor <;> decide
  have search : filteredRun.searchRatio.isNaN = false := by decide +kernel
  have insert : filteredRun.insertRatio.isNaN = false := by decide +kernel
  obtain ⟨taken, same⟩ := parse_arguments sized search insert
  have plain : ∀ text ∈ filteredRun.texts, ¬ IsDashed text := by
    have search : ¬ IsDashed (Decimal.plainText filteredRun.searchRatio) := by
      rw [IsDashed, Decimal.head?_plainText search]
      decide +kernel
    have insert : ¬ IsDashed (Decimal.plainText filteredRun.insertRatio) := by
      rw [IsDashed, Decimal.head?_plainText insert]
      decide +kernel
    simp only [texts, List.forall_mem_append, List.forall_mem_cons]
    exact ⟨⟨by decide, by decide, by decide, search, insert, by decide⟩, by decide⟩
  obtain ⟨command, parsed⟩ := taken.mpr ⟨plain, by decide⟩
  rw [parsed, same command parsed]
  rfl

end RunConfig

end LoadBench
