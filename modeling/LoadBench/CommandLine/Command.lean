import LoadBench.CommandLine.Options
import LoadBench.Config.Run
import LoadBench.Decimal.Reading

namespace LoadBench

open Text CommandLine

structure SessionArguments where
  config : String
  output : String
  skipCore : Bool
  inProcess : Bool
deriving DecidableEq

def SessionArguments.default : SessionArguments where
  config := "scripts/perf/perf.toml"
  output := "scripts/perf/perf_report.json"
  skipCore := false
  inProcess := false

inductive Command where
  | bench (config : RunConfig)
  | run (arguments : SessionArguments)
deriving DecidableEq

namespace CommandLine

variable {α : Type}

def flag (name : String) (change : α → α) : Opt α := ⟨name, false, fun _ a => .ok (change a)⟩

def textOption (name : String) (change : String → α → α) : Opt α :=
  ⟨name, true, fun text a => .ok (change text a)⟩

def pathOption (name : String) (change : String → α → α) : Opt α :=
  ⟨name, true, fun text a => if text = "" then .error .invalidValue else .ok (change text a)⟩

def wordOption (name : String) (change : Nat → α → α) : Opt α :=
  ⟨name, true, fun text a =>
    match Numeral.word? text with
    | some n => .ok (change n a)
    | none => .error .invalidNumber⟩

def numberOption (name : String) (change : Binary64 → α → α) : Opt α :=
  ⟨name, true, fun text a =>
    match Decimal.float? text with
    | some x => .ok (change x a)
    | none => .error .invalidNumber⟩

def choiceOption {β : Type} [Choice β] (name : String) (change : β → α → α) : Opt α :=
  ⟨name, true, fun text a =>
    match Choice.ofName? text with
    | some b => .ok (change b a)
    | none => .error .invalidValue⟩

def benchOptions : List (Opt RunConfig) :=
  [textOption "base-url" fun v c => { c with baseUrl := v },
    textOption "collection" fun v c => { c with collection := v },
    wordOption "dimensions" fun v c => { c with dimensions := v },
    textOption "distance" fun v c => { c with distance := v },
    choiceOption "quantization" fun v c => { c with quantization := v },
    wordOption "prefill" fun v c => { c with prefill := v },
    wordOption "batch-size" fun v c => { c with batchSize := v },
    choiceOption "mode" fun v c => { c with mode := v },
    wordOption "duration" fun v c => { c with durationSecs := v },
    wordOption "concurrency" fun v c => { c with concurrency := v },
    wordOption "search-k" fun v c => { c with searchK := v },
    numberOption "search-ratio" fun v c => { c with searchRatio := v },
    numberOption "insert-ratio" fun v c => { c with insertRatio := v },
    flag "use-filter" fun c => { c with useFilter := true },
    choiceOption "filter-type" fun v c => { c with filterType := v },
    flag "no-metadata" fun c => { c with includeMetadata := false },
    pathOption "output" fun v c => { c with output := some v },
    wordOption "seed" fun v c => { c with seed := v },
    wordOption "request-timeout-secs" fun v c => { c with requestTimeoutSecs := v }]

def runOptions : List (Opt SessionArguments) :=
  [pathOption "config" fun v a => { a with config := v },
    pathOption "output" fun v a => { a with output := v },
    flag "skip-core" fun a => { a with skipCore := true },
    flag "in-process" fun a => { a with inProcess := true }]

def commandNames : List String := ["bench", "run", "help"]

def help : List String → Stop
  | [] => .help
  | [name] => if commandNames.contains name then .help else .unknownCommand
  | _ => .unknownCommand

def leadingOption : Shape → Stop
  | .long "help" none => .help
  | .long "help" (some _) => .unexpectedValue
  | .long "version" none => .version
  | .long "version" (some _) => .unexpectedValue
  | .short 'h' => .help
  | .short 'V' => .version
  | _ => .unknownArgument

def parse : List String → Except Stop Command
  | [] => .error .missingCommand
  | "bench" :: rest => (settings benchOptions RunConfig.default rest).map .bench
  | "run" :: rest => (settings runOptions SessionArguments.default rest).map .run
  | "help" :: rest => .error (help rest)
  | first :: rest =>
    match Shape.of first with
    | .word => .error .unknownCommand
    | .separator =>
      match rest with
      | [] => .error .missingCommand
      | name :: _ =>
        .error (if commandNames.contains name then .unknownArgument else .unknownCommand)
    | shape => .error (leadingOption shape)

end CommandLine

end LoadBench
