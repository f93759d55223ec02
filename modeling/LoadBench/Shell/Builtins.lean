import LoadBench.Shell.Call

namespace LoadBench.Shell

open Text Text.Utf8

namespace Builtin

def succeed : Act Unit := modify (State.withStatus 0)

def number (command arg : String) : Act Nat :=
  if Numeral.allDigits arg.toList then pure (Numeral.value arg.toList)
  else Act.abort (command ++ ": Illegal number: " ++ arg)

def firstNumber (command : String) (default : Nat) : List String → Act Nat
  | [] => pure default
  | arg :: _ => number command arg

def exit (args : List String) : Act Unit := do
  throw (.exit (← firstNumber "exit" (← get).status args))

def leaveFunction (args : List String) : Act Unit := do
  let code ← firstNumber "return" (← get).status args
  modify (State.withStatus code)
  throw .returned

def leave (command : String) (flow : Nat → Flow) (args : List String) : Act Unit := do
  let n ← firstNumber command 1 args
  modify (State.withStatus 0)
  let s ← get
  if s.loops != 0 then throw (flow (min n s.loops - 1))

def echo (args : List String) : Act Unit :=
  modify fun s => (s.emit State.standardOutput (Format.echo args)).withStatus 0

def printf (args : List String) : Act Unit :=
  match args with
  | "--" :: format :: args => write format args
  | format :: args => write format args
  | [] => Act.failed 2 "printf: usage: printf format [arg ...]"
where
  write (format : String) (args : List String) : Act Unit :=
    modify fun s =>
      (s.emit State.standardOutput (Format.printf (args.length + 1) format args)).withStatus 0

def binding (arg : String) : String × Option String :=
  let name := arg.toList.takeWhile (· != '=')
  let value := arg.toList.drop (name.length + 1)
  (String.ofList name, if name.length < arg.length then some (String.ofList value) else none)

def bind (args : List String) : Act Unit :=
  modify fun s => args.foldl (fun s arg =>
    match binding arg with
    | (name, some value) => s.setVariable name value
    | (_, none) => s) s

def markExported (args : List String) : Act Unit := do
  bind args
  modify fun s => { s with exported := args.map (binding · |>.1) ++ s.exported, status := 0 }

def unset (args : List String) : Act Unit :=
  modify fun s => { s with
    bindings := s.bindings.filter fun v => !args.contains v.1
    functions := if args.head? == some "-f" then s.functions.filter fun f => !args.contains f.1
      else s.functions
    status := 0 }

def shift (args : List String) : Act Unit := do
  let n ← firstNumber "shift" 1 args
  let s ← get
  if s.params.length < n then Act.abort "shift: can't shift that many"
  set { s with params := s.params.drop n, status := 0 }

def setOptions : List String → Act Unit
  | [] => pure ()
  | arg :: rest =>
    match arg.toList with
    | '-' :: '-' :: [] => modify fun s => { s with params := rest }
    | '-' :: l :: ls => do
      modify fun s => { s with options := s.options ++ (l :: ls) }
      setOptions rest
    | '+' :: l :: ls => do
      modify fun s => { s with options := s.options.filter fun o => !(l :: ls).contains o }
      setOptions rest
    | _ => modify fun s => { s with params := arg :: rest }

def inputLine (input : Bytes) : Bytes × Bool × Bytes :=
  let line := input.takeWhile (· != 10)
  (line, line.length < input.length, input.drop (line.length + 1))

def assignWords : List String → List Char → State → State
  | [], _, s => s
  | [name], cs, s =>
    let text := ((cs.dropWhile Mark.isBlank).reverse.dropWhile Mark.isBlank).reverse
    s.setVariable name (String.ofList text)
  | name :: names, cs, s =>
    let cs := cs.dropWhile Mark.isBlank
    assignWords names (cs.dropWhile fun c => !Mark.isBlank c)
      (s.setVariable name (String.ofList (cs.takeWhile fun c => !Mark.isBlank c)))

def read (args : List String) : Act Unit := do
  let s ← get
  let (line, ended, rest) := inputLine s.input
  let s := assignWords (args.filter fun a => !a.startsWith "-") (decodeLossy line).toList s
  set { s with input := rest, status := if ended then 0 else 1 }

def cd (args : List String) : Act Unit := do
  let s ← get
  match args with
  | [] => succeed
  | p :: _ =>
    match s.view.place (s.path p), s.view.isFolder (s.path p) with
    | .ok place, true => set { s with folder := "/" ++ "/".intercalate place, status := 0 }
    | _, _ =>
      Act.failed 2 ("cd: can't cd to " ++ p)

def pwd : Act Unit := modify fun s => (s.say (s.folder ++ "\n")).withStatus 0

def comparisons : List String := ["-eq", "-ne", "-lt", "-le", "-gt", "-ge"]

def isInteger (text : String) : Bool :=
  match text.toList with
  | '-' :: ds => Numeral.allDigits ds
  | ds => Numeral.allDigits ds

def test (command : String) (args : List String) : Act Unit := do
  let closed := command != "[" || args.getLast? == some "]"
  let args := if command == "[" then args.dropLast else args
  if !closed then Act.failed 2 "[: missing ]"
  else
    let s ← get
    let call : Program.Call := ⟨args, s.input, s.view, s.path⟩
    let bad := match args with
      | [a, op, b] =>
        if comparisons.contains op then [a, b].find? fun n => !isInteger n else none
      | _ => none
    match bad, Program.condition call (args.length + 1) args with
    | some n, _ => Act.failed 2 (command ++ ": Illegal number: " ++ n)
    | none, some true => modify (State.withStatus 0)
    | none, some false => modify (State.withStatus 1)
    | none, none =>
      match args with
      | [_, op] =>
        if (Program.binaryTest "" op "").isSome then
          Act.failed 2 (command ++ ": " ++ op ++ ": argument expected")
        else Act.failed 2 (command ++ ": " ++ args.headD "" ++ ": unexpected operator")
      | _ => Act.failed 2 (command ++ ": " ++ args.headD "" ++ ": unexpected operator")

def event? (text : String) : Option (Option Signal) :=
  if text == "0" || text.toUpper == "EXIT" then some none else (Signal.ofText? text).map some

def eventName : Option Signal → String
  | some signal => signal.name
  | none => "EXIT"

def setTraps (action : Option String) : List String → Act Unit
  | [] => pure ()
  | text :: rest =>
    match event? text with
    | some event => do
      modify (State.setTrap event action)
      setTraps action rest
    | none => modify fun s =>
      (s.emit State.standardError (encode ("trap: " ++ text ++ ": bad trap\n"))).withStatus 1

def trap (args : List String) : Act Unit := do
  succeed
  match args with
  | [] =>
    modify fun s => s.say (String.join (s.traps.map fun t =>
      "trap -- '" ++ t.2 ++ "' " ++ eventName t.1 ++ "\n"))
  | "--" :: rest => trapOn rest
  | args => trapOn args
where
  trapOn : List String → Act Unit
    | [] => pure ()
    | [event] => setTraps none [event]
    | "-" :: events => setTraps none events
    | action :: events => setTraps (some action) events

inductive Target where
  | shell
  | group
  | job (pid : Nat)

def target? (s : State) (text : String) : Option Target :=
  match text.toList with
  | '-' :: ds =>
    if ds == (Numeral.toString s.pid).toList then some .group else none
  | '%' :: ds => (s.jobs[Numeral.value ds - 1]?).map fun j => .job j.pid
  | ds =>
    let n := Numeral.value ds
    if !Numeral.allDigits ds then none
    else if n == 0 then some .group
    else if n == s.pid then some .shell
    else
      let alive := fun j : Job => j.pid == n && j.outcome.ended.all (s.now < ·.1)
      (s.jobs.find? alive).map fun j => .job j.pid

def send (signal : Option Signal) (target : Target) : Act Unit :=
  match signal, target with
  | none, _ => pure ()
  | some signal, .shell => modify fun s => s.signalShell [⟨s.now, signal, false⟩]
  | some signal, .group =>
    modify fun s => (s.jobs.foldl (fun s j => s.signalJob j.pid signal) s).signalShell
      [⟨s.now, signal, true⟩]
  | some signal, .job pid => modify (State.signalJob pid signal)

def sendAll (signal : Option Signal) (targets : List String) : Act Unit := do
  succeed
  for text in targets do
    match target? (← get) text with
    | some target => send signal target
    | none =>
      if !(isInteger text || text.startsWith "%") then
        return ← Act.failed 2 ("kill: Illegal number: " ++ text)
      Act.failed 1 "kill: No such process\n"

def signal? (text : String) : Option (Option Signal) :=
  if text == "0" then some none else (Signal.ofText? text).map some

def kill (args : List String) : Act Unit :=
  match args with
  | "-s" :: name :: targets =>
    match signal? name with
    | some signal => sendAll signal targets
    | none => Act.failed 2 ("kill: invalid signal number or name: " ++ name)
  | "--" :: targets => sendAll (some .term) targets
  | arg :: targets =>
    match arg.toList with
    | '-' :: name =>
      match signal? (String.ofList name) with
      | some signal => sendAll signal (if targets.head? == some "--" then targets.tail else targets)
      | none => Act.failed 2 ("kill: Illegal option -" ++ String.ofList (name.take 1))
    | _ => sendAll (some .term) args
  | [] => Act.failed 2
    ("kill: Usage: kill [-s sigspec | -signum | -sigspec] [pid | job]... or\nkill -l [exitstatus]")

def lastEnd (jobs : List Job) (now : Instant) : Option Instant :=
  jobs.foldl (fun last j => do return max (← last) (← j.outcome.ended).1) (some now)

/-- Waits for jobs, unless a signal with an action comes before. -/
def wait (inner : Inner) (args : List String) : Act Unit := do
  let s ← get
  let isNamed := fun j : Job => args.any fun a =>
    (match target? { s with now := 0 } a with
      | some (.job pid) => pid == j.pid
      | _ => false)
  let waited := if args.isEmpty then s.jobs else s.jobs.filter isNamed
  let ended := lastEnd waited s.now
  match s.inbox.find? fun d => ended.all (d.time ≤ ·) && !s.ignores d.signal with
  | some d =>
    Act.awaitEnd (some d.time)
    Act.signals inner
    modify (State.withStatus (128 + d.signal.number))
  | none =>
    Act.awaitEnd ended
    if args.isEmpty then succeed
    else if waited.isEmpty then modify (State.withStatus 127)
    else
      for j in waited do
        Act.takeStatus ((j.outcome.ended.map (·.2)).getD (.code 0))

def isKnown (name : String) : Bool :=
  [":", "true", "false", "echo", "printf", "exit", "return", "break", "continue", "export",
    "readonly", "local", "unset", "shift", "set", "read", "cd", "pwd", "test", "[", "trap", "kill",
    "wait", "eval", ".", "umask", "command", "exec"].contains name

def whereIs (s : State) (name : String) : Option String :=
  if isKnown name || (s.functions.lookup name).isSome then some name
  else if (Program.find? name).isSome || Call.isShell name then
    some (if name.contains '/' then name else "/usr/bin/" ++ name)
  else none

def find? (inner : Inner) (name : String) : Option (List String → Act Unit) :=
  match name with
  | ":" => some fun _ => succeed
  | "true" => some fun _ => succeed
  | "false" => some fun _ => modify (State.withStatus 1)
  | "echo" => some echo
  | "printf" => some printf
  | "exit" => some exit
  | "return" => some leaveFunction
  | "break" => some (leave "break" .leave)
  | "continue" => some (leave "continue" .again)
  | "export" => some markExported
  | "readonly" => some fun args => do bind args; succeed
  | "local" => some fun args => do bind args; succeed
  | "unset" => some unset
  | "shift" => some shift
  | "set" => some fun args => do setOptions args; succeed
  | "read" => some read
  | "cd" => some cd
  | "pwd" => some fun _ => pwd
  | "test" => some (test "test")
  | "[" => some (test "[")
  | "trap" => some trap
  | "kill" => some kill
  | "wait" => some (wait inner)
  | "umask" => some fun args => do
    if args.isEmpty then modify fun s => s.say "0022\n"
    succeed
  | "eval" => some fun args => do
    succeed
    Act.script inner (" ".intercalate args)
  | "." => some fun args => do
    let s ← get
    let p := args.headD ""
    match s.view.readText (s.path p) with
    | .ok text =>
      succeed
      Act.script inner text
    | .error _ => Act.abort (".: cannot open " ++ p ++ ": No such file")
  | _ => none

end Builtin

end LoadBench.Shell
