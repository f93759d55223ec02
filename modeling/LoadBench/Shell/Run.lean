import LoadBench.Shell.Builtins

namespace LoadBench.Shell

open Text

namespace Redirect

def streamPath? (path : String) : Option Nat :=
  [("/dev/stdout", 1), ("/dev/stderr", 2), ("/dev/fd/1", 1), ("/dev/fd/2", 2)].lookup path

def openFile (descriptor : Nat) (fresh : Bool) (target : String) : Act Bool := do
  let s ← get
  let path := s.path target
  match streamPath? target with
  | some n =>
    modify fun s => s.setSink descriptor ((s.sink n).getD .nowhere)
    return true
  | none =>
    match s.view.write path [] with
    | .ok _ =>
      let change := if fresh then Change.truncate path else .append path []
      modify fun s => (s.change change).setSink descriptor (.file path)
      return true
    | .error fault =>
      let why := match fault with
        | .isFolder => "Is a directory"
        | .nameTooLong => "File name too long"
        | _ => "Directory nonexistent"
      Act.failed 2 ("cannot create " ++ target ++ ": " ++ why)
      return false

def apply (inner : Inner) : Redirect → Act Bool
  | .mk descriptor kind target => do
    let text ← Words.text inner target
    let s ← get
    match kind with
    | .write => openFile descriptor true text
    | .append => openFile descriptor false text
    | .read =>
      match s.view.read (s.path text) with
      | .ok bytes => set { s with input := bytes }
      | .error .isFolder => set { s with input := [] }
      | .error _ =>
        Act.failed 2 ("cannot open " ++ text ++ ": No such file")
        return false
      return true
    | .copy =>
      if text == "-" then
        set { s with sinks := s.sinks.filter (·.1 != descriptor) }
        return true
      if !Numeral.allDigits text.toList then openFile descriptor true text
      else
        match s.sink (Numeral.value text.toList) with
        | some sink => set (s.setSink descriptor sink)
        | none =>
          if text != "0" then
            Act.failed 2 (text ++ ": Bad file descriptor")
            return false
        return true

def applyAll (inner : Inner) : List Redirect → Act Bool
  | [] => return true
  | r :: rest => do
    if ← apply inner r then applyAll inner rest
    else return false

def isRead : Redirect → Bool
  | .mk _ .read _ => true
  | .mk _ _ _ => false

def around (inner : Inner) (redirects : List Redirect) (step : Act Unit) : Act Unit := do
  let before ← get
  let restore := fun s : State => { s with
    sinks := before.sinks
    input := if redirects.any isRead then before.input else s.input }
  Act.ensuring (do if ← applyAll inner redirects then step) restore

end Redirect

namespace Command

def runsScript (word : Word) : Bool :=
  word.any fun
    | .output _ _ => true
    | _ => false

def assign (inner : Inner) : List (String × Word) → Act Unit
  | [] => pure ()
  | (name, word) :: rest => do
    let text ← Words.text inner word
    modify (State.setVariable name text)
    assign inner rest

def callFunction (inner : Inner) (body : Command) (args : List String) : Act Unit := do
  let before ← get
  modify fun s => { s with params := args, loops := 0 }
  let restore := fun s : State => { s with params := before.params, loops := before.loops }
  try
    Act.ensuring (inner.items [.mk body false]) restore
  catch flow =>
    if flow != .returned then throw flow

def invoke (inner : Inner) (functions : Bool) (name : String) (args : List String) : Act Unit := do
  let s ← get
  let body := if functions then s.functions.lookup name else none
  match body, Builtin.find? inner name with
  | some body, _ => callFunction inner body args
  | none, some builtin => builtin args
  | none, none => Call.program inner name args

def dispatch (inner : Inner) (name : String) (args : List String) : Act Unit := do
  match name, args with
  | "command", "-v" :: names =>
    let s ← get
    match names.mapM (Builtin.whereIs s) with
    | some places => modify fun s => (s.say ("\n".intercalate places ++ "\n")).withStatus 0
    | none => modify (State.withStatus 127)
  | "command", name :: args => invoke inner false name args
  | "command", [] => Builtin.succeed
  | "exec", name :: args =>
    if (Program.find? name).isSome || Call.isShell name then Call.replace inner name args
    else
      Call.missing ("exec: " ++ name)
      throw (.exit (← get).status)
  | name, args => invoke inner true name args

def runSimple (inner : Inner) (line : Nat) (assigned : List (String × Word)) (words : List Word)
    (redirects : List Redirect) : Act Unit := do
  modify fun s => { s.pass State.builtinTime with line }
  let before ← get
  let fields ← Words.fields inner words
  if before.options.contains 'x' && !fields.isEmpty then
    modify fun s => s.emit State.standardError
      (Text.Utf8.encode ("+ " ++ " ".intercalate fields ++ "\n"))
  match fields with
  | [] =>
    if words.isEmpty && !(assigned.any fun a => runsScript a.2) then
      assign inner assigned
      Builtin.succeed
    else assign inner assigned
    Redirect.around inner redirects (pure ())
  | ["exec"] =>
    if !(← Redirect.applyAll inner redirects) then throw (.exit 2)
    Builtin.succeed
  | name :: args =>
    let own := assigned.map (·.1)
    let restore := fun s : State => { s with
      bindings := (before.bindings.filter fun v => own.contains v.1) ++
        s.bindings.filter fun v => !own.contains v.1
      exported := if own.isEmpty then s.exported else before.exported }
    let step := do
      assign inner assigned
      modify fun s => { s with exported := own ++ s.exported }
      dispatch inner name args
    let after := if own.isEmpty || Builtin.isKnown name then id else restore
    Redirect.around inner redirects (Act.ensuring step after)

def tested (step : Act Unit) : Act Unit := do
  let before := (← get).tested
  modify fun s => { s with tested := true }
  Act.ensuring step fun s => { s with tested := before }

def succeeds (inner : Inner) (items : List Item) : Act Bool := do
  tested (inner.items items)
  return (← get).status == 0

def runChoice (inner : Inner) (otherwise : List Item) : List (List Item × List Item) → Act Unit
  | [] => if otherwise.isEmpty then Builtin.succeed else inner.items otherwise
  | (condition, body) :: rest => do
    if ← succeeds inner condition then inner.items body
    else runChoice inner otherwise rest

def runBody (inner : Inner) (items : List Item) : Act Bool := do
  let before := (← get).loops
  modify fun s => { s with loops := before + 1 }
  try
    Act.ensuring (inner.items items) fun s => { s with loops := before }
    return true
  catch flow =>
    match flow with
    | .leave 0 => return false
    | .leave (n + 1) => throw (.leave n)
    | .again 0 => return true
    | .again (n + 1) => throw (.again n)
    | flow => throw flow

/-- Rounds of a loop. Each takes the time of a command at least. -/
def rounds (inner : Inner) (untilTrue : Bool) (condition items : List Item) : Nat → Act Unit
  | 0 => throw .cut
  | fuel + 1 => do
    let status := (← get).status
    if (← succeeds inner condition) == untilTrue then modify (State.withStatus status)
    else if ← runBody inner items then rounds inner untilTrue condition items fuel

def runEach (inner : Inner) (name : String) (items : List Item) : List String → Act Unit
  | [] => pure ()
  | value :: rest => do
    modify (State.setVariable name value)
    if ← runBody inner items then runEach inner name items rest

def matchesAny (inner : Inner) (text : String) : List Word → Act Bool
  | [] => return false
  | pattern :: rest => do
    let marks ← Words.marks inner pattern
    if Glob.fits (Glob.ofMarks (marks.length + 1) marks) text.toList then return true
    matchesAny inner text rest

def runSelection (inner : Inner) (text : String) : List (List Word × List Item) → Act Unit
  | [] => Builtin.succeed
  | (patterns, items) :: rest => do
    if ← matchesAny inner text patterns then
      Builtin.succeed
      inner.items items
    else runSelection inner text rest

def stages (inner : Inner) : List Command → Act Unit
  | [] => pure ()
  | [last] => discard (Act.inSubshell inner (inner.items [.mk last false]) id)
  | first :: rest => do
    let before ← get
    let id := before.nextStream
    let child ← Act.inSubshell inner (inner.items [.mk first false]) fun s =>
      { s.setSink State.standardOutput (.stream id) with nextStream := id + 1 }
    let written := (child.outcome .next).emissions.filter (·.stream == id)
    modify fun s => { s with
      emissions := s.emissions.filter (·.stream != id)
      input := (written.mergeSort fun a b => a.time ≤ b.time).flatMap (·.bytes) }
    Act.ensuring (stages inner rest) fun s => { s with input := before.input }

def run (inner : Inner) : Command → Act Unit
  | .simple line assigned words redirects => runSimple inner line assigned words redirects
  | .block items redirects => Redirect.around inner redirects (inner.items items)
  | .subshell items redirects =>
    Redirect.around inner redirects (discard (Act.inSubshell inner (inner.items items) id))
  | .choose branches otherwise redirects =>
    Redirect.around inner redirects (runChoice inner otherwise branches)
  | .repeated untilTrue condition items redirects =>
    Redirect.around inner redirects do
      let s ← get
      modify (State.withStatus 0)
      rounds inner untilTrue condition items (s.horizon / State.builtinTime + 1)
  | .each name words items redirects =>
    Redirect.around inner redirects do
      let s ← get
      let values ← match words with
        | some words => Words.fields inner words
        | none => pure s.params
      modify (State.withStatus 0)
      runEach inner name items values
  | .select word arms redirects =>
    Redirect.around inner redirects do
      let text ← Words.text inner word
      runSelection inner text arms
  | .pipeline negated commands => do
    let step := match commands with
      | [only] => inner.items [.mk only false]
      | commands => stages inner commands
    if negated then
      tested step
      modify fun s => s.withStatus (if s.status == 0 then 1 else 0)
    else step
  | .both first second => do
    if ← succeeds inner [.mk first false] then inner.items [.mk second false]
  | .either first second => do
    if !(← succeeds inner [.mk first false]) then inner.items [.mk second false]
  | .define name body => modify fun s => { s with
      functions := (name, body) :: s.functions.filter (·.1 != name)
      status := 0 }

/-- Whether the shell may end because a command of this kind failed. -/
def canEndShell : Command → Bool
  | .simple _ _ _ _ => true
  | .subshell _ _ => true
  | .pipeline negated _ => !negated
  | _ => false

end Command

/-- What a shell in the background runs for a command: a subshell needs no other shell there. -/
def ownCommand : Command → Command
  | .subshell items redirects => .block items redirects
  | command => command

def runItems (inner : Inner) : List Item → Act Unit
  | [] => pure ()
  | .mk command background :: rest => do
    if background then
      modify (State.pass State.builtinTime)
      Act.inBackground inner (Command.run inner (ownCommand command))
    else Command.run inner command
    Act.signals inner
    let s ← get
    if s.options.contains 'e' && !s.tested && s.status != 0 && command.canEndShell && !background
    then throw (.exit s.status)
    runItems inner rest

def innerAt : Nat → Inner
  | 0 => ⟨fun _ => throw (.exit 2), fun _ => throw (.exit 2)⟩
  | depth + 1 =>
    let inner := innerAt depth
    ⟨runItems inner, Words.marks inner⟩

def deepestRun : Nat := 400

end LoadBench.Shell
