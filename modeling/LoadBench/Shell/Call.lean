import LoadBench.Shell.Programs
import LoadBench.Shell.Words

namespace LoadBench.Shell

open Text Text.Utf8

inductive ScriptSource where
  | text (script : String)
  | file (path : String)
  | input
deriving DecidableEq

structure Invocation where
  source : ScriptSource
  name : Option String
  params : List String
  options : List Char
deriving DecidableEq

namespace Invocation

def optionLetters : List Char := "acefimnsuvxbEIVC".toList

def ofArgs (options : List Char) : List String → Except String Invocation
  | [] => operands []
  | arg :: rest =>
    match arg.toList with
    | '-' :: '-' :: [] => operands rest
    | '-' :: l :: ls =>
      match (l :: ls).find? fun c => !optionLetters.contains c with
      | some c => .error ("Illegal option -" ++ c.toString)
      | none => ofArgs (options ++ (l :: ls)) rest
    | _ => operands (arg :: rest)
where
  operands : List String → Except String Invocation
    | [] => if options.contains 'c' then .error "-c requires an argument"
      else .ok ⟨.input, none, [], options⟩
    | first :: rest =>
      if options.contains 'c' then .ok ⟨.text first, rest.head?, rest.drop 1, options⟩
      else .ok ⟨.file first, some first, rest, options⟩

end Invocation

namespace Call

def isShell (command : String) : Bool := Program.nameOf command == "sh"

def shell (inner : Inner) (command : String) (args : List String) : Act Unit := do
  let refuse := fun text : String => do
    modify fun s => { s with name := command, line := 0 }
    Act.abort text
  match Invocation.ofArgs [] args with
  | .error text => refuse text
  | .ok call =>
    modify fun s => { s with
      name := call.name.getD command
      params := call.params
      options := call.options.filter (· != 'c')
      functions := []
      bindings := s.bindings.filter fun v => s.exported.contains v.1
      traps := s.traps.filter (·.2 == "") }
    match call.source with
    | .text text => Act.script inner text
    | .file path =>
      let s ← get
      match s.view.readText (s.path path) with
      | .ok text => Act.script inner text
      | .error _ => refuse ("cannot open " ++ path ++ ": No such file")
    | .input =>
      let text := decodeLossy (← get).input
      modify fun s => { s with input := [] }
      Act.script inner text

/-- Programs that read all their input unless they are given files. -/
def readers : List String := ["cat", "tr", "head", "tail", "wc", "sort", "grep", "tee"]

def awaitProgram (time : Option Duration) (code : Nat) : Act Unit := do
  let s ← get
  let ended := time.map (s.now + ·)
  let killed := s.inbox.find? fun d =>
    d.toGroup && s.now < d.time && ended.all (d.time ≤ ·) && !s.ignores d.signal
  match killed with
  | some d =>
    Act.awaitEnd (some d.time)
    Act.takeStatus (.signal d.signal)
  | none =>
    Act.awaitEnd ended
    modify (State.withStatus code)

def missing (command : String) : Act Unit := do
  let s ← get
  let isThere := (command.contains '/') && ((s.view.place (s.path command)).toOption.bind
    s.view.lookup?).isSome
  if isThere then Act.failed 126 (command ++ ": Permission denied")
  else Act.failed 127 (command ++ ": not found")

def program (inner : Inner) (command : String) (args : List String) : Act Unit := do
  modify (State.pass State.programTime)
  if isShell command then
    let arrange := fun s : State => { s with pid := s.nextPid, isSubshell := false }
    discard (Act.inSubshell inner (shell inner command args) arrange)
  else
    match Program.find? command with
    | none => missing command
    | some run =>
      let s ← get
      let result := run ⟨args, s.input, s.view, s.path⟩
      if readers.contains (Program.nameOf command) then modify fun s => { s with input := [] }
      modify fun s => result.changes.foldl (fun s c => s.change c)
        ((s.emit State.standardOutput result.output).emit State.standardError result.errors)
      awaitProgram result.time result.code

def replace (inner : Inner) (command : String) (args : List String) : Act Unit := do
  modify fun s => { s with traps := s.traps.filter (·.2 == "") }
  if isShell command then shell inner command args
  else program inner command args
  throw (.exit (← get).status)

end Call

end LoadBench.Shell
