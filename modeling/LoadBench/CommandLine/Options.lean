namespace LoadBench.CommandLine

inductive Stop where
  | help
  | version
  | missingCommand
  | unknownCommand
  | unknownArgument
  | invalidValue
  | invalidNumber
  | repeated
  | unexpectedValue
deriving DecidableEq

def Stop.exitCode : Stop → Nat
  | .help => 0
  | .version => 0
  | _ => 2

structure Opt (α : Type) where
  name : String
  takesValue : Bool
  apply : String → α → Except Stop α

inductive Shape where
  | separator
  | long (name : String) (attached : Option String)
  | short (first : Char)
  | word
deriving DecidableEq

def splitAttached (cs : List Char) : String × Option String :=
  (String.ofList (cs.takeWhile (· != '=')),
    match cs.dropWhile (· != '=') with
    | [] => none
    | _ :: rest => some (String.ofList rest))

def Shape.of (argument : String) : Shape :=
  match argument.toList with
  | ['-', '-'] => .separator
  | '-' :: '-' :: rest =>
    let (name, attached) := splitAttached rest
    .long name attached
  | '-' :: c :: _ => .short c
  | _ => .word

/-- Arguments are taken from left to right. An option whose value is the next argument is `waiting`
until the argument after that one has been recognized, so its value is looked at then. -/
structure Progress (α : Type) where
  settings : α
  given : List String
  waiting : Option (Opt α × Option String)

namespace Progress

variable {α : Type}

def apply (o : Opt α) (value : String) (p : Progress α) : Except Stop (Progress α) :=
  if p.given.contains o.name then .error .repeated
  else (o.apply value p.settings).map fun settings => ⟨settings, o.name :: p.given, none⟩

def settle (p : Progress α) : Except Stop (Progress α) :=
  match p.waiting with
  | none => .ok p
  | some (_, none) => .error .invalidValue
  | some (o, some value) => apply o value { p with waiting := none }

def long (options : List (Opt α)) (name : String) (attached : Option String) (p : Progress α) :
    Except Stop (Progress α) :=
  if name = "help" then
    if attached.isSome then .error .unexpectedValue
    else do
      let _ ← p.settle
      .error .help
  else
    match options.find? (·.name == name), attached with
    | none, _ => .error .unknownArgument
    | some o, none =>
      if o.takesValue then p.settle.map fun p => { p with waiting := some (o, none) }
      else p.settle >>= apply o ""
    | some o, some value =>
      if o.takesValue then p.settle >>= apply o value else .error .unexpectedValue

def short (c : Char) (p : Progress α) : Except Stop (Progress α) :=
  if c == 'h' then do
    let _ ← p.settle
    .error .help
  else .error .unknownArgument

def word (text : String) (p : Progress α) : Except Stop (Progress α) :=
  match p.waiting with
  | some (o, none) => .ok { p with waiting := some (o, some text) }
  | _ => .error .unknownArgument

end Progress

variable {α : Type}

def takeAll (options : List (Opt α)) (p : Progress α) : List String → Except Stop (Progress α)
  | [] => p.settle
  | argument :: rest =>
    match Shape.of argument with
    | .separator => if rest.isEmpty then p.settle else .error .unknownArgument
    | .long name attached => do takeAll options (← p.long options name attached) rest
    | .short c => do takeAll options (← p.short c) rest
    | .word => do takeAll options (← p.word argument) rest

def settings (options : List (Opt α)) (default : α) (arguments : List String) : Except Stop α :=
  (takeAll options ⟨default, [], none⟩ arguments).map (·.settings)

end LoadBench.CommandLine
