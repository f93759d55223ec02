import LoadBench.Shell.Action
import LoadBench.Shell.Format

namespace LoadBench.Shell

open Text Text.Utf8

namespace Words

def textOf (marks : List Mark) : String := Mark.text marks

def allParams (quoted : Bool) (params : List String) : List Mark :=
  let each := params.map fun p =>
    (if quoted then [.quote] else []) ++ Mark.ofText quoted (!quoted) p
  List.intercalate [.divide] each

def valueMarks (quoted : Bool) (name : String) (s : State) : List Mark :=
  if name == "@" || (name == "*" && !quoted) then allParams quoted s.params
  else Mark.ofText quoted (!quoted) ((s.value? name).getD "")

def quotedMarks (quoted : Bool) (marks : List Mark) : List Mark :=
  if quoted then marks.map fun
    | .char _ _ c => .char true false c
    | mark => mark
  else marks

def modified (inner : Inner) (quoted : Bool) (name : String) (modifier : Modifier) (orEmpty : Bool)
    (word : Word) : Act (List Mark) := do
  let s ← get
  let value := s.value? name
  let missing := value.isNone || (orEmpty && value == some "")
  let present := valueMarks quoted name s
  let cut := fun (drop : List Glob → List Char → List Char) => do
    let pattern ← inner.marks word
    let glob := Glob.ofMarks (pattern.length + 1) pattern
    return Mark.ofText quoted (!quoted) (String.ofList (drop glob (value.getD "").toList))
  match modifier with
  | .length => return Mark.ofText quoted (!quoted) (Numeral.toString (value.getD "").utf8ByteSize)
  | .default =>
    if missing then return quotedMarks quoted (← inner.marks word)
    return present
  | .assign =>
    if missing then
      let text := textOf (← inner.marks word)
      modify (State.setVariable name text)
      return Mark.ofText quoted (!quoted) text
    return present
  | .require =>
    if missing then
      let text := textOf (← inner.marks word)
      let text := if text == "" then
          if orEmpty then "parameter not set or null" else "parameter not set"
        else text
      Act.abort (name ++ ": " ++ text)
    return present
  | .alternative =>
    if missing then return []
    return quotedMarks quoted (← inner.marks word)
  | .dropStart longest => cut (Glob.dropStart longest)
  | .dropEnd longest => cut (Glob.dropEnd longest)

def outputOf (inner : Inner) (script : List Item) : Act String := do
  let id := (← get).nextStream
  let child ← Act.inSubshell inner (inner.items script) fun s =>
    { s.setSink State.standardOutput (.stream id) with nextStream := id + 1 }
  let written := (child.outcome .next).emissions.filter (·.stream == id)
  modify fun s => { s with emissions := s.emissions.filter (·.stream != id) }
  let bytes := (written.mergeSort fun a b => a.time ≤ b.time).flatMap (·.bytes)
  let kept := (bytes.reverse.dropWhile (· == 10)).reverse.filter (· != 0)
  return decodeLossy kept

def arithmetic (inner : Inner) (expression : Word) : Act String := do
  let text := textOf (← inner.marks expression)
  let s ← get
  let find := fun name => Format.integer ((s.value? name).getD "0")
  let (target, text) := match Arithmetic.assignment? text with
    | some (name, none, rest) => (some name, rest)
    | some (name, some op, rest) => (some name, name ++ op ++ "(" ++ rest ++ ")")
    | none => (none, text)
  match Arithmetic.evaluate? find text with
  | some n =>
    let value := Numeral.intToString n
    if let some name := target then modify (State.setVariable name value)
    return value
  | none =>
    let divides := text.contains '/' || text.contains '%'
    Act.abort ("arithmetic expression: " ++
      (if divides then "division by zero" else "expecting primary") ++ ": \x22" ++ text ++ "\x22")

def pieceMarks (inner : Inner) : Piece → Act (List Mark)
  | .text true [] => return [.quote]
  | .text quoted cs =>
    return (if quoted then [.quote] else []) ++ cs.map (.char quoted false)
  | .param quoted name none _ _ => do
    let s ← get
    if s.options.contains 'u' && (s.value? name).isNone && name != "@" && name != "*" then
      Act.abort (name ++ ": parameter not set")
    return valueMarks quoted name s
  | .param quoted name (some modifier) orEmpty word =>
    modified inner quoted name modifier orEmpty word
  | .output quoted script => do
    return Mark.ofText quoted (!quoted) (← outputOf inner script)
  | .number quoted expression => do
    return Mark.ofText quoted (!quoted) (← arithmetic inner expression)

/-- The marks of a word. All parameters between quotation marks are no field if there are none. -/
def marks (inner : Inner) (word : Word) : Act (List Mark) := do
  match word with
  | [.text true [], .param true "@" none _ _] => return valueMarks true "@" (← get)
  | word => return (← word.mapM (pieceMarks inner)).flatten

def fields (inner : Inner) (words : List Word) : Act (List String) := do
  return (← words.mapM fun w => do return Mark.fields (← marks inner w)).flatten

def text (inner : Inner) (word : Word) : Act String := do return textOf (← marks inner word)

end Words

end LoadBench.Shell
