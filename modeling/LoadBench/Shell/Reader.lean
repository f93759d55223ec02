import LoadBench.Shell.Script
import LoadBench.Text.Numeral

namespace LoadBench.Shell

open Text

inductive ReadFault where
  | unterminatedQuote
  | missingBrace
  | missingParentheses
  | unterminatedBackquote
  | badLoopVariable
  | badSubstitution
  | unexpected (found : String) (expected : Option String)
  | tooDeep
deriving DecidableEq

def ReadFault.message : ReadFault → String
  | .unterminatedQuote => "Syntax error: Unterminated quoted string"
  | .missingBrace => "Syntax error: Missing '\x7d'"
  | .missingParentheses => "Syntax error: Missing '))'"
  | .unterminatedBackquote => "Syntax error: EOF in backquote substitution"
  | .badLoopVariable => "Syntax error: Bad for loop variable"
  | .badSubstitution => "Bad substitution"
  | .unexpected found none => "Syntax error: " ++ found ++ " unexpected"
  | .unexpected found (some expected) =>
    "Syntax error: " ++ found ++ " unexpected (expecting \x22" ++ expected ++ "\x22)"
  | .tooDeep => "Syntax error: nested too deeply"

namespace Reader

abbrev Read := Except ReadFault

abbrev After (α : Type) := α × List Char

/-- Readers for one level less, for what can contain a script or a word again. -/
structure Nested where
  items : List Char → Read (After (List Item))
  braced : List Char → Read (After Word)
  inside : List Char → Read Word

def isMeta (c : Char) : Bool :=
  c == ' ' || c == '\t' || c == '\n' || c == ';' || c == '&' || c == '|' || c == '<' || c == '>' ||
    c == '(' || c == ')'

def isNameStart (c : Char) : Bool :=
  (65 ≤ c.toNat && c.toNat ≤ 90) || (97 ≤ c.toNat && c.toNat ≤ 122) || c == '_'

def isNameChar (c : Char) : Bool := isNameStart c || Numeral.isDigit c

def isSpecial (c : Char) : Bool :=
  Numeral.isDigit c || c == '@' || c == '*' || c == '#' || c == '?' || c == '-' || c == '$' ||
    c == '!'

def skipBlanks : List Char → List Char
  | ' ' :: rest => skipBlanks rest
  | '\t' :: rest => skipBlanks rest
  | '\\' :: '\n' :: rest => skipBlanks rest
  | '#' :: rest => rest.dropWhile (· != '\n')
  | rest => rest

def skipLines : Nat → List Char → List Char
  | 0, cs => cs
  | fuel + 1, cs =>
    match skipBlanks cs with
    | '\n' :: rest => skipLines fuel rest
    | rest => rest

def plainWord (cs : List Char) : String := String.ofList (cs.takeWhile fun c => !isMeta c)

def closers : List String := ["then", "do", "done", "fi", "else", "elif", "esac", "\x7d"]

def tokenName (cs : List Char) : String :=
  match cs with
  | [] => "end of file"
  | '\n' :: _ => "newline"
  | ';' :: ';' :: _ => "\x22;;\x22"
  | '&' :: '&' :: _ => "\x22&&\x22"
  | '|' :: '|' :: _ => "\x22||\x22"
  | c :: _ =>
    if isMeta c then "\x22" ++ c.toString ++ "\x22"
    else if closers.contains (plainWord cs) then "\x22" ++ plainWord cs ++ "\x22"
    else "word"

def unexpected (cs : List Char) (expected : Option String) : Read (After α) :=
  .error (.unexpected (tokenName cs) expected)

def atEnd (cs : List Char) : Bool :=
  match cs with
  | [] => true
  | ')' :: _ => true
  | ';' :: ';' :: _ => true
  | _ => closers.contains (plainWord cs)

def expectWord (word : String) (cs : List Char) : Read (List Char) :=
  let rest := skipLines cs.length cs
  if plainWord rest == word then .ok (rest.drop word.length)
  else .error (.unexpected (tokenName rest) (some word))

def backquoted : List Char → Read (After (List Char))
  | [] => .error .unterminatedBackquote
  | '\x60' :: rest => .ok ([], rest)
  | '\\' :: c :: rest => do
    let (inner, rest) ← backquoted rest
    if c == '\x60' || c == '\\' || c == '$' then return (c :: inner, rest)
    return ('\\' :: c :: inner, rest)
  | c :: rest => do
    let (inner, rest) ← backquoted rest
    return (c :: inner, rest)

def arithmeticText : Nat → List Char → Read (After (List Char))
  | _, [] => .error .missingParentheses
  | 0, ')' :: ')' :: rest => .ok ([], rest)
  | depth, '(' :: rest => do
    let (inner, rest) ← arithmeticText (depth + 1) rest
    return ('(' :: inner, rest)
  | depth, ')' :: rest => do
    let (inner, rest) ← arithmeticText (depth - 1) rest
    return (')' :: inner, rest)
  | depth, c :: rest => do
    let (inner, rest) ← arithmeticText depth rest
    return (c :: inner, rest)

def modifier? : List Char → Option (Modifier × Bool × List Char)
  | ':' :: '-' :: rest => some (.default, true, rest)
  | ':' :: '=' :: rest => some (.assign, true, rest)
  | ':' :: '?' :: rest => some (.require, true, rest)
  | ':' :: '+' :: rest => some (.alternative, true, rest)
  | '-' :: rest => some (.default, false, rest)
  | '=' :: rest => some (.assign, false, rest)
  | '?' :: rest => some (.require, false, rest)
  | '+' :: rest => some (.alternative, false, rest)
  | '#' :: '#' :: rest => some (.dropStart true, false, rest)
  | '#' :: rest => some (.dropStart false, false, rest)
  | '%' :: '%' :: rest => some (.dropEnd true, false, rest)
  | '%' :: rest => some (.dropEnd false, false, rest)
  | _ => none

def bracedName (cs : List Char) : String × List Char :=
  match cs with
  | [] => ("", [])
  | c :: rest =>
    if isNameStart c then (String.ofList (cs.takeWhile isNameChar), cs.dropWhile isNameChar)
    else if Numeral.isDigit c then
      (String.ofList (cs.takeWhile Numeral.isDigit), cs.dropWhile Numeral.isDigit)
    else if isSpecial c then (c.toString, rest)
    else ("", cs)

def bracedParam (nested : Nested) (quoted : Bool) (cs : List Char) : Read (After Piece) :=
  let plain : Read (After Piece) :=
    let (name, rest) := bracedName cs
    if name == "" then .error .badSubstitution
    else
      match rest with
      | '\x7d' :: rest => .ok (.param quoted name none false [], rest)
      | rest =>
        match modifier? rest with
        | none => .error (if rest.isEmpty then .missingBrace else .badSubstitution)
        | some (modifier, orEmpty, rest) => do
          let (word, rest) ← nested.braced rest
          return (.param quoted name (some modifier) orEmpty word, rest)
  match cs with
  | '#' :: more =>
    match bracedName more with
    | (name, '\x7d' :: rest) =>
      if name == "" then plain else .ok (.param quoted name (some .length) false [], rest)
    | _ => plain
  | _ => plain

def dollar (nested : Nested) (quoted : Bool) (cs : List Char) : Read (After Piece) :=
  match cs with
  | '(' :: '(' :: rest => do
    let (inner, rest) ← arithmeticText 0 rest
    return (.number quoted (← nested.inside inner), rest)
  | '(' :: rest => do
    let (script, rest) ← nested.items rest
    match rest with
    | ')' :: rest => return (.output quoted script, rest)
    | rest => unexpected rest (some ")")
  | '\x7b' :: rest => bracedParam nested quoted rest
  | c :: rest =>
    if isNameStart c then
      .ok (.param quoted (String.ofList (cs.takeWhile isNameChar)) none false [],
        cs.dropWhile isNameChar)
    else if isSpecial c then .ok (.param quoted c.toString none false [], rest)
    else .ok (.text quoted ['$'], cs)
  | [] => .ok (.text quoted ['$'], [])

def backquote (nested : Nested) (quoted : Bool) (cs : List Char) : Read (After Piece) := do
  let (inner, rest) ← backquoted cs
  match ← nested.items inner with
  | (script, []) => return (.output quoted script, rest)
  | (_, more) => unexpected more none

def quotedPieces (nested : Nested) (ending : Option Char) : Nat → List Char → Read (After Word)
  | 0, _ => .error .tooDeep
  | fuel + 1, cs =>
    match cs with
    | [] => if ending.isNone then .ok ([], []) else .error .unterminatedQuote
    | '\\' :: '\n' :: rest => quotedPieces nested ending fuel rest
    | '\\' :: c :: rest => do
      let (pieces, rest) ← quotedPieces nested ending fuel rest
      if c == '$' || c == '\x60' || c == '\x22' || c == '\\' then
        return (.text true [c] :: pieces, rest)
      return (.text true ['\\', c] :: pieces, rest)
    | '$' :: rest => do
      let (piece, rest) ← dollar nested true rest
      let (pieces, rest) ← quotedPieces nested ending fuel rest
      return (piece :: pieces, rest)
    | '\x60' :: rest => do
      let (piece, rest) ← backquote nested true rest
      let (pieces, rest) ← quotedPieces nested ending fuel rest
      return (piece :: pieces, rest)
    | c :: rest =>
      if some c == ending then .ok ([], rest)
      else do
        let (pieces, rest) ← quotedPieces nested ending fuel rest
        return (.text true [c] :: pieces, rest)

def pieces (nested : Nested) (ends : Char → Bool) : Nat → List Char → Read (After Word)
  | 0, _ => .error .tooDeep
  | fuel + 1, cs =>
    match cs with
    | [] => .ok ([], [])
    | '\\' :: '\n' :: rest => pieces nested ends fuel rest
    | '\\' :: c :: rest => do
      let (more, rest) ← pieces nested ends fuel rest
      return (.text true [c] :: more, rest)
    | '\'' :: rest =>
      match rest.dropWhile (· != '\'') with
      | [] => .error .unterminatedQuote
      | _ :: after => do
        let (more, after) ← pieces nested ends fuel after
        return (.text true (rest.takeWhile (· != '\'')) :: more, after)
    | '\x22' :: rest => do
      let (quoted, rest) ← quotedPieces nested (some '\x22') (rest.length + 1) rest
      let (more, rest) ← pieces nested ends fuel rest
      return (.text true [] :: quoted ++ more, rest)
    | '$' :: rest => do
      let (piece, rest) ← dollar nested false rest
      let (more, rest) ← pieces nested ends fuel rest
      return (piece :: more, rest)
    | '\x60' :: rest => do
      let (piece, rest) ← backquote nested false rest
      let (more, rest) ← pieces nested ends fuel rest
      return (piece :: more, rest)
    | c :: rest =>
      if ends c then .ok ([], cs)
      else do
        let (more, rest) ← pieces nested ends fuel rest
        return (.text false [c] :: more, rest)

def word (nested : Nested) (cs : List Char) : Read (After Word) :=
  pieces nested isMeta (cs.length + 1) cs

def redirection? : List Char → Option (Redirection × Nat × List Char)
  | '>' :: '>' :: rest => some (.append, 1, rest)
  | '>' :: '&' :: rest => some (.copy, 1, rest)
  | '>' :: '|' :: rest => some (.write, 1, rest)
  | '>' :: rest => some (.write, 1, rest)
  | '<' :: '&' :: rest => some (.copy, 0, rest)
  | '<' :: rest => some (.read, 0, rest)
  | _ => none

def redirect (nested : Nested) (cs : List Char) : Read (Option (Redirect × List Char)) :=
  let digits := cs.takeWhile Numeral.isDigit
  match redirection? (cs.drop digits.length) with
  | none => .ok none
  | some (kind, standard, rest) => do
    let (target, after) ← word nested (skipBlanks rest)
    if target.isEmpty then .error (.unexpected (tokenName after) none)
    return some (.mk (if digits.isEmpty then standard else Numeral.value digits) kind target, after)

def redirects (nested : Nested) : Nat → List Char → Read (After (List Redirect))
  | 0, cs => .ok ([], cs)
  | fuel + 1, cs => do
    match ← redirect nested (skipBlanks cs) with
    | none => return ([], cs)
    | some (r, rest) =>
      let (more, rest) ← redirects nested fuel rest
      return (r :: more, rest)

def closing (nested : Nested) (cs : List Char) (make : List Redirect → Command) :
    Read (After Command) := do
  let (rs, rest) ← redirects nested cs.length cs
  return (make rs, rest)

def assignment? (w : Word) : Option (String × Word) :=
  let lead := w.takeWhile fun
    | .text false [c] => c != '='
    | _ => false
  let name := lead.flatMap fun
    | .text _ cs => cs
    | _ => []
  match name, w.drop lead.length with
  | c :: _, .text false ['='] :: value =>
    if isNameStart c && name.all isNameChar then some (String.ofList name, value) else none
  | _, _ => none

structure Simple where
  assigned : List (String × Word)
  words : List Word
  redirects : List Redirect

def simple (nested : Nested) : Nat → Simple → List Char → Read (After Simple)
  | 0, s, cs => .ok (s, cs)
  | fuel + 1, s, cs => do
    let cs := skipBlanks cs
    match ← redirect nested cs with
    | some (r, rest) => simple nested fuel { s with redirects := s.redirects ++ [r] } rest
    | none =>
      let (w, rest) ← word nested cs
      if w.isEmpty then return (s, cs)
      match s.words, assignment? w with
      | [], some a => simple nested fuel { s with assigned := s.assigned ++ [a] } rest
      | _, _ => simple nested fuel { s with words := s.words ++ [w] } rest

def wordList (nested : Nested) : Nat → List Char → Read (After (List Word))
  | 0, cs => .ok ([], cs)
  | fuel + 1, cs => do
    let (w, rest) ← word nested (skipBlanks cs)
    if w.isEmpty then return ([], rest)
    let (more, rest) ← wordList nested fuel rest
    return (w :: more, rest)

def someItems (nested : Nested) (cs : List Char) : Read (After (List Item)) := do
  match ← nested.items cs with
  | ([], rest) => unexpected rest none
  | read => return read

def branches (nested : Nested) :
    Nat → List Char → Read (After (List (List Item × List Item) × List Item))
  | 0, _ => .error .tooDeep
  | fuel + 1, cs => do
    let (condition, rest) ← someItems nested cs
    let (body, rest) ← someItems nested (← expectWord "then" rest)
    match plainWord rest with
    | "elif" =>
      let ((more, otherwise), rest) ← branches nested fuel (rest.drop 4)
      return (((condition, body) :: more, otherwise), rest)
    | "else" =>
      let (otherwise, rest) ← someItems nested (rest.drop 4)
      return (([(condition, body)], otherwise), ← expectWord "fi" rest)
    | _ => return (([(condition, body)], []), ← expectWord "fi" rest)

def loopBody (nested : Nested) (cs : List Char) : Read (After (List Item)) := do
  let (body, rest) ← someItems nested (← expectWord "do" cs)
  return (body, ← expectWord "done" rest)

def skipSemicolon (cs : List Char) : List Char :=
  match skipBlanks cs with
  | ';' :: rest => rest
  | rest => rest

def forLoop (nested : Nested) (cs : List Char) : Read (After Command) := do
  let cs := skipBlanks cs
  let name := cs.takeWhile isNameChar
  let rest := skipLines cs.length (cs.dropWhile isNameChar)
  if cs.isEmpty then .error .badLoopVariable
  if name.isEmpty || name.head?.any Numeral.isDigit then .error .badLoopVariable
  let (words, rest) ←
    if plainWord rest == "in" then do
      let (words, rest) ← wordList nested rest.length (rest.drop 2)
      pure (some words, rest)
    else pure (none, rest)
  let (body, rest) ← loopBody nested (skipSemicolon rest)
  closing nested rest (.each (String.ofList name) words body)

def patterns (nested : Nested) : Nat → List Char → Read (After (List Word))
  | 0, _ => .error .tooDeep
  | fuel + 1, cs => do
    let (w, rest) ← word nested (skipBlanks cs)
    match skipBlanks rest with
    | '|' :: rest =>
      let (more, rest) ← patterns nested fuel rest
      return (w :: more, rest)
    | ')' :: rest => return ([w], rest)
    | rest => unexpected rest (some ")")

def arms (nested : Nested) : Nat → List Char → Read (After (List (List Word × List Item)))
  | 0, _ => .error .tooDeep
  | fuel + 1, cs => do
    let cs := skipLines cs.length cs
    if plainWord cs == "esac" then return ([], cs.drop 4)
    let start := match cs with
      | '(' :: rest => rest
      | rest => rest
    let (patterns, rest) ← patterns nested (start.length + 1) start
    let (body, rest) ← nested.items rest
    match skipLines rest.length rest with
    | ';' :: ';' :: rest =>
      let (more, rest) ← arms nested fuel rest
      return ((patterns, body) :: more, rest)
    | rest => return ([(patterns, body)], ← expectWord "esac" rest)

def caseOf (nested : Nested) (cs : List Char) : Read (After Command) := do
  let (w, rest) ← word nested (skipBlanks cs)
  let rest ← expectWord "in" rest
  let (arms, rest) ← arms nested (rest.length + 1) rest
  closing nested rest (.select w arms)

def simpleCommand (nested : Nested) (command : List Char → Read (After Command)) (lines : Nat)
    (cs : List Char) : Read (After Command) := do
  let name := plainWord cs
  match skipBlanks (cs.drop name.length), name.toList.all isNameChar && name != "" with
  | '(' :: more, true =>
    match skipBlanks more with
    | ')' :: more =>
      let (body, rest) ← command (skipLines more.length more)
      return (.define name body, rest)
    | more => unexpected more (some ")")
  | _, _ =>
    let (s, rest) ← simple nested (cs.length + 1) ⟨[], [], []⟩ cs
    if s.words.isEmpty && s.assigned.isEmpty && s.redirects.isEmpty then unexpected rest none
    else
      let line := lines + 1 - (cs.filter (· == '\n')).length
      return (.simple line s.assigned s.words s.redirects, rest)

def command (nested : Nested) (lines : Nat) : Nat → List Char → Read (After Command)
  | 0, _ => .error .tooDeep
  | fuel + 1, cs =>
    match skipBlanks cs with
    | '(' :: rest => do
      let (body, rest) ← someItems nested rest
      match rest with
      | ')' :: rest => closing nested rest (.subshell body)
      | rest => unexpected rest (some ")")
    | cs =>
      match plainWord cs with
      | "\x7b" => do
        let (body, rest) ← someItems nested (cs.drop 1)
        closing nested (← expectWord "\x7d" rest) (.block body)
      | "if" => do
        let ((branches, otherwise), rest) ← branches nested cs.length (cs.drop 2)
        closing nested rest (.choose branches otherwise)
      | "while" => do
        let (condition, rest) ← someItems nested (cs.drop 5)
        let (body, rest) ← loopBody nested rest
        closing nested rest (.repeated false condition body)
      | "until" => do
        let (condition, rest) ← someItems nested (cs.drop 5)
        let (body, rest) ← loopBody nested rest
        closing nested rest (.repeated true condition body)
      | "for" => forLoop nested (cs.drop 3)
      | "case" => caseOf nested (cs.drop 4)
      | _ => simpleCommand nested (command nested lines fuel) lines cs

def stages (nested : Nested) (lines : Nat) : Nat → List Char → Read (After (List Command))
  | 0, _ => .error .tooDeep
  | fuel + 1, cs => do
    let (first, rest) ← command nested lines (cs.length + 1) cs
    match skipBlanks rest with
    | '|' :: '|' :: _ => return ([first], rest)
    | '|' :: more =>
      let (others, rest) ← stages nested lines fuel (skipLines more.length more)
      return (first :: others, rest)
    | _ => return ([first], rest)

def pipeline (nested : Nested) (lines : Nat) (cs : List Char) : Read (After Command) := do
  let cs := skipBlanks cs
  let negated := plainWord cs == "!"
  let cs := if negated then cs.drop 1 else cs
  let (all, rest) ← stages nested lines (cs.length + 1) cs
  match all, negated with
  | [only], false => return (only, rest)
  | all, _ => return (.pipeline negated all, rest)

def chain (nested : Nested) (lines : Nat) : Nat → Command → List Char → Read (After Command)
  | 0, left, cs => .ok (left, cs)
  | fuel + 1, left, cs =>
    match skipBlanks cs with
    | '&' :: '&' :: rest => do
      let (right, rest) ← pipeline nested lines (skipLines rest.length rest)
      chain nested lines fuel (.both left right) rest
    | '|' :: '|' :: rest => do
      let (right, rest) ← pipeline nested lines (skipLines rest.length rest)
      chain nested lines fuel (.either left right) rest
    | _ => .ok (left, cs)

/-- Items up to something that ends a list. With `oneLine` the end of a line does too. -/
def itemsFrom (nested : Nested) (lines : Nat) (oneLine : Bool) :
    Nat → List Char → Read (After (List Item))
  | 0, _ => .error .tooDeep
  | fuel + 1, cs => do
    let cs := if oneLine then skipBlanks cs else skipLines cs.length cs
    if atEnd cs || (oneLine && cs.head? == some '\n') then return ([], cs)
    let (first, rest) ← pipeline nested lines cs
    let (whole, rest) ← chain nested lines rest.length first rest
    match skipBlanks rest with
    | ';' :: ';' :: more => return ([.mk whole false], ';' :: ';' :: more)
    | ';' :: rest =>
      let (others, rest) ← itemsFrom nested lines oneLine fuel rest
      return (.mk whole false :: others, rest)
    | '&' :: rest =>
      let (others, rest) ← itemsFrom nested lines oneLine fuel rest
      return (.mk whole true :: others, rest)
    | '\n' :: rest =>
      if oneLine then return ([.mk whole false], '\n' :: rest)
      let (others, rest) ← itemsFrom nested lines oneLine fuel rest
      return (.mk whole false :: others, rest)
    | rest => return ([.mk whole false], rest)

def nested (lines : Nat) : Nat → Nested
  | 0 => ⟨fun _ => .error .tooDeep, fun _ => .error .tooDeep, fun _ => .error .tooDeep⟩
  | depth + 1 =>
    let inner := nested lines depth
    { items := fun cs => itemsFrom inner lines false (cs.length + 1) cs
      braced := fun cs => do
        match ← pieces inner (· == '\x7d') (cs.length + 1) cs with
        | (w, '\x7d' :: rest) => return (w, rest)
        | _ => .error .missingBrace
      inside := fun cs => (quotedPieces inner none (cs.length + 1) cs).map (·.1) }

def deepest : Nat := 100

/-- The items on the first lines left of a script of so many lines, and the lines after them. What
is read together is run together, before an error further down is found. -/
def firstItems (lines : Nat) (text : List Char) : Read (After (List Item)) := do
  let (items, rest) ← itemsFrom (nested lines deepest) lines true (text.length + 1) text
  match rest with
  | [] => return (items, [])
  | '\n' :: rest => return (items, rest)
  | rest => unexpected rest none

end Reader

end LoadBench.Shell
