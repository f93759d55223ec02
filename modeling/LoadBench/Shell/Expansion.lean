import LoadBench.Shell.Format

namespace LoadBench.Shell

open Text

inductive Mark where
  /-- A character. One that splits ends a field if it is blank; a quoted one is no pattern. -/
  | char (quoted splits : Bool) (c : Char)
  | divide
  /-- Quotation marks, which make a field even of nothing. -/
  | quote

namespace Mark

def ofText (quoted splits : Bool) (text : String) : List Mark :=
  text.toList.map (.char quoted splits)

def isBlank (c : Char) : Bool := c == ' ' || c == '\t' || c == '\n'

def close (field : Option (List Char)) (fields : List String) : List String :=
  match field with
  | some cs => String.ofList cs.reverse :: fields
  | none => fields

def fieldsFrom (field : Option (List Char)) : List Mark → List String
  | [] => close field []
  | .divide :: rest => close field (fieldsFrom none rest)
  | .quote :: rest => fieldsFrom (some (field.getD [])) rest
  | .char _ splits c :: rest =>
    if splits && isBlank c then close field (fieldsFrom none rest)
    else fieldsFrom (some (c :: field.getD [])) rest

def fields (marks : List Mark) : List String := fieldsFrom none marks

def text (marks : List Mark) : String :=
  String.ofList (marks.filterMap fun
    | .char _ _ c => some c
    | .divide => some ' '
    | .quote => none)

end Mark

inductive Glob where
  | any
  | one
  | char (c : Char)
  | range (outside : Bool) (ranges : List (Char × Char))

namespace Glob

def ranges : List Char → List (Char × Char)
  | a :: '-' :: b :: rest => (a, b) :: ranges rest
  | a :: rest => (a, a) :: ranges rest
  | [] => []

def plain? : Mark → Option Char
  | .char false _ c => some c
  | _ => none

def ofMarks : Nat → List Mark → List Glob
  | 0, _ => []
  | _, [] => []
  | fuel + 1, m :: rest =>
    match m with
    | .char true _ c => .char c :: ofMarks fuel rest
    | .char false _ '*' => .any :: ofMarks fuel rest
    | .char false _ '?' => .one :: ofMarks fuel rest
    | .char false _ '[' =>
      let inside := (rest.takeWhile fun m => plain? m != some ']').filterMap plain?
      match rest.dropWhile fun m => plain? m != some ']' with
      | [] => .char '[' :: ofMarks fuel rest
      | _ :: after =>
        match inside with
        | '!' :: inside => .range true (ranges inside) :: ofMarks fuel after
        | inside => .range false (ranges inside) :: ofMarks fuel after
    | .char false _ c => .char c :: ofMarks fuel rest
    | .divide => .char ' ' :: ofMarks fuel rest
    | .quote => ofMarks fuel rest

def accepts (g : Glob) (c : Char) : Bool :=
  match g with
  | .any => true
  | .one => true
  | .char d => c == d
  | .range outside rs => (rs.any fun r => r.1 ≤ c && c ≤ r.2) != outside

def tails : List Char → List (List Char)
  | [] => [[]]
  | c :: rest => (c :: rest) :: tails rest

def fits : List Glob → List Char → Bool
  | [], cs => cs.isEmpty
  | .any :: rest, cs => (tails cs).any (fits rest)
  | g :: rest, cs =>
    match cs with
    | c :: cs => g.accepts c && fits rest cs
    | [] => false

def dropStart (longest : Bool) (pattern : List Glob) (cs : List Char) : List Char :=
  let cuts := (List.range (cs.length + 1)).filter fun n => fits pattern (cs.take n)
  match if longest then cuts.getLast? else cuts.head? with
  | some n => cs.drop n
  | none => cs

def dropEnd (longest : Bool) (pattern : List Glob) (cs : List Char) : List Char :=
  let cuts := (List.range (cs.length + 1)).filter fun n => fits pattern (cs.drop n)
  match if longest then cuts.head? else cuts.getLast? with
  | some n => cs.take n
  | none => cs

end Glob

namespace Arithmetic

/-- Operators of two operands, from the loosest to the tightest. -/
def levels : List (List (String × (Int → Int → Option Int))) :=
  let truth := fun b : Bool => some (if b then (1 : Int) else 0)
  [[("||", fun a b => truth (a != 0 || b != 0))],
    [("&&", fun a b => truth (a != 0 && b != 0))],
    [("==", fun a b => truth (a == b)), ("!=", fun a b => truth (a != b))],
    [("<=", fun a b => truth (a ≤ b)), (">=", fun a b => truth (a ≥ b)),
      ("<", fun a b => truth (a < b)), (">", fun a b => truth (a > b))],
    [("+", fun a b => some (a + b)), ("-", fun a b => some (a - b))],
    [("*", fun a b => some (a * b)),
      ("/", fun a b => if b == 0 then none else some (a.tdiv b)),
      ("%", fun a b => if b == 0 then none else some (a.tmod b))]]

def skip (cs : List Char) : List Char := cs.dropWhile Mark.isBlank

def operator? (ops : List (String × (Int → Int → Option Int))) (cs : List Char) :
    Option ((Int → Int → Option Int) × List Char) :=
  (ops.find? fun o => o.1.toList.isPrefixOf (skip cs)).map fun o =>
    (o.2, (skip cs).drop o.1.length)

def isNameChar (c : Char) : Bool :=
  let n := c.toNat
  Numeral.isDigit c || (65 ≤ n && n ≤ 90) || (97 ≤ n && n ≤ 122) || c == '_'

mutual

def operand? (find : String → Int) : Nat → List Char → Option (Int × List Char)
  | 0, _ => none
  | fuel + 1, cs =>
    match skip cs with
    | '-' :: rest => (operand? find fuel rest).map fun r => (-r.1, r.2)
    | '+' :: rest => operand? find fuel rest
    | '!' :: rest => (operand? find fuel rest).map fun r => (if r.1 == 0 then 1 else 0, r.2)
    | '(' :: rest => do
      let (n, rest) ← level? find fuel levels rest
      match skip rest with
      | ')' :: rest => return (n, rest)
      | _ => none
    | cs =>
      let name := cs.takeWhile isNameChar
      if name.isEmpty then none
      else if name.head?.any Numeral.isDigit then
        some (Format.integer (String.ofList name), cs.drop name.length)
      else some (find (String.ofList name), cs.drop name.length)

def level? (find : String → Int) :
    Nat → List (List (String × (Int → Int → Option Int))) → List Char → Option (Int × List Char)
  | 0, _, _ => none
  | fuel + 1, [], cs => operand? find fuel cs
  | fuel + 1, ops :: tighter, cs => do
    let (n, rest) ← level? find fuel tighter cs
    more? find fuel ops tighter n rest

def more? (find : String → Int) :
    Nat → List (String × (Int → Int → Option Int)) →
      List (List (String × (Int → Int → Option Int))) → Int → List Char → Option (Int × List Char)
  | 0, _, _, _, _ => none
  | fuel + 1, ops, tighter, n, cs =>
    match operator? ops cs with
    | none => some (n, cs)
    | some (op, rest) => do
      let (m, rest) ← level? find fuel tighter rest
      more? find fuel ops tighter (← op n m) rest

end

def assignment? (text : String) : Option (String × Option String × String) :=
  let cs := skip text.toList
  let name := cs.takeWhile isNameChar
  let rest := skip (cs.drop name.length)
  if name.isEmpty || name.head?.any Numeral.isDigit then none
  else
    match rest with
    | '=' :: '=' :: _ => none
    | '=' :: rest => some (String.ofList name, none, String.ofList rest)
    | op :: '=' :: rest =>
      if "+-*/%".toList.contains op then
        some (String.ofList name, some op.toString, String.ofList rest)
      else none
    | _ => none

def evaluate? (find : String → Int) (text : String) : Option Int :=
  match skip text.toList with
  | [] => some 0
  | cs =>
    match level? find (16 * cs.length + 16) levels cs with
    | some (n, rest) => if (skip rest).isEmpty then some n else none
    | none => none

end Arithmetic

end LoadBench.Shell
