import LoadBench.Text.Lines

namespace LoadBench.Path

def names (path : String) : List String := (path.toList.splitOn '/').map String.ofList

def isAbsolute (path : String) : Bool := path.startsWith "/"

def headLength (cs : List Char) : Nat :=
  match cs with
  | '/' :: _ => 1
  | ['.'] => 1
  | '.' :: '/' :: _ => 1
  | _ => 0

def lastName (reversed : List Char) : List Char × Nat :=
  let name := reversed.takeWhile (· != '/')
  (name.reverse, min (name.length + 1) reversed.length)

def trimEnd : Nat → List Char → List Char
  | 0, reversed => reversed
  | fuel + 1, reversed =>
    match reversed with
    | [] => []
    | _ =>
      let (name, length) := lastName reversed
      if name = [] ∨ name = ['.'] then trimEnd fuel (reversed.drop length) else reversed

def parent? (path : String) : Option String :=
  let cs := path.toList
  let head := cs.take (headLength cs)
  let trim := fun reversed : List Char => trimEnd reversed.length reversed
  match trim (cs.drop (headLength cs)).reverse with
  | [] => if head = ['.'] then some "" else none
  | body => some (String.ofList (head ++ (trim (body.drop (lastName body).2)).reverse))

def join (base next : String) : String :=
  if isAbsolute next then next
  else if base = "" ∨ base.endsWith "/" then base ++ next
  else base ++ "/" ++ next

end LoadBench.Path
