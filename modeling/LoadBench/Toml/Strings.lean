import LoadBench.Json.Reader

namespace LoadBench.Toml

open Text

def isBlank (c : Char) : Bool := c == ' ' || c == '\t'

def skipBlanks (cs : List Char) : List Char := cs.dropWhile isBlank

def isPlain (c : Char) : Bool := c == '\t' || (32 ≤ c.toNat && c.toNat != 127)

def afterNewline? : List Char → Option (List Char)
  | '\n' :: rest => some rest
  | '\r' :: '\n' :: rest => some rest
  | _ => none

def skipComment : List Char → List Char
  | '#' :: rest => rest.dropWhile isPlain
  | rest => rest

def afterLine? (cs : List Char) : Option (List Char) :=
  match skipComment (skipBlanks cs) with
  | [] => some []
  | rest => afterNewline? rest

def char? (n : Nat) : Option Char := if n.isValidChar then some (Char.ofNat n) else none

def escaped? (c : Char) : Option Char :=
  if c == 'b' then some '\x08'
  else if c == 't' then some '\t'
  else if c == 'n' then some '\n'
  else if c == 'f' then some '\x0c'
  else if c == 'r' then some '\r'
  else if c == '\x22' || c == '\\' then some c
  else none

def hex8? (a b c d e f g h : Char) : Option Char := do
  let high ← Json.Reader.hex4? a b c d
  let low ← Json.Reader.hex4? e f g h
  char? (high * 2 ^ 16 + low)

def hex4? (a b c d : Char) : Option Char := do char? (← Json.Reader.hex4? a b c d)

def push (c : Char) (read : List Char × List Char) : List Char × List Char := (c :: read.1, read.2)

def basic? : List Char → Option (List Char × List Char)
  | '\\' :: 'u' :: a :: b :: c :: d :: rest => do
    let char ← hex4? a b c d
    return push char (← basic? rest)
  | '\\' :: 'U' :: a :: b :: c :: d :: e :: f :: g :: h :: rest => do
    let char ← hex8? a b c d e f g h
    return push char (← basic? rest)
  | '\\' :: c :: rest => do
    let char ← escaped? c
    return push char (← basic? rest)
  | '\x22' :: rest => some ([], rest)
  | c :: rest => if isPlain c && c != '\\' then (basic? rest).map (push c) else none
  | [] => none

def literal? : List Char → Option (List Char × List Char)
  | [] => none
  | c :: rest =>
    if c == '\'' then some ([], rest)
    else if isPlain c then (literal? rest).map (push c)
    else none

/-- The end of a string of several lines: three marks, before which up to two more belong to the
string. -/
def closing? (mark : Char) : List Char → Option (List Char × List Char)
  | a :: b :: c :: rest =>
    if a == mark && b == mark && c == mark then
      match rest with
      | d :: e :: rest =>
        if d == mark && e == mark then some ([mark, mark], rest)
        else if d == mark then some ([mark], e :: rest)
        else some ([], d :: e :: rest)
      | [d] => if d == mark then some ([mark], []) else some ([], [d])
      | [] => some ([], [])
    else none
  | _ => none

/-- A string of several lines with escapes. While `joining`, blanks and line ends are passed over,
as they are after a backslash at the end of a line. -/
def multiBasic? (joining : Bool) (cs : List Char) : Option (List Char × List Char) :=
  match closing? '\x22' cs with
  | some ending => some ending
  | none =>
    match cs with
    | '\\' :: 'u' :: a :: b :: c :: d :: rest => do
      let char ← hex4? a b c d
      return push char (← multiBasic? false rest)
    | '\\' :: 'U' :: a :: b :: c :: d :: e :: f :: g :: h :: rest => do
      let char ← hex8? a b c d e f g h
      return push char (← multiBasic? false rest)
    | '\\' :: c :: rest =>
      if (afterNewline? (skipBlanks (c :: rest))).isSome then multiBasic? true (c :: rest)
      else do
        let char ← escaped? c
        return push char (← multiBasic? false rest)
    | '\r' :: '\n' :: rest => multiBasic? joining ('\n' :: rest)
    | '\n' :: rest =>
      if joining then multiBasic? true rest else (multiBasic? false rest).map (push '\n')
    | c :: rest =>
      if joining && isBlank c then multiBasic? true rest
      else if isPlain c && c != '\\' then (multiBasic? false rest).map (push c)
      else none
    | [] => none

def multiLiteral? (cs : List Char) : Option (List Char × List Char) :=
  match closing? '\'' cs with
  | some ending => some ending
  | none =>
    match cs with
    | '\r' :: '\n' :: rest => (multiLiteral? rest).map (push '\n')
    | c :: rest =>
      if c == '\n' || isPlain c then (multiLiteral? rest).map (push c) else none
    | [] => none

def skipNewline (cs : List Char) : List Char := (afterNewline? cs).getD cs

def string? : List Char → Option (String × List Char)
  | '\x22' :: '\x22' :: '\x22' :: rest =>
    (multiBasic? false (skipNewline rest)).map fun r => (String.ofList r.1, r.2)
  | '\x22' :: rest => (basic? rest).map fun r => (String.ofList r.1, r.2)
  | '\'' :: '\'' :: '\'' :: rest =>
    (multiLiteral? (skipNewline rest)).map fun r => (String.ofList r.1, r.2)
  | '\'' :: rest => (literal? rest).map fun r => (String.ofList r.1, r.2)
  | _ => none

def isBare (c : Char) : Bool :=
  let n := c.toNat
  Numeral.isDigit c || (65 ≤ n && n ≤ 90) || (97 ≤ n && n ≤ 122) || c == '-' || c == '_'

def keyPart? : List Char → Option (String × List Char)
  | '\x22' :: rest => (basic? rest).map fun r => (String.ofList r.1, r.2)
  | '\'' :: rest => (literal? rest).map fun r => (String.ofList r.1, r.2)
  | cs =>
    let part := cs.takeWhile isBare
    if part.isEmpty then none else some (String.ofList part, cs.dropWhile isBare)

def keyParts? : Nat → List Char → Option (List String × List Char)
  | 0, _ => none
  | fuel + 1, cs => do
    let (part, rest) ← keyPart? (skipBlanks cs)
    match skipBlanks rest with
    | '.' :: rest =>
      let (parts, rest) ← keyParts? fuel rest
      return (part :: parts, rest)
    | rest => return ([part], rest)

/-- Where values and keys reach this depth they are refused. -/
def deepest : Nat := 80

def key? (cs : List Char) : Option (List String × List Char) := keyParts? (deepest - 1) cs

end LoadBench.Toml
