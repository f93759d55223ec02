import LoadBench.Decimal.Reading
import LoadBench.Document
import LoadBench.Toml.Strings

namespace LoadBench.Toml

open Text

def grouped? (isDigit : Char → Bool) : List Char → Option (List Char × List Char)
  | c :: '_' :: rest =>
    if isDigit c then (grouped? isDigit rest).map fun r => (c :: r.1, r.2) else none
  | c :: d :: rest =>
    if !isDigit c then none
    else if isDigit d then (grouped? isDigit (d :: rest)).map fun r => (c :: r.1, r.2)
    else some ([c], d :: rest)
  | [c] => if isDigit c then some ([c], []) else none
  | [] => none

def whole? : List Char → Option (List Char × List Char)
  | '0' :: rest => some (['0'], rest)
  | cs => grouped? Numeral.isDigit cs

def takeSign : List Char → Bool × List Char
  | '-' :: rest => (true, rest)
  | '+' :: rest => (false, rest)
  | rest => (false, rest)

def inRange? (n : Int) : Option Document :=
  if -2 ^ 63 ≤ n ∧ n < 2 ^ 63 then some (.int n) else none

def based? (base : Nat) (cs : List Char) : Option (Document × List Char) := do
  let isDigit := fun c => (Json.Reader.hexValue? c).any (· < base)
  let (ds, rest) ← grouped? isDigit cs
  let n := ds.foldl (fun n c => base * n + (Json.Reader.hexValue? c).getD 0) 0
  return (← inRange? n, rest)

def integer? : List Char → Option (Document × List Char)
  | '0' :: 'x' :: rest => based? 16 rest
  | '0' :: 'o' :: rest => based? 8 rest
  | '0' :: 'b' :: rest => based? 2 rest
  | cs => do
    let (negative, rest) := takeSign cs
    let (ds, rest) ← whole? rest
    let n : Int := Numeral.value ds
    return (← inRange? (if negative then -n else n), rest)

def exponent? : List Char → Option (Int × List Char)
  | c :: rest =>
    if c == 'e' || c == 'E' then do
      let (negative, rest) := takeSign rest
      let (ds, rest) ← grouped? Numeral.isDigit rest
      let n : Int := Numeral.value ds
      return (if negative then -n else n, rest)
    else none
  | [] => none

def startsExponent : List Char → Bool
  | c :: _ => c == 'e' || c == 'E'
  | [] => false

/-- A number with a fraction, an exponent or both. Numbers above the largest double are refused;
those below the least are minus infinity. -/
def float? (cs : List Char) : Option (Document × List Char) := do
  let (negative, rest) := takeSign cs
  if (Json.Reader.afterWord? "inf" rest).isSome then
    return (.float (Binary64.infinity negative), rest.drop 3)
  if (Json.Reader.afterWord? "nan" rest).isSome then
    return (.float (if negative then Binary64.nan.neg else Binary64.nan), rest.drop 3)
  let (whole, rest) ← whole? rest
  let (fraction, rest) ← match rest with
    | '.' :: rest => grouped? Numeral.isDigit rest
    | rest => if startsExponent rest then some ([], rest) else none
  let (exponent, rest) ← if startsExponent rest then exponent? rest else some (0, rest)
  let x := Decimal.Written.nearest ⟨negative, whole, fraction, exponent⟩
  if x.isInfinite && !negative then none else return (.float x, rest)

def fixed? (n : Nat) (cs : List Char) : Option (Nat × List Char) :=
  let ds := cs.take n
  if ds.length == n && ds.all Numeral.isDigit then some (Numeral.value ds, cs.drop n) else none

def pair? (least greatest : Nat) (cs : List Char) : Option (List Char) := do
  let (n, rest) ← fixed? 2 cs
  if least ≤ n && n ≤ greatest then return rest else none

def after? (c : Char) : List Char → Option (List Char)
  | d :: rest => if d == c then some rest else none
  | [] => none

def isLeap (year : Nat) : Bool := year % 4 == 0 && (year % 100 != 0 || year % 400 == 0)

def daysIn (year month : Nat) : Nat :=
  if month == 2 then if isLeap year then 29 else 28
  else if month == 4 || month == 6 || month == 9 || month == 11 then 30
  else 31

def afterDate? (cs : List Char) : Option (List Char) := do
  let (year, rest) ← fixed? 4 cs
  let rest ← after? '-' rest
  let (month, rest) ← fixed? 2 rest
  if month < 1 || 12 < month then none
  let rest ← after? '-' rest
  pair? 1 (daysIn year month) rest

def afterTime? (cs : List Char) : Option (List Char) := do
  let rest ← pair? 0 23 cs
  let rest ← after? ':' rest
  let rest ← pair? 0 59 rest
  let rest ← after? ':' rest
  let rest ← pair? 0 60 rest
  match rest with
  | '.' :: c :: more => return if Numeral.isDigit c then more.dropWhile Numeral.isDigit else rest
  | rest => return rest

def skipOffset (cs : List Char) : List Char :=
  let distance? : List Char → Option (List Char) := fun rest => do
    pair? 0 59 (← after? ':' (← pair? 0 23 rest))
  match cs with
  | 'Z' :: rest => rest
  | 'z' :: rest => rest
  | '+' :: rest => (distance? rest).getD cs
  | '-' :: rest => (distance? rest).getD cs
  | _ => cs

def afterMoment? (cs : List Char) : Option (List Char) :=
  match afterDate? cs with
  | none => afterTime? cs
  | some rest =>
    match rest with
    | c :: more =>
      if c == 'T' || c == 't' || c == ' ' then
        some (((afterTime? more).map skipOffset).getD rest)
      else some rest
    | [] => some []

/-- A point in time reads as a record with one reserved name. -/
def moment? (cs : List Char) : Option (Document × List Char) :=
  (afterMoment? cs).map fun rest =>
    (.record [("$__toml_private_datetime",
      .text (String.ofList (cs.take (cs.length - rest.length))))], rest)

def scalar? (cs : List Char) : Option (Document × List Char) :=
  match cs with
  | '\x22' :: _ => (string? cs).map fun r => (.text r.1, r.2)
  | '\'' :: _ => (string? cs).map fun r => (.text r.1, r.2)
  | 't' :: _ => (Json.Reader.afterWord? "true" cs).map (.bool true, ·)
  | 'f' :: _ => (Json.Reader.afterWord? "false" cs).map (.bool false, ·)
  | _ => (moment? cs).orElse fun _ => (float? cs).orElse fun _ => integer? cs

end LoadBench.Toml
