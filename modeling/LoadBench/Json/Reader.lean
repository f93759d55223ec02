import LoadBench.Decimal.Reading
import LoadBench.Document

namespace LoadBench.Json.Reader

open Text

def isSpace (c : Char) : Bool := c == ' ' || c == '\n' || c == '\t' || c == '\r'

def skipSpace (cs : List Char) : List Char := cs.dropWhile isSpace

def hexValue? (c : Char) : Option Nat :=
  let n := c.toNat
  if 48 ≤ n ∧ n ≤ 57 then some (n - 48)
  else if 97 ≤ n ∧ n ≤ 102 then some (n - 87)
  else if 65 ≤ n ∧ n ≤ 70 then some (n - 55)
  else none

def hex4? (a b c d : Char) : Option Nat := do
  return (((← hexValue? a) * 16 + (← hexValue? b)) * 16 + (← hexValue? c)) * 16 + (← hexValue? d)

def escaped? (c : Char) : Option Char :=
  if c == '\x22' || c == '\\' || c == '/' then some c
  else if c == 'b' then some '\x08'
  else if c == 'f' then some '\x0c'
  else if c == 'n' then some '\n'
  else if c == 'r' then some '\r'
  else if c == 't' then some '\t'
  else none

/-- The inside of a string up to its closing quote: characters, and the 16-bit units of
hexadecimal escapes. -/
def stringUnits? : List Char → Option (List (Char ⊕ Nat) × List Char)
  | '\x22' :: rest => some ([], rest)
  | '\\' :: 'u' :: a :: b :: c :: d :: rest => do
    let unit ← hex4? a b c d
    let (units, rest) ← stringUnits? rest
    return (.inr unit :: units, rest)
  | '\\' :: c :: rest => do
    let c ← escaped? c
    let (units, rest) ← stringUnits? rest
    return (.inl c :: units, rest)
  | c :: rest =>
    if c.toNat < 32 || c == '\\' then none
    else do
      let (units, rest) ← stringUnits? rest
      return (.inl c :: units, rest)
  | [] => none

def joinUnits? : List (Char ⊕ Nat) → Option (List Char)
  | [] => some []
  | .inl c :: rest => (joinUnits? rest).map (c :: ·)
  | .inr high :: .inr low :: rest =>
    if 0xD800 ≤ high && high ≤ 0xDBFF then
      if 0xDC00 ≤ low && low ≤ 0xDFFF then
        (joinUnits? rest).map (Char.ofNat (0x10000 + (high - 0xD800) * 1024 + (low - 0xDC00)) :: ·)
      else none
    else if 0xDC00 ≤ high && high ≤ 0xDFFF then none
    else (joinUnits? (.inr low :: rest)).map (Char.ofNat high :: ·)
  | .inr unit :: rest =>
    if 0xD800 ≤ unit && unit ≤ 0xDFFF then none
    else (joinUnits? rest).map (Char.ofNat unit :: ·)

/-- A number without a fraction and exponent is an integer if a machine word holds it; minus zero is
a double. -/
def numberDocument (w : Decimal.Written) (isWhole : Bool) : Document :=
  let n := Numeral.value w.whole
  if isWhole && !w.negative && n ≤ Numeral.wordMax then .int n
  else if isWhole && w.negative && 1 ≤ n && n ≤ 2 ^ 63 then .int (-n)
  else
    match w.scaled? with
    | some x => .float x
    | none => .malformed

def takeFraction? : List Char → Option (List Char × List Char)
  | '.' :: rest =>
    let (ds, rest) := Decimal.takeDigits rest
    if ds.isEmpty then none else some (ds, rest)
  | rest => some ([], rest)

def startsExponent : List Char → Bool
  | c :: _ => c == 'e' || c == 'E'
  | [] => false

def unsigned? (negative : Bool) (cs : List Char) : Option (Document × List Char) := do
  let (whole, rest) := Decimal.takeDigits cs
  if whole.isEmpty || (whole.head? == some '0' && 1 < whole.length) then none
  else
    let (fraction, rest) ← takeFraction? rest
    let (exponent, later) ← Decimal.takeExponent? rest
    return (numberDocument ⟨negative, whole, fraction, exponent⟩
      (fraction.isEmpty && !startsExponent rest), later)

def number? : List Char → Option (Document × List Char)
  | '-' :: rest => unsigned? true rest
  | rest => unsigned? false rest

def deepest : Nat := 128

def atLevel (level : Nat) (d : Document) : Document := if deepest ≤ level then .malformed else d

def recordOf (entries : List (Option String × Document)) : Document :=
  match entries.mapM fun entry => entry.1.map (·, entry.2) with
  | some entries => .record entries
  | none => .malformed

def afterWord? (word : String) (cs : List Char) : Option (List Char) :=
  if word.toList.isPrefixOf cs then some (cs.drop word.length) else none

mutual

def value? : Nat → Nat → List Char → Option (Document × List Char)
  | 0, _, _ => none
  | fuel + 1, level, cs =>
    match skipSpace cs with
    | '[' :: rest => do
      let (items, rest) ← match skipSpace rest with
        | ']' :: rest => some ([], rest)
        | rest => items? fuel (level + 1) rest
      return (atLevel (level + 1) (.list items), rest)
    | '\x7b' :: rest => do
      let (entries, rest) ← match skipSpace rest with
        | '\x7d' :: rest => some ([], rest)
        | rest => entries? fuel (level + 1) rest
      return (atLevel (level + 1) (recordOf entries), rest)
    | '\x22' :: rest => do
      let (units, rest) ← stringUnits? rest
      return (((joinUnits? units).map fun s => .text (String.ofList s)).getD .malformed, rest)
    | 'n' :: rest => (afterWord? "ull" rest).map (.null, ·)
    | 't' :: rest => (afterWord? "rue" rest).map (.bool true, ·)
    | 'f' :: rest => (afterWord? "alse" rest).map (.bool false, ·)
    | rest => number? rest

def items? : Nat → Nat → List Char → Option (List Document × List Char)
  | 0, _, _ => none
  | fuel + 1, level, cs => do
    let (item, rest) ← value? fuel level cs
    match skipSpace rest with
    | ']' :: rest => return ([item], rest)
    | ',' :: rest =>
      let (items, rest) ← items? fuel level rest
      return (item :: items, rest)
    | _ => none

def entries? : Nat → Nat → List Char → Option (List (Option String × Document) × List Char)
  | 0, _, _ => none
  | fuel + 1, level, cs => do
    let '\x22' :: rest := skipSpace cs | none
    let (units, rest) ← stringUnits? rest
    let name := (joinUnits? units).map String.ofList
    let ':' :: rest := skipSpace rest | none
    let (value, rest) ← value? fuel level rest
    match skipSpace rest with
    | '\x7d' :: rest => return ([(name, value)], rest)
    | ',' :: rest =>
      let (entries, rest) ← entries? fuel level rest
      return ((name, value) :: entries, rest)
    | _ => none

end

/-- Numbers too large for a double, strings with half a surrogate pair and lists or records at level
128 and below are `malformed`: refused where they are looked at, and passed over where they are not.
-/
def document? (text : String) : Option Document := do
  let cs := text.toList
  let (d, rest) ← value? (2 * cs.length + 2) 0 cs
  if (skipSpace rest).isEmpty then return d else none

end LoadBench.Json.Reader

namespace LoadBench.Json

def dialect : Document.Dialect where
  extraItems := false
  emptyPayload
    | .null => true
    | _ => false

end LoadBench.Json
