import LoadBench.Text.Numeral
import LoadBench.Text.Utf8

namespace LoadBench.Shell.Format

open Text Text.Utf8

def isOctal (c : Char) : Bool := 48 ≤ c.toNat && c.toNat ≤ 55

def octalValue (cs : List Char) : Nat := cs.foldl (fun n c => 8 * n + Numeral.digitValue c) 0

def octalByte (cs : List Char) : UInt8 := UInt8.ofNat (octalValue cs)

def control? (c : Char) : Option UInt8 :=
  if c == 'a' then some 7
  else if c == 'b' then some 8
  else if c == 'f' then some 12
  else if c == 'n' then some 10
  else if c == 'r' then some 13
  else if c == 't' then some 9
  else if c == 'v' then some 11
  else if c == '\\' then some 92
  else none

inductive Octal where
  | bare
  | afterZero

/-- The bytes of an escape, after its backslash, and the text that follows; `none` where output
stops. -/
def escape (octal : Octal) (cs : List Char) : Option (Bytes × List Char) :=
  match octal, cs with
  | _, [] => some ([92], [])
  | .afterZero, 'c' :: _ => none
  | .afterZero, '0' :: rest =>
    let digits := (rest.takeWhile isOctal).take 3
    some ([octalByte digits], rest.drop digits.length)
  | _, c :: rest =>
    let digits := (cs.takeWhile isOctal).take 3
    match octal, digits, control? c with
    | .bare, _ :: _, _ => some ([octalByte digits], cs.drop digits.length)
    | _, _, some b => some ([b], rest)
    | _, _, none => some (92 :: encode c.toString, rest)

def unescape (octal : Octal) : Nat → List Char → Bytes × Bool
  | 0, _ => ([], false)
  | _, [] => ([], false)
  | fuel + 1, '\\' :: rest =>
    match escape octal rest with
    | none => ([], true)
    | some (bytes, rest) =>
      let (more, stop) := unescape octal fuel rest
      (bytes ++ more, stop)
  | fuel + 1, c :: rest =>
    let (more, stop) := unescape octal fuel rest
    (encode c.toString ++ more, stop)

def echo (args : List String) : Bytes :=
  let (bare, args) := match args with
    | "-n" :: rest => (true, rest)
    | args => (false, args)
  let text := (" ".intercalate args).toList
  let (bytes, stop) := unescape .afterZero (text.length + 1) text
  if bare || stop then bytes else bytes ++ [10]

/-- A number as `printf` takes it: decimal, octal after a zero, hexadecimal, or a quoted
character. -/
def integer (text : String) : Int :=
  let (negative, cs) := match text.toList with
    | '-' :: rest => (true, rest)
    | '+' :: rest => (false, rest)
    | all => (false, all)
  let n := match cs with
    | '\'' :: c :: _ => c.toNat
    | '\x22' :: c :: _ => c.toNat
    | '0' :: 'x' :: rest =>
      rest.foldl (fun n c =>
        16 * n + if Numeral.isDigit c then Numeral.digitValue c else c.toLower.toNat - 87) 0
    | '0' :: rest => octalValue (rest.takeWhile isOctal)
    | cs => Numeral.value (cs.takeWhile Numeral.isDigit)
  if negative then -n else n

structure Field where
  left : Bool
  zeros : Bool
  width : Nat
  precision : Option Nat

def pad (f : Field) (cs : List Char) : List Char :=
  let missing := f.width - cs.length
  if f.left then cs ++ List.replicate missing ' '
  else if f.zeros then
    match cs with
    | '-' :: rest => '-' :: List.replicate missing '0' ++ rest
    | cs => List.replicate missing '0' ++ cs
  else List.replicate missing ' ' ++ cs

def baseDigits (base : Nat) (n : Nat) : List Char := Nat.toDigits base n

def convert (f : Field) (letter : Char) (arg : String) : Bytes :=
  let plain := { f with zeros := false }
  let number := fun cs : List Char =>
    encode (String.ofList (pad f cs))
  if letter == 's' then
    let cs := match f.precision with
      | some n => arg.toList.take n
      | none => arg.toList
    encode (String.ofList (pad plain cs))
  else if letter == 'b' then (unescape .afterZero (arg.length + 1) arg.toList).1
  else if letter == 'c' then encode (String.ofList (pad plain (arg.toList.take 1)))
  else if letter == 'x' then number (baseDigits 16 (integer arg).toNat)
  else if letter == 'X' then number ((baseDigits 16 (integer arg).toNat).map Char.toUpper)
  else if letter == 'o' then number (baseDigits 8 (integer arg).toNat)
  else number (Numeral.intToString (integer arg)).toList

def field (cs : List Char) : Field × List Char :=
  let flags := cs.takeWhile fun c => c == '-' || c == '0' || c == '+' || c == ' ' || c == '#'
  let rest := cs.drop flags.length
  let width := rest.takeWhile Numeral.isDigit
  let rest := rest.drop width.length
  let (precision, rest) := match rest with
    | '.' :: rest =>
      (some (Numeral.value (rest.takeWhile Numeral.isDigit)), rest.dropWhile Numeral.isDigit)
    | rest => (none, rest)
  (⟨flags.contains '-', flags.contains '0', Numeral.value width, precision⟩, rest)

/-- One pass over a format; the arguments it has not used are left. -/
def once : Nat → List Char → List String → Bytes × List String
  | 0, _, args => ([], args)
  | _, [], args => ([], args)
  | fuel + 1, '\\' :: rest, args =>
    match escape .bare rest with
    | none => ([], [])
    | some (bytes, rest) =>
      let (more, args) := once fuel rest args
      (bytes ++ more, args)
  | fuel + 1, '%' :: '%' :: rest, args =>
    let (more, args) := once fuel rest args
    (37 :: more, args)
  | fuel + 1, '%' :: rest, args =>
    match field rest with
    | (f, letter :: rest) =>
      let (more, left) := once fuel rest (args.drop 1)
      (convert f letter (args.headD "") ++ more, left)
    | (_, []) => ([], args)
  | fuel + 1, c :: rest, args =>
    let (more, args) := once fuel rest args
    (encode c.toString ++ more, args)

def printf : Nat → String → List String → Bytes
  | 0, _, _ => []
  | fuel + 1, format, args =>
    let (bytes, left) := once (format.length + 1) format.toList args
    if left.isEmpty || left.length == args.length then bytes
    else bytes ++ printf fuel format left

end LoadBench.Shell.Format
