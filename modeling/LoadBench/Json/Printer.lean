import LoadBench.Decimal.Layout
import LoadBench.Json.Basic
import LoadBench.Text.Numeral

namespace LoadBench.Json

open Text

/-- A character inside a string: quotes, backslashes and controls are escaped, all else stands for
itself. -/
def escape (c : Char) : List Char :=
  if c == '\x22' then ['\\', '\x22']
  else if c == '\\' then ['\\', '\\']
  else if c == '\x08' then ['\\', 'b']
  else if c == '\t' then ['\\', 't']
  else if c == '\n' then ['\\', 'n']
  else if c == '\x0c' then ['\\', 'f']
  else if c == '\r' then ['\\', 'r']
  else if c.toNat < 32 then
    ['\\', 'u', '0', '0', Nat.digitChar (c.toNat / 16), Nat.digitChar (c.toNat % 16)]
  else [c]

def stringText (s : String) : List Char := '\x22' :: s.toList.flatMap escape ++ ['\x22']

def intText : Int → List Char
  | .ofNat n => Numeral.digits n
  | .negSucc n => '-' :: Numeral.digits (n + 1)

def atomText : Json → List Char
  | .null => ['n', 'u', 'l', 'l']
  | .bool true => ['t', 'r', 'u', 'e']
  | .bool false => ['f', 'a', 'l', 's', 'e']
  | .int n => intText n
  | .float x => if x.isFinite then Decimal.document.text x else ['n', 'u', 'l', 'l']
  | .text s => stringText s
  | .list _ => ['[', ']']
  | .object _ => ['\x7b', '\x7d']

def newline (level : Nat) : List Char := '\n' :: List.replicate (2 * level) ' '

mutual

def prettyText (level : Nat) : Json → List Char
  | .list (item :: rest) =>
    '[' :: newline (level + 1) ++ prettyText (level + 1) item ++ prettyItems (level + 1) rest ++
      newline level ++ [']']
  | .object ((key, value) :: rest) =>
    '\x7b' :: newline (level + 1) ++ stringText key ++ [':', ' '] ++ prettyText (level + 1) value ++
      prettyEntries (level + 1) rest ++ newline level ++ ['\x7d']
  | .list [] => ['[', ']']
  | .object [] => ['\x7b', '\x7d']
  | .null => atomText .null
  | .bool b => atomText (.bool b)
  | .int n => atomText (.int n)
  | .float x => atomText (.float x)
  | .text s => atomText (.text s)

def prettyItems (level : Nat) : List Json → List Char
  | [] => []
  | item :: rest => ',' :: newline level ++ prettyText level item ++ prettyItems level rest

def prettyEntries (level : Nat) : List (String × Json) → List Char
  | [] => []
  | (key, value) :: rest =>
    ',' :: newline level ++ stringText key ++ [':', ' '] ++ prettyText level value ++
      prettyEntries level rest

end

def pretty (json : Json) : String := String.ofList (prettyText 0 json)

mutual

def compactText : Json → List Char
  | .list (item :: rest) => '[' :: compactText item ++ compactItems rest ++ [']']
  | .object ((key, value) :: rest) =>
    '\x7b' :: stringText key ++ ':' :: compactText value ++ compactEntries rest ++ ['\x7d']
  | .list [] => ['[', ']']
  | .object [] => ['\x7b', '\x7d']
  | .null => atomText .null
  | .bool b => atomText (.bool b)
  | .int n => atomText (.int n)
  | .float x => atomText (.float x)
  | .text s => atomText (.text s)

def compactItems : List Json → List Char
  | [] => []
  | item :: rest => ',' :: compactText item ++ compactItems rest

def compactEntries : List (String × Json) → List Char
  | [] => []
  | (key, value) :: rest => ',' :: stringText key ++ ':' :: compactText value ++ compactEntries rest

end

def compact (json : Json) : String := String.ofList (compactText json)

end LoadBench.Json
