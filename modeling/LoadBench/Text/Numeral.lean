namespace LoadBench.Text.Numeral

def digitChar (d : Nat) : Char := Char.ofNat (48 + d)

def digitValue (c : Char) : Nat := c.toNat - 48

def isDigit (c : Char) : Bool := 48 ≤ c.toNat && c.toNat ≤ 57

def digits (n : Nat) : List Char :=
  if n < 10 then [digitChar n] else digits (n / 10) ++ [digitChar (n % 10)]
termination_by n

def value (cs : List Char) : Nat :=
  cs.foldl (fun n c => 10 * n + digitValue c) 0

def length (n : Nat) : Nat :=
  if n < 10 then 1 else length (n / 10) + 1
termination_by n

def allDigits (cs : List Char) : Bool := !cs.isEmpty && cs.all isDigit

def wordMax : Nat := 2 ^ 64 - 1

def word? (text : String) : Option Nat :=
  let cs := match text.toList with
    | '+' :: rest => rest
    | all => all
  if allDigits cs && value cs ≤ wordMax then some (value cs) else none

def toString (n : Nat) : String := String.ofList (digits n)

def intToString : Int → String
  | .ofNat n => toString n
  | .negSucc n => "-" ++ toString (n + 1)

end LoadBench.Text.Numeral
