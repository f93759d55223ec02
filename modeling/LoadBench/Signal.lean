import LoadBench.Duration
import LoadBench.Text.Numeral

namespace LoadBench

inductive Signal where
  | hup
  | int
  | quit
  | abrt
  | kill
  | usr1
  | usr2
  | pipe
  | alrm
  | term
deriving DecidableEq

namespace Signal

def all : List Signal := [.hup, .int, .quit, .abrt, .kill, .usr1, .usr2, .pipe, .alrm, .term]

def number : Signal → Nat
  | .hup => 1
  | .int => 2
  | .quit => 3
  | .abrt => 6
  | .kill => 9
  | .usr1 => 10
  | .usr2 => 12
  | .pipe => 13
  | .alrm => 14
  | .term => 15

def name : Signal → String
  | .hup => "HUP"
  | .int => "INT"
  | .quit => "QUIT"
  | .abrt => "ABRT"
  | .kill => "KILL"
  | .usr1 => "USR1"
  | .usr2 => "USR2"
  | .pipe => "PIPE"
  | .alrm => "ALRM"
  | .term => "TERM"

def description? : Signal → Option String
  | .hup => some "Hangup"
  | .int => none
  | .quit => some "Quit"
  | .abrt => some "Aborted"
  | .kill => some "Killed"
  | .usr1 => some "User defined signal 1"
  | .usr2 => some "User defined signal 2"
  | .pipe => none
  | .alrm => some "Alarm clock"
  | .term => some "Terminated"

def ofNumber? (n : Nat) : Option Signal := all.find? (·.number == n)

def ofText? (text : String) : Option Signal :=
  if Text.Numeral.allDigits text.toList then ofNumber? (Text.Numeral.value text.toList)
  else all.find? (·.name == text.toUpper)

end Signal

inductive ExitStatus where
  | code (n : Nat)
  | signal (s : Signal)
deriving DecidableEq

namespace ExitStatus

def number : ExitStatus → Nat
  | .code n => n
  | .signal s => 128 + s.number

def code? : ExitStatus → Option Nat
  | .code n => some n
  | .signal _ => none

end ExitStatus

/-- A signal on its way to a process, or to the whole group that the process leads. -/
structure Delivery where
  time : Instant
  signal : Signal
  toGroup : Bool
deriving DecidableEq

/-- When and how a process ends, given the signals sent; `none` if it does not end. -/
abbrev Fate := List Delivery → Option (Instant × ExitStatus)

end LoadBench
