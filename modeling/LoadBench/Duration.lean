import LoadBench.Binary64.Arithmetic

namespace LoadBench

abbrev Duration := Nat

/-- A point in time, in nanoseconds since the start of an ideal clock: it has no last instant, and
every time that passes is a whole number of nanoseconds. -/
abbrev Instant := Nat

namespace Duration

def ofSeconds (n : Nat) : Duration := n * 10 ^ 9

def ofMillis (n : Nat) : Duration := n * 10 ^ 6

def wholeSeconds (d : Duration) : Nat := d / 10 ^ 9

def subsecond (d : Duration) : Nat := d % 10 ^ 9

def wholeMillis (d : Duration) : Nat := d / 10 ^ 6

/-- The length in seconds: whole seconds and the rest are rounded apart, then added. -/
def seconds (d : Duration) : Binary64 :=
  (Binary64.ofNat (wholeSeconds d)).add
    ((Binary64.ofNat (subsecond d)).div (Binary64.ofNat (10 ^ 9)))

end Duration

end LoadBench
