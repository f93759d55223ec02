import LoadBench.Text.Glyphless

namespace LoadBench.Text.Quoted

def hexDigits (n : Nat) : List Char := Nat.toDigits 16 n

/-- One character inside quotes: named escapes for the common controls, the code point between
braces for other characters with no glyph, and itself otherwise. -/
def escape (c : Char) : List Char :=
  if c == '\x00' then ['\\', '0']
  else if c == '\t' then ['\\', 't']
  else if c == '\n' then ['\\', 'n']
  else if c == '\r' then ['\\', 'r']
  else if c == '\x22' then ['\\', '\x22']
  else if c == '\\' then ['\\', '\\']
  else if hasNoGlyph c then ['\\', 'u', '\x7b'] ++ hexDigits c.toNat ++ ['\x7d']
  else [c]

def quote (text : String) : String :=
  String.ofList ('\x22' :: text.toList.flatMap escape ++ ['\x22'])

end LoadBench.Text.Quoted
