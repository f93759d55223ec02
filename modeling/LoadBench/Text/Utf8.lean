namespace LoadBench.Text.Utf8

abbrev Bytes := List UInt8

def isTail (b : UInt8) : Bool := 0x80 ≤ b && b ≤ 0xBF

/-- For the first byte of a longer character: the range of its second byte and the number of
bytes that follow the first. -/
def lead (b : UInt8) : Option (UInt8 × UInt8 × Nat) :=
  if 0xC2 ≤ b && b ≤ 0xDF then some (0x80, 0xBF, 1)
  else if b == 0xE0 then some (0xA0, 0xBF, 2)
  else if b == 0xED then some (0x80, 0x9F, 2)
  else if 0xE1 ≤ b && b ≤ 0xEF then some (0x80, 0xBF, 2)
  else if b == 0xF0 then some (0x90, 0xBF, 3)
  else if 0xF1 ≤ b && b ≤ 0xF3 then some (0x80, 0xBF, 3)
  else if b == 0xF4 then some (0x80, 0x8F, 3)
  else none

def tailBits (b : UInt8) : Nat := b.toNat % 64

/-- The characters of a byte string; `none` marks an ill-formed run, the longest start of a
character that the bytes still allow. -/
def scalars : Bytes → List (Option Char)
  | [] => []
  | a :: rest =>
    if a < 0x80 then some (Char.ofNat a.toNat) :: scalars rest
    else
      match lead a with
      | none => none :: scalars rest
      | some (lo, hi, more) =>
        match rest with
        | [] => [none]
        | b :: rest =>
          if !(lo ≤ b && b ≤ hi) then none :: scalars (b :: rest)
          else if more == 1 then
            some (Char.ofNat (a.toNat % 32 * 64 + tailBits b)) :: scalars rest
          else
            match rest with
            | [] => [none]
            | c :: rest =>
              if !isTail c then none :: scalars (c :: rest)
              else if more == 2 then
                some (Char.ofNat ((a.toNat % 16 * 64 + tailBits b) * 64 + tailBits c)) ::
                  scalars rest
              else
                match rest with
                | [] => [none]
                | d :: rest =>
                  if !isTail d then none :: scalars (d :: rest)
                  else
                    some (Char.ofNat (((a.toNat % 8 * 64 + tailBits b) * 64 + tailBits c) * 64 +
                      tailBits d)) :: scalars rest
termination_by bytes => bytes.length

def decode? (bytes : Bytes) : Option String :=
  ((scalars bytes).mapM id).map String.ofList

def decodeLossy (bytes : Bytes) : String :=
  String.ofList ((scalars bytes).map (·.getD '\uFFFD'))

def encode (text : String) : Bytes := text.toUTF8.toList

end LoadBench.Text.Utf8
