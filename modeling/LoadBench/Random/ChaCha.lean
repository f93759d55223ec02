namespace LoadBench.Random.ChaCha

abbrev State := Vector UInt32 16

abbrev Key := Vector UInt32 8

def rotateLeft (x : UInt32) (n : UInt32) : UInt32 := (x <<< n) ||| (x >>> (32 - n))

def mix (s : State) (a b d : Fin 16) (n : UInt32) : State :=
  let s := s.set a (s[a] + s[b])
  s.set d (rotateLeft (s[d] ^^^ s[a]) n)

def quarterRound (s : State) (a b c d : Fin 16) : State :=
  mix (mix (mix (mix s a b d 16) c d b 12) a b d 8) c d b 7

def doubleRound (s : State) : State :=
  let s := quarterRound s 0 4 8 12
  let s := quarterRound s 1 5 9 13
  let s := quarterRound s 2 6 10 14
  let s := quarterRound s 3 7 11 15
  let s := quarterRound s 0 5 10 15
  let s := quarterRound s 1 6 11 12
  let s := quarterRound s 2 7 8 13
  quarterRound s 3 4 9 14

def iterate (f : State → State) : Nat → State → State
  | 0, s => s
  | n + 1, s => iterate f n (f s)

/-- The state before the rounds: four constants, the key, the block's number, no nonce. -/
def initial (key : Key) (block : Nat) : State :=
  #v[0x61707865, 0x3320646e, 0x79622d32, 0x6b206574,
    key[0], key[1], key[2], key[3], key[4], key[5], key[6], key[7],
    UInt32.ofNat block, UInt32.ofNat (block / 2 ^ 32), 0, 0]

def block (key : Key) (number : Nat) : List UInt32 :=
  let start := initial key number
  (Vector.zipWith (· + ·) (iterate doubleRound 6 start) start).toList

def advance (s : UInt64) : UInt64 := s * 6364136223846793005 + 11634580027462260723

def output (s : UInt64) : UInt32 :=
  let x := (((s >>> 18) ^^^ s) >>> 27).toUInt32
  let r := (s >>> 59).toUInt32
  (x >>> r) ||| (x <<< ((32 - r) % 32))

def expand : Nat → UInt64 → List UInt32
  | 0, _ => []
  | n + 1, s => output (advance s) :: expand n (advance s)

def keyOfSeed (seed : UInt64) : Key := Vector.ofFn fun i => (expand 8 seed).getD i 0

end LoadBench.Random.ChaCha
