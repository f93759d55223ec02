import LoadBench.Decimal.Reading
import LoadBench.Shell.Format
import LoadBench.Shell.State

namespace LoadBench.Shell

open Text Text.Utf8

namespace Program

structure Call where
  args : List String
  input : Bytes
  files : Files
  path : String → String

structure Result where
  output : Bytes
  errors : Bytes
  code : Nat
  time : Option Duration
  changes : List Change

def done : Result := ⟨[], [], 0, some 0, []⟩

def writes (output : Bytes) : Result := { done with output }

def fails (code : Nat) (message : String) : Result :=
  { done with code, errors := encode (message ++ "\n") }

def linesOf (bytes : Bytes) : List Bytes :=
  let rows := bytes.foldr (fun b lines =>
    match b == 10, lines with
    | true, lines => [] :: lines
    | false, line :: rest => (b :: line) :: rest
    | false, [] => [[b]]) [[]]
  if rows.getLast? == some [] then rows.dropLast else rows

def unlines (lines : List Bytes) : Bytes := lines.flatMap (· ++ [10])

def sameEnd (text : Bytes) (lines : List Bytes) : Bytes :=
  if text.getLast? == some 10 then unlines lines else (unlines lines).dropLast

def countOption (default : Nat) : List String → Nat × List String
  | "-n" :: n :: rest => (Numeral.value n.toList, rest)
  | a :: rest =>
    match a.toList with
    | '-' :: 'n' :: ds => (Numeral.value ds, rest)
    | '-' :: ds => if Numeral.allDigits ds then (Numeral.value ds, rest) else (default, a :: rest)
    | _ => (default, a :: rest)
  | [] => (default, [])

def letters (args : List String) : List Char × List String :=
  ((args.filter fun a => a.startsWith "-" && a != "-").flatMap fun a => a.toList.drop 1,
    args.filter fun a => !(a.startsWith "-" && a != "-"))

def unread (program path : String) : String :=
  if program == "head" || program == "tail" then "cannot open '" ++ path ++ "' for reading"
  else path

def contents (name : String) (c : Call) (paths : List String) : Bytes × Result :=
  if paths.isEmpty then (c.input, done)
  else paths.foldl (fun (bytes, result) p =>
    if p == "-" then (bytes ++ c.input, result)
    else
      match c.files.read (c.path p) with
      | .ok more => (bytes ++ more, result)
      | .error fault =>
        let text := match fault with
          | .missing => "No such file or directory"
          | .isFolder => "Is a directory"
          | .notFolder => "Not a directory"
          | fault => fault.message
        let line := name ++ ": " ++ unread name p ++ ": " ++ text ++ "\n"
        (bytes, { result with code := 1, errors := result.errors ++ encode line }))
    ([], done)

def echo (c : Call) : Result :=
  match c.args with
  | "-n" :: rest => writes (encode (" ".intercalate rest))
  | args => writes (encode (" ".intercalate args ++ "\n"))

def printf (c : Call) : Result :=
  match c.args with
  | [] => fails 2 "printf: usage: printf format [arg ...]"
  | format :: args => writes (Format.printf (args.length + 1) format args)

def isNumber (text : String) : Bool :=
  match text.toList with
  | '-' :: ds => Numeral.allDigits ds
  | ds => Numeral.allDigits ds

def seq (c : Call) : Result :=
  let help := "\nTry 'seq --help' for more information."
  match c.args.find? fun a => !isNumber a with
  | some a => fails 1 ("seq: invalid floating point argument: '" ++ a ++ "'" ++ help)
  | none =>
  let count := fun (first step last : Int) =>
    let n := if step == 0 then 0 else ((last - first).tdiv step + 1).toNat
    let n := if (0 < step && last < first) || (step < 0 && first < last) then 0 else n
    writes (encode (String.join ((List.range n).map fun i : Nat =>
      Numeral.intToString (first + step * (i : Int)) ++ "\n")))
  match c.args.map Format.integer with
  | [last] => count 1 1 last
  | [first, last] => count first 1 last
  | [first, step, last] => count first step last
  | _ => fails 1 ("seq: missing operand" ++ help)

def sleepTime? (text : String) : Option Duration :=
  let cs := text.toList
  let digits := cs.takeWhile fun c => Numeral.isDigit c || c == '.'
  let unit := match cs.drop digits.length with
    | [] => some 1
    | ['s'] => some 1
    | ['m'] => some 60
    | ['h'] => some 3600
    | ['d'] => some 86400
    | _ => none
  let whole := digits.takeWhile (· != '.')
  let fraction := (digits.drop (whole.length + 1)).take 9
  let nanos := Numeral.value whole * 10 ^ 9 + Numeral.value fraction * 10 ^ (9 - fraction.length)
  if digits.isEmpty then none else unit.map (nanos * ·)

def sleep (c : Call) : Result :=
  if c.args == ["infinity"] then { done with time := none }
  else
    match c.args.mapM sleepTime? with
    | some (d :: ds) => { done with time := some ((d :: ds).foldl (· + ·) 0) }
    | some [] => fails 1 "sleep: missing operand\nTry 'sleep --help' for more information."
    | none =>
      fails 1 ("sleep: invalid time interval " ++
        "'" ++ ((c.args.find? fun a => (sleepTime? a).isNone).getD "") ++ "'" ++
        "\nTry 'sleep --help' for more information.")

def cat (c : Call) : Result :=
  let (bytes, result) := contents "cat" c c.args
  { result with output := bytes }

def unescapedBytes : Nat → List UInt8 → List UInt8
  | 0, _ => []
  | _, [] => []
  | fuel + 1, 92 :: b :: rest =>
    let digits := ((b :: rest).map fun b => Char.ofNat b.toNat).takeWhile Format.isOctal |>.take 3
    if digits.isEmpty then
      ((Format.control? (Char.ofNat b.toNat)).getD b) :: unescapedBytes fuel rest
    else Format.octalByte digits :: unescapedBytes fuel ((b :: rest).drop digits.length)
  | fuel + 1, b :: rest => b :: unescapedBytes fuel rest

def byteSet : List UInt8 → List UInt8
  | a :: 45 :: b :: rest =>
    ((List.range (b.toNat + 1 - a.toNat)).map fun i => UInt8.ofNat (a.toNat + i)) ++ byteSet rest
  | b :: rest => b :: byteSet rest
  | [] => []

def tr (c : Call) : Result :=
  let set := fun s : String => byteSet (unescapedBytes s.utf8ByteSize (encode s))
  match c.args with
  | ["-d", s] => writes (c.input.filter fun b => !(set s).contains b)
  | [s, t] =>
    let old := set s
    let new := set t
    writes (c.input.map fun b =>
      if old.contains b then (new[old.idxOf b]?).getD (new.getLast?.getD b) else b)
  | _ => fails 1 "tr: missing operand"

def head (c : Call) : Result :=
  match c.args with
  | ["-c", n, "/dev/zero"] => writes (List.replicate (Numeral.value n.toList) 0)
  | "-c" :: n :: paths =>
    let (bytes, result) := contents "head" c paths
    { result with output := bytes.take (Numeral.value n.toList) }
  | _ =>
  let (n, paths) := countOption 10 c.args
  let (bytes, result) := contents "head" c paths
  let rows := linesOf bytes
  { result with output := if rows.length ≤ n then bytes else unlines (rows.take n) }

def tail (c : Call) : Result :=
  match c.args with
  | "-c" :: n :: paths =>
    let (bytes, result) := contents "tail" c paths
    { result with output := bytes.drop (bytes.length - Numeral.value n.toList) }
  | _ =>
  let (n, paths) := countOption 10 c.args
  let (bytes, result) := contents "tail" c paths
  let rows := linesOf bytes
  { result with output := sameEnd bytes (rows.drop (rows.length - n)) }

def wc (c : Call) : Result :=
  let (flags, paths) := letters c.args
  let (bytes, result) := contents "wc" c paths
  let words := (String.ofList ((Utf8.decodeLossy bytes).toList.map fun ch =>
    if ch == '\n' || ch == '\t' then ' ' else ch)).splitOn " " |>.filter (· != "")
  let counts := [('l', (bytes.filter (· == 10)).length), ('w', words.length), ('c', bytes.length)]
  let shown := if flags.isEmpty then counts else counts.filter fun k => flags.contains k.1
  let cell := fun n : Nat =>
    let ds := Numeral.toString n
    if shown.length == 1 then ds else String.ofList (List.replicate (7 - ds.length) ' ') ++ ds
  let name := match paths with
    | [p] => " " ++ p
    | _ => ""
  { result with output := encode (" ".intercalate (shown.map fun k => cell k.2) ++ name ++ "\n") }

def sort (c : Call) : Result :=
  let (flags, paths) := letters c.args
  let (bytes, result) := contents "sort" c paths
  let key := fun line : Bytes => Format.integer (Utf8.decodeLossy line)
  let le := fun a b : Bytes =>
    if flags.contains 'n' && key a != key b then decide (key a < key b)
    else !decide (b.map (·.toNat) < a.map (·.toNat))
  let sorted := (linesOf bytes).mergeSort le
  let sorted := if flags.contains 'r' then sorted.reverse else sorted
  let sorted := if flags.contains 'u' then sorted.eraseReps else sorted
  { result with output := unlines sorted }

def holds (text : List UInt8) : Bytes → Bool
  | [] => text.isEmpty
  | b :: rest => text.isPrefixOf (b :: rest) || holds text rest

def grep (c : Call) : Result :=
  match letters c.args with
  | (_, []) => fails 2 "Usage: grep [OPTION]... PATTERNS [FILE]..."
  | (flags, text :: paths) =>
    let (bytes, result) := contents "grep" c paths
    let found := (linesOf bytes).filter fun line => holds (encode text) line != flags.contains 'v'
    let output := if flags.contains 'q' then []
      else if flags.contains 'c' then encode (Numeral.toString found.length ++ "\n")
      else unlines found
    { result with output, code := if found.isEmpty then 1 else 0 }

/-- How many lines `yes` gets written before nobody reads them any more. -/
def yesLines : Nat := 20000

def yes (c : Call) : Result :=
  let line := encode ((if c.args.isEmpty then "y" else " ".intercalate c.args) ++ "\n")
  writes (List.replicate yesLines line).flatten

def tee (c : Call) : Result :=
  let (flags, paths) := letters c.args
  { done with
    output := c.input
    changes := paths.flatMap fun p =>
      (if flags.contains 'a' then [] else [.truncate (c.path p)]) ++ [.append (c.path p) c.input] }

def rm (c : Call) : Result :=
  let (flags, paths) := letters c.args
  paths.foldl (fun r p =>
    match c.files.place (c.path p) >>= fun place => .ok (c.files.lookup? place) with
    | .ok (some _) => { r with changes := r.changes ++ [.remove (c.path p)] }
    | _ => if flags.contains 'f' then r
      else { r with
        code := 1
        errors := r.errors ++
          encode ("rm: cannot remove '" ++ p ++ "': No such file or directory\n") }) done

def mkdir (c : Call) : Result :=
  { done with changes := (letters c.args).2.map fun p => .addFolder (c.path p) }

def touch (c : Call) : Result :=
  { done with changes := (letters c.args).2.map fun p => .append (c.path p) [] }

def ls (c : Call) : Result :=
  let (_, paths) := letters c.args
  match paths.find? fun p => !c.files.isThere (c.path p) with
  | some p => fails 2 ("ls: cannot access '" ++ p ++ "': No such file or directory")
  | none =>
  let names := (c.files.names (c.path (paths.headD "."))).mergeSort fun a b => a ≤ b
  writes (encode (String.join (names.map (· ++ "\n"))))

def baseName (p : String) : String :=
  match ((Path.names p).filter (· != "")).getLast? with
  | some name => name
  | none => if p == "" then "" else "/"

def basename (c : Call) : Result :=
  match c.args with
  | [p] => writes (encode (baseName p ++ "\n"))
  | [p, ending] =>
    let name := baseName p
    let cut := if name.endsWith ending && name != ending then (name.dropEnd ending.length).toString
      else name
    writes (encode (cut ++ "\n"))
  | _ => fails 1 "basename: missing operand"

def dirname (c : Call) : Result :=
  match c.args with
  | p :: _ =>
    let parent := (Path.parent? p).getD p
    writes (encode ((if parent == "" then "." else parent) ++ "\n"))
  | [] => fails 1 "dirname: missing operand"

def isFolder (c : Call) (p : String) : Bool := c.files.isFolder (c.path p)

def entryAt (c : Call) (p : String) : Option Entry :=
  match c.files.place (c.path p) with
  | .ok place => c.files.lookup? place
  | .error _ => none

def isFile (c : Call) (p : String) : Bool :=
  match entryAt c p with
  | some (.file _) => true
  | _ => false

def unaryTest (c : Call) (op arg : String) : Option Bool :=
  match op with
  | "-n" => some (arg != "")
  | "-z" => some (arg == "")
  | "-e" => some (entryAt c arg).isSome
  | "-r" => some (entryAt c arg).isSome
  | "-w" => some (entryAt c arg).isSome
  | "-x" => some (isFolder c arg)
  | "-f" => some (isFile c arg)
  | "-d" => some (isFolder c arg)
  | "-s" => some (match entryAt c arg with
      | some (.file content) => !content.isEmpty
      | some _ => true
      | none => false)
  | "-t" => some false
  | _ => none

def binaryTest (a op b : String) : Option Bool :=
  let number := fun f : Int → Int → Bool => some (f (Format.integer a) (Format.integer b))
  match op with
  | "=" => some (a == b)
  | "!=" => some (a != b)
  | "-eq" => number (· == ·)
  | "-ne" => number (· != ·)
  | "-lt" => number (· < ·)
  | "-le" => number (· ≤ ·)
  | "-gt" => number (· > ·)
  | "-ge" => number (· ≥ ·)
  | _ => none

def condition (c : Call) : Nat → List String → Option Bool
  | 0, _ => none
  | fuel + 1, args =>
    match args with
    | [] => some false
    | [a] => some (a != "")
    | ["!", a] => some (a == "")
    | [op, a] => unaryTest c op a
    | [a, op, b] =>
      match binaryTest a op b with
      | some r => some r
      | none =>
        if op == "-a" then some (a != "" && b != "")
        else if op == "-o" then some (a != "" || b != "")
        else if a == "!" then (condition c fuel [op, b]).map not
        else none
    | "!" :: rest => (condition c fuel rest).map not
    | args =>
      match args.idxOf "-o", args.idxOf "-a" with
      | o, a =>
        if o < args.length then do
          return (← condition c fuel (args.take o)) || (← condition c fuel (args.drop (o + 1)))
        else if a < args.length then do
          return (← condition c fuel (args.take a)) && (← condition c fuel (args.drop (a + 1)))
        else none

def test (c : Call) : Result :=
  match condition c (c.args.length + 1) c.args with
  | some true => done
  | some false => { done with code := 1 }
  | none => { done with code := 2 }

def bracket (c : Call) : Result :=
  if c.args.getLast? == some "]" then test { c with args := c.args.dropLast }
  else fails 2 "[: missing ]"

def plain : List String := ["true", "false", "echo", "printf", "test", "["]

def checked (name : String) (run : Call → Result) (c : Call) : Result :=
  match c.args.find? fun a => a.startsWith "--" && a != "--" with
  | none => run c
  | some arg =>
    let usage := if name == "grep" then "Usage: grep [OPTION]... PATTERNS [FILE]...\n" else ""
    let code := if name == "ls" || name == "sort" || name == "grep" then 2 else 1
    fails code (name ++ ": unrecognized option '" ++ arg ++ "'\n" ++ usage ++ "Try '" ++ name ++
      " --help' for more information.")

def all : List (String × (Call → Result)) :=
  [("true", fun _ => done), ("false", fun _ => { done with code := 1 }), ("echo", echo),
    ("printf", printf), ("seq", seq), ("sleep", sleep), ("cat", cat), ("tr", tr), ("head", head),
    ("tail", tail), ("wc", wc), ("sort", sort), ("grep", grep), ("yes", yes), ("tee", tee),
    ("rm", rm), ("mkdir", mkdir), ("touch", touch), ("ls", ls), ("basename", basename),
    ("dirname", dirname), ("test", test), ("[", bracket)]

def folders : List String := ["/usr/bin/", "/bin/"]

def nameOf (command : String) : String :=
  match folders.find? fun f => command.startsWith f with
  | some f => (command.drop f.length).toString
  | none => command

def find? (command : String) : Option (Call → Result) :=
  let name := nameOf command
  (all.lookup name).map fun run => if plain.contains name then run else checked name run

end Program

end LoadBench.Shell
