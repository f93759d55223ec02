import LoadBench.Toml.Scalar
import LoadBench.Toml.Table

namespace LoadBench.Toml.Reader

def skipSpace : Nat → List Char → List Char
  | 0, cs => cs
  | fuel + 1, cs =>
    let rest := skipComment (skipBlanks cs)
    match afterNewline? rest with
    | some rest => skipSpace fuel rest
    | none => rest

mutual

def value? : Nat → Nat → List Char → Option (Node × List Char)
  | 0, _, _ => none
  | fuel + 1, depth, cs =>
    match cs with
    | '[' :: rest => do
      if deepest ≤ depth + 1 then none
      let (items, rest) ← items? fuel (depth + 1) rest
      return (.value (.list (items.map Node.document)), rest)
    | '\x7b' :: rest => do
      if deepest ≤ depth + 1 then none
      let (new, rest) ← match skipBlanks rest with
        | '\x7d' :: rest => some ([], rest)
        | rest => entries? fuel (depth + 1) rest
      let entries ← Entries.defineAll? new []
      return (.value (.record (Node.documentEntries entries)), rest)
    | cs => (scalar? cs).map fun r => (.value r.1, r.2)

def items? : Nat → Nat → List Char → Option (List Node × List Char)
  | 0, _, _ => none
  | fuel + 1, depth, cs =>
    match skipSpace cs.length cs with
    | ']' :: rest => some ([], rest)
    | rest => do
      let (item, rest) ← value? fuel depth rest
      match skipSpace rest.length rest with
      | ']' :: rest => return ([item], rest)
      | ',' :: rest =>
        let (items, rest) ← items? fuel depth rest
        return (item :: items, rest)
      | _ => none

def entries? : Nat → Nat → List Char → Option (List (List String × Node) × List Char)
  | 0, _, _ => none
  | fuel + 1, depth, cs => do
    let (key, rest) ← key? cs
    let '=' :: rest := rest | none
    let (node, rest) ← value? fuel depth (skipBlanks rest)
    match skipBlanks rest with
    | '\x7d' :: rest => return ([(key, node)], rest)
    | ',' :: rest =>
      let (entries, rest) ← entries? fuel depth rest
      return ((key, node) :: entries, rest)
    | _ => none

end

inductive Line where
  | empty
  | entry (key : List String) (node : Node)
  | header (path : List String)
  | repeated (path : List String)

def line? (cs : List Char) : Option (Line × List Char) :=
  match cs with
  | '[' :: '[' :: rest => do
    let (path, rest) ← key? rest
    let ']' :: ']' :: rest := rest | none
    return (.repeated path, ← afterLine? rest)
  | '[' :: rest => do
    let (path, rest) ← key? rest
    let ']' :: rest := rest | none
    return (.header path, ← afterLine? rest)
  | cs =>
    match afterLine? cs with
    | some rest => some (.empty, rest)
    | none => do
      let (key, rest) ← key? cs
      let '=' :: rest := rest | none
      let (node, rest) ← value? (2 * rest.length + 2) 0 (skipBlanks rest)
      return (.entry key node, ← afterLine? rest)

def lines? : Nat → List Char → Option (List Line)
  | 0, _ => none
  | fuel + 1, cs =>
    match skipBlanks cs with
    | [] => some []
    | cs => do
      let (line, rest) ← line? cs
      return line :: (← lines? fuel rest)

inductive Place where
  | top
  | header (path : List String)
  | repeated (path : List String)

def close? (place : Place) (new : List (List String × Node)) (entries : Entries) : Option Entries :=
  match place with
  | .top => Entries.defineAll? new entries
  | .header path => Entries.open? path new entries
  | .repeated path => Entries.append? path new entries

def tables? (place : Place) (new : List (List String × Node)) (entries : Entries) :
    List Line → Option Entries
  | [] => close? place new entries
  | .empty :: rest => tables? place new entries rest
  | .entry key node :: rest => tables? place (new ++ [(key, node)]) entries rest
  | .header path :: rest => do tables? (.header path) [] (← close? place new entries) rest
  | .repeated path :: rest => do tables? (.repeated path) [] (← close? place new entries) rest

def document? (text : String) : Option Document := do
  let cs := match text.toList with
    | '\ufeff' :: rest => rest
    | all => all
  let lines ← lines? (cs.length + 1) cs
  let entries ← tables? .top [] [] lines
  return .record (Node.documentEntries entries)

end LoadBench.Toml.Reader

namespace LoadBench.Toml

/-- In TOML a record given as a list may hold extra items, and an empty list or table stands after a
choice's name. -/
def dialect : Document.Dialect where
  extraItems := true
  emptyPayload
    | .list items => items.isEmpty
    | .record entries => entries.isEmpty
    | _ => false

end LoadBench.Toml
