import LoadBench.Document

namespace LoadBench.Toml

/-- What brought a table about decides what may still be added to it. -/
inductive Origin where
  | header
  | nested
  | dotted
deriving DecidableEq

inductive Node where
  | value (d : Document)
  | table (origin : Origin) (entries : List (String × Node))
  | tables (items : List (List (String × Node)))

abbrev Entries := List (String × Node)

namespace Node

mutual

def document : Node → Document
  | .value d => d
  | .table _ entries => .record (documentEntries entries)
  | .tables items => .list (documentItems items)

def documentEntries : List (String × Node) → List (String × Document)
  | [] => []
  | (key, node) :: rest => (key, document node) :: documentEntries rest

def documentItems : List (List (String × Node)) → List Document
  | [] => []
  | item :: rest => .record (documentEntries item) :: documentItems rest

end

end Node

namespace Entries

def replace (key : String) (node : Node) (entries : Entries) : Entries :=
  entries.map fun entry => if entry.1 == key then (key, node) else entry

/-- Changes the table that a path leads to. Tables missing on the way come about as `made`; of
repeated tables the last one is entered. A dotted key leads into no table that has a header. -/
def atPath? (made : Origin) (change : Origin → Entries → Option Entries) :
    List String → Origin → Entries → Option Entries
  | [], origin, entries => change origin entries
  | key :: path, _, entries =>
    match entries.lookup key with
    | none => do
      let inner ← atPath? made change path made []
      return entries ++ [(key, .table made inner)]
    | some (.table origin inner) =>
      if made == .dotted && origin == .header then none
      else do
        let inner ← atPath? made change path origin inner
        return replace key (.table origin inner) entries
    | some (.tables items) => do
      let last ← atPath? made change path .header (← items.getLast?)
      return replace key (.tables (items.dropLast ++ [last])) entries
    | some (.value _) => none

def define? (key : List String) (node : Node) (entries : Entries) : Option Entries := do
  let path := key.dropLast
  let name ← key.getLast?
  atPath? .dotted (fun origin inner =>
    if (origin == .dotted) == path.isEmpty then none
    else if (inner.lookup name).isSome then none
    else some (inner ++ [(name, node)])) path .header entries

def defineAll? (new : List (List String × Node)) (entries : Entries) : Option Entries :=
  new.foldlM (fun entries entry => define? entry.1 entry.2 entries) entries

/-- Adds the table of a header with its entries. Only a table brought about by headers below it may
be there already. -/
def open? (path : List String) (new : List (List String × Node)) (entries : Entries) :
    Option Entries := do
  let name ← path.getLast?
  atPath? .nested (fun _ parent =>
    match parent.lookup name with
    | none => do return parent ++ [(name, .table .header (← defineAll? new []))]
    | some (.table .nested inner) => do
      return parent.filter (·.1 != name) ++ [(name, .table .header (← defineAll? new inner))]
    | some _ => none) path.dropLast .header entries

def append? (path : List String) (new : List (List String × Node)) (entries : Entries) :
    Option Entries := do
  let name ← path.getLast?
  atPath? .nested (fun _ parent =>
    match parent.lookup name with
    | none => do return parent ++ [(name, .tables [← defineAll? new []])]
    | some (.tables items) => do
      return replace name (.tables (items ++ [← defineAll? new []])) parent
    | some _ => none) path.dropLast .header entries

end Entries

end LoadBench.Toml
