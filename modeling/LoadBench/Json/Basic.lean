import LoadBench.Binary64.Basic

namespace LoadBench

inductive Json where
  | null
  | bool (b : Bool)
  | int (n : Int)
  | float (x : Binary64)
  | text (s : String)
  | list (items : List Json)
  | object (entries : List (String × Json))
deriving Inhabited

namespace Json

def nat (n : Nat) : Json := .int n

def number (x : Binary64) : Json := if x.isFinite then .float x else .null

def optional (encode : α → Json) : Option α → Json
  | none => .null
  | some a => encode a

def insertEntry (key : String) (value : Json) : List (String × Json) → List (String × Json)
  | [] => [(key, value)]
  | (k, v) :: rest =>
    if key < k then (key, value) :: (k, v) :: rest
    else if key = k then (key, value) :: rest
    else (k, v) :: insertEntry key value rest

/-- The entries in ascending order of their keys; of entries with one key the last. -/
def sortEntries (entries : List (String × Json)) : List (String × Json) :=
  entries.foldl (fun done entry => insertEntry entry.1 entry.2 done) []

mutual

def sorted : Json → Json
  | .list items => .list (sortedItems items)
  | .object entries => .object (sortEntries (sortedEntries entries))
  | .null => .null
  | .bool b => .bool b
  | .int n => .int n
  | .float x => .float x
  | .text s => .text s

def sortedItems : List Json → List Json
  | [] => []
  | item :: rest => sorted item :: sortedItems rest

def sortedEntries : List (String × Json) → List (String × Json)
  | [] => []
  | (key, value) :: rest => (key, sorted value) :: sortedEntries rest

end

def get? (key : String) : Json → Option Json
  | .object entries => entries.lookup key
  | _ => none

end Json

end LoadBench
