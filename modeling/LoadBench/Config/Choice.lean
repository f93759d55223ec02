import LoadBench.Document

namespace LoadBench

class Choice (α : Type) where
  noun : String
  all : List α
  name : α → String

namespace Choice

variable {α : Type} [Choice α]

def ofName? (text : String) : Option α := (all (α := α)).find? fun a => name a == text

def unknown (α : Type) [Choice α] (text : String) : String :=
  "unknown " ++ noun α ++ " '" ++ text ++ "' (allowed: " ++
    ", ".intercalate ((all (α := α)).map name) ++ ")"

def json (a : α) : Json := .text (name a)

def ofDocument? (dialect : Document.Dialect) : Document → Option α :=
  Document.choice? dialect ofName?

end Choice

inductive Mode where
  | search
  | insert
  | mixed
deriving DecidableEq

instance : Choice Mode where
  noun := "mode"
  all := [.search, .insert, .mixed]
  name
    | .search => "search"
    | .insert => "insert"
    | .mixed => "mixed"

inductive Quantization where
  | none
  | sq8
  | binary
deriving DecidableEq

instance : Choice Quantization where
  noun := "quantization"
  all := [.none, .sq8, .binary]
  name
    | .none => "None"
    | .sq8 => "SQ8"
    | .binary => "Binary"

inductive FilterType where
  | exact
  | oneOf
  | range
deriving DecidableEq

instance : Choice FilterType where
  noun := "filter type"
  all := [.exact, .oneOf, .range]
  name
    | .exact => "Exact"
    | .oneOf => "OneOf"
    | .range => "Range"

end LoadBench
