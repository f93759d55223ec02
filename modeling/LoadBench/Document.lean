import LoadBench.Json.Basic
import LoadBench.Text.Numeral

namespace LoadBench

inductive Document where
  | null
  | bool (b : Bool)
  | int (n : Int)
  | float (x : Binary64)
  | text (s : String)
  | list (items : List Document)
  | record (entries : List (String × Document))
  /-- A piece that is well written but has no value, such as a number no double can hold. It does
  no harm where nothing looks at it. -/
  | malformed
deriving Inhabited

namespace Document

structure Dialect where
  extraItems : Bool
  emptyPayload : Document → Bool

mutual

def json? : Document → Option Json
  | .null => some .null
  | .bool b => some (.bool b)
  | .int n => some (.int n)
  | .float x => some (.float x)
  | .text s => some (.text s)
  | .list items => (jsonItems? items).map .list
  | .record entries => (jsonEntries? entries).map .object
  | .malformed => none

def jsonItems? : List Document → Option (List Json)
  | [] => some []
  | item :: rest => do return (← json? item) :: (← jsonItems? rest)

def jsonEntries? : List (String × Document) → Option (List (String × Json))
  | [] => some []
  | (key, value) :: rest => do return (key, ← json? value) :: (← jsonEntries? rest)

end

def freeJson? (d : Document) : Option Json := d.json?.map Json.sorted

def word? : Document → Option Nat
  | .int n => if 0 ≤ n ∧ n ≤ Text.Numeral.wordMax then some n.toNat else none
  | _ => none

def int32? : Document → Option Int
  | .int n => if -2 ^ 31 ≤ n ∧ n < 2 ^ 31 then some n else none
  | _ => none

def float? : Document → Option Binary64
  | .float x => some x
  | .int n => some (Binary64.ofInt n)
  | _ => none

def text? : Document → Option String
  | .text s => some s
  | _ => none

def bool? : Document → Option Bool
  | .bool b => some b
  | _ => none

def list? (decode : Document → Option α) : Document → Option (List α)
  | .list items => items.mapM decode
  | _ => none

/-- One of a set of names, as a text or as a record from the name to an empty payload. -/
def choice? (dialect : Dialect) (ofName? : String → Option α) : Document → Option α
  | .text s => ofName? s
  | .record [(name, payload)] => if dialect.emptyPayload payload then ofName? name else none
  | _ => none

structure Fields where
  find : String → Option Document
  named : Bool

/-- The fields of a record given by names, none twice, or as a list in the order of `names`. Entries
with other names are passed over. -/
def fields? (dialect : Dialect) (names : List String) : Document → Option Fields
  | .record entries =>
    if names.all fun name => (entries.filter (·.1 == name)).length ≤ 1 then
      some ⟨(entries.lookup ·), true⟩
    else none
  | .list items =>
    if dialect.extraItems || items.length ≤ names.length then
      some ⟨fun name => items[names.idxOf name]?, false⟩
    else none
  | _ => none

namespace Fields

def required (f : Fields) (name : String) (decode : Document → Option α) : Option α :=
  f.find name >>= decode

def defaulted (f : Fields) (name : String) (default : α) (decode : Document → Option α) :
    Option α :=
  match f.find name with
  | none => some default
  | some d => decode d

def orNull (decode : Document → Option α) : Document → Option (Option α)
  | .null => some none
  | d => (decode d).map some

def nullable (f : Fields) (name : String) (decode : Document → Option α) : Option (Option α) :=
  match f.find name with
  | none => if f.named then some none else none
  | some d => orNull decode d

end Fields

end Document

end LoadBench
