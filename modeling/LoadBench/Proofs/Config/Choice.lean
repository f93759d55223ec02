import LoadBench.Config.Choice
import LoadBench.Proofs.Document

namespace LoadBench

open Document

theorem Mode.ofName?_name (m : Mode) : Choice.ofName? (Choice.name m) = some m := by
  cases m <;> rfl

theorem Quantization.ofName?_name (q : Quantization) :
    Choice.ofName? (Choice.name q) = some q := by
  cases q <;> rfl

theorem FilterType.ofName?_name (f : FilterType) : Choice.ofName? (Choice.name f) = some f := by
  cases f <;> rfl

theorem Choice.ofDocument?_json {α : Type} [Choice α] {a : α}
    (reads : ofName? (name a) = some a) (dialect : Dialect) :
    ofDocument? dialect (json a).document = some a := reads

theorem Choice.orNull_json {α : Type} [Choice α] {chosen : Option α}
    (reads : ∀ a ∈ chosen, ofName? (name a) = some a) (dialect : Dialect) :
    Fields.orNull (ofDocument? dialect) (Json.optional json chosen).document = some chosen := by
  cases chosen with
  | none => rfl
  | some a =>
    have present : json a ≠ .null := nofun
    rw [Json.optional, Fields.orNull_document present, ofDocument?_json (reads a rfl),
      Option.map_some]

end LoadBench
