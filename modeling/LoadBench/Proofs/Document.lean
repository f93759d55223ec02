import LoadBench.Document
import Mathlib.Data.List.Nodup

namespace LoadBench

namespace Json

mutual

def document : Json → Document
  | .null => .null
  | .bool b => .bool b
  | .int n => .int n
  | .float x => .float x
  | .text s => .text s
  | .list items => .list (documentItems items)
  | .object entries => .record (documentEntries entries)

def documentItems : List Json → List Document
  | [] => []
  | item :: rest => document item :: documentItems rest

def documentEntries : List (String × Json) → List (String × Document)
  | [] => []
  | (key, value) :: rest => (key, document value) :: documentEntries rest

end

theorem documentItems_eq_map (items : List Json) : documentItems items = items.map document := by
  induction items with
  | nil => rfl
  | cons item items ih => rw [documentItems, List.map_cons, ih]

theorem documentEntries_eq_map (entries : List (String × Json)) :
    documentEntries entries = entries.map fun entry => (entry.1, entry.2.document) := by
  induction entries with
  | nil => rfl
  | cons entry entries ih => rw [documentEntries, List.map_cons, ih]

end Json

namespace Document

open Json

mutual

theorem json?_document (json : Json) : json.document.json? = some json := by
  cases json with
  | list items => rw [document, json?, jsonItems?_documentItems items, Option.map_some]
  | object entries => rw [document, json?, jsonEntries?_documentEntries entries, Option.map_some]
  | _ => rfl

theorem jsonItems?_documentItems (items : List Json) :
    jsonItems? (documentItems items) = some items := by
  cases items with
  | nil => rfl
  | cons item items =>
    rw [documentItems, jsonItems?, json?_document item, jsonItems?_documentItems items]
    rfl

theorem jsonEntries?_documentEntries (entries : List (String × Json)) :
    jsonEntries? (documentEntries entries) = some entries := by
  cases entries with
  | nil => rfl
  | cons entry entries =>
    rw [documentEntries, jsonEntries?, json?_document entry.2, jsonEntries?_documentEntries entries]
    rfl

end

/-- Fields are read one after another by this and without `Option.bind_eq_bind`, whose congruence
would simplify the fields to come twice for each one read. -/
@[simp]
theorem some_bind {α β : Type} (a : α) (next : α → Option β) : (some a >>= next) = next a := rfl

open Text in
theorem word?_nat {n : Nat} (most : n ≤ Numeral.wordMax) : word? (.int n) = some n := by
  rw [word?, if_pos ⟨Int.natCast_nonneg n, Int.ofNat_le.mpr most⟩, Int.toNat_natCast]

theorem int32?_int {n : Int} (least : -2 ^ 31 ≤ n) (most : n < 2 ^ 31) :
    int32? (.int n) = some n := if_pos ⟨least, most⟩

theorem list?_map {α β : Type} {decode : Document → Option β} {encode : α → Json} {back : α → β}
    {items : List α} (reads : ∀ a ∈ items, decode (encode a).document = some (back a)) :
    list? decode (.list (documentItems (items.map encode))) = some (items.map back) := by
  rw [documentItems_eq_map, list?, List.map_map]
  induction items with
  | nil => rfl
  | cons a items ih =>
    rw [List.forall_mem_cons] at reads
    rw [List.map_cons, List.mapM_cons, Function.comp_apply, reads.1, ih reads.2]
    rfl

theorem list?_map_self {α : Type} {decode : Document → Option α} {encode : α → Json}
    {items : List α} (reads : ∀ a ∈ items, decode (encode a).document = some a) :
    list? decode (.list (documentItems (items.map encode))) = some items := by
  rw [list?_map reads, List.map_id']

@[simp]
theorem lookup_cons {α : Type} (name key : String) (a : α) (rest : List (String × α)) :
    List.lookup name ((key, a) :: rest) = if name = key then some a else rest.lookup name := by
  by_cases same : name = key
  · rw [if_pos same, same, List.lookup_cons_self]
  · rw [if_neg same, List.lookup_cons, beq_eq_false_iff_ne.mpr same]

theorem lookup_documentEntries (name : String) (entries : List (String × Json)) :
    (documentEntries entries).lookup name = (entries.lookup name).map document := by
  induction entries with
  | nil => rfl
  | cons entry entries ih =>
    rw [documentEntries, List.lookup_cons, List.lookup_cons, ih]
    cases name == entry.1 <;> rfl

def entry? (name : String) : Document → Option Document
  | .record entries => entries.lookup name
  | _ => none

theorem entry?_document (name : String) (json : Json) :
    json.document.entry? name = (json.get? name).map document := by
  cases json with
  | object entries => exact lookup_documentEntries name entries
  | _ => rfl

namespace Fields

variable {α : Type} {decode : Document → Option α}

def ofEntries (entries : List (String × Json)) : Fields :=
  ⟨fun name => (entries.lookup name).map document, true⟩

@[simp]
theorem required_ofEntries (entries : List (String × Json)) (name : String) :
    (ofEntries entries).required name decode =
      (entries.lookup name).elim none fun json => decode json.document := by
  simp only [required, ofEntries]
  cases entries.lookup name <;> rfl

@[simp]
theorem defaulted_ofEntries (entries : List (String × Json)) (name : String) (default : α) :
    (ofEntries entries).defaulted name default decode =
      (entries.lookup name).elim (some default) fun json => decode json.document := by
  simp only [defaulted, ofEntries]
  cases entries.lookup name <;> rfl

@[simp]
theorem nullable_ofEntries (entries : List (String × Json)) (name : String) :
    (ofEntries entries).nullable name decode =
      (entries.lookup name).elim (some none) fun json => orNull decode json.document := by
  simp only [nullable, ofEntries]
  cases entries.lookup name <;> rfl

theorem orNull_document {json : Json} (present : json ≠ .null) :
    orNull decode json.document = (decode json.document).map some := by
  cases json with
  | null => exact absurd rfl present
  | _ => rfl

end Fields

theorem fields?_object (dialect : Dialect) (names : List String) {entries : List (String × Json)}
    (distinct : (entries.map (·.1)).Nodup) :
    (Json.object entries).document.fields? dialect names = some (Fields.ofEntries entries) := by
  have once : ∀ name ∈ names,
      decide (((documentEntries entries).filter (·.1 == name)).length ≤ 1) = true := by
    intro name _
    rw [decide_eq_true_eq, documentEntries_eq_map, List.filter_map, List.length_map,
      ← List.countP_eq_length_filter]
    have least := List.nodup_iff_count_le_one.mp distinct name
    rwa [List.count, List.countP_map] at least
  rw [document, fields?, if_pos (List.all_eq_true.mpr once), Fields.ofEntries]
  simp only [lookup_documentEntries]

end Document

end LoadBench
