import LoadBench.Proofs.Document
import LoadBench.Proofs.Json.Numbers
import LoadBench.Proofs.Json.Strings
import Mathlib.Data.List.DropRight

namespace LoadBench

namespace Json

mutual

def depth : Json → Nat
  | .list items => depthItems items + 1
  | .object entries => depthEntries entries + 1
  | _ => 0

def depthItems : List Json → Nat
  | [] => 0
  | item :: rest => max (depth item) (depthItems rest)

def depthEntries : List (String × Json) → Nat
  | [] => 0
  | (_, value) :: rest => max (depth value) (depthEntries rest)

end

theorem depthEntries_le_iff {entries : List (String × Json)} {most : Nat} :
    depthEntries entries ≤ most ↔ ∀ entry ∈ entries, entry.2.depth ≤ most := by
  induction entries with
  | nil => simp [depthEntries]
  | cons entry rest ih => rw [depthEntries, Nat.max_le, ih, List.forall_mem_cons]

structure ReadsBack (x : Binary64) : Prop where
  finite : x.isFinite = true
  reads : Reader.number? (Decimal.document.text x) = some (.float x, [])

def isDouble (x : Binary64) : Option (Document × List Char) → Bool
  | some (.float y, []) => y == x
  | _ => false

theorem isDouble_iff {x : Binary64} {read : Option (Document × List Char)} :
    isDouble x read = true ↔ read = some (.float x, []) := by
  unfold isDouble
  split
  · rename_i y
    rw [beq_iff_eq]
    constructor
    · rintro rfl
      rfl
    · rintro ⟨⟩
      rfl
  · rename_i other
    refine ⟨nofun, ?_⟩
    rintro rfl
    exact absurd rfl (other x)

instance (x : Binary64) : Decidable (ReadsBack x) :=
  decidable_of_iff (x.isFinite = true ∧
      isDouble x (Reader.number? (Decimal.document.text x)) = true)
    ⟨fun both => ⟨both.1, isDouble_iff.mp both.2⟩, fun back => ⟨back.1, isDouble_iff.mpr back.2⟩⟩

mutual

/-- The numbers of a value read back as they are. -/
def Legible : Json → Prop
  | .int n => -2 ^ 63 ≤ n ∧ n ≤ Text.Numeral.wordMax
  | .float x => ReadsBack x
  | .list items => LegibleItems items
  | .object entries => LegibleEntries entries
  | _ => True

def LegibleItems : List Json → Prop
  | [] => True
  | item :: rest => Legible item ∧ LegibleItems rest

def LegibleEntries : List (String × Json) → Prop
  | [] => True
  | (_, value) :: rest => Legible value ∧ LegibleEntries rest

end

theorem legibleItems_map {α : Type} {encode : α → Json} {items : List α} :
    LegibleItems (items.map encode) ↔ ∀ a ∈ items, (encode a).Legible := by
  induction items with
  | nil => simp [LegibleItems]
  | cons a items ih => rw [List.map_cons, LegibleItems, ih, List.forall_mem_cons]

theorem legibleEntries_append {entries more : List (String × Json)} :
    LegibleEntries (entries ++ more) ↔ LegibleEntries entries ∧ LegibleEntries more := by
  induction entries with
  | nil => simp [LegibleEntries]
  | cons entry entries ih => rw [List.cons_append, LegibleEntries, LegibleEntries, ih, and_assoc]

theorem legible_nat {n : Nat} (most : n ≤ Text.Numeral.wordMax) : (nat n).Legible :=
  ⟨by omega, Int.ofNat_le.mpr most⟩

theorem legible_number_of_finite {x : Binary64} (back : x.isFinite = true → ReadsBack x) :
    (number x).Legible := by
  rw [number]
  split
  · rename_i finite
    exact back finite
  · trivial

theorem legible_number {x : Binary64} (back : ReadsBack x) : (number x).Legible :=
  legible_number_of_finite fun _ => back

end Json

namespace Json.Reader

open Text

theorem skipSpace_newline (level : Nat) (cs : List Char) :
    skipSpace (newline level ++ cs) = skipSpace cs := by
  have blank : ∀ c ∈ newline level, isSpace c = true := by
    intro c member
    rcases List.mem_cons.mp member with rfl | space
    · rfl
    · rw [List.eq_of_mem_replicate space]
      rfl
  rw [skipSpace, List.dropWhile_append_of_pos blank, skipSpace]

theorem skipSpace_cons {c : Char} (plain : isSpace c = false) (cs : List Char) :
    skipSpace (c :: cs) = c :: cs :=
  List.dropWhile_cons_of_neg (Bool.eq_false_iff.mp plain)

theorem skipSpace_idem (cs : List Char) : skipSpace (skipSpace cs) = skipSpace cs :=
  List.dropWhile_idempotent _ cs

theorem value?_of_skipSpace {cs ds : List Char} (same : skipSpace cs = skipSpace ds)
    (fuel level : Nat) : value? fuel level cs = value? fuel level ds := by
  cases fuel with
  | zero => rfl
  | succ fuel => rw [value?, value?, same]

theorem items?_of_skipSpace {cs ds : List Char} (same : skipSpace cs = skipSpace ds)
    (fuel level : Nat) : items? fuel level cs = items? fuel level ds := by
  cases fuel with
  | zero => rfl
  | succ fuel => rw [items?, items?, value?_of_skipSpace same]

theorem entries?_of_skipSpace {cs ds : List Char} (same : skipSpace cs = skipSpace ds)
    (fuel level : Nat) : entries? fuel level cs = entries? fuel level ds := by
  cases fuel with
  | zero => rfl
  | succ fuel => rw [entries?, entries?, same]

variable {fuel level : Nat} {cs more next rest : List Char} {d : Document}

theorem value?_number (found : number? cs = some (d, rest)) :
    value? (fuel + 1) level cs = some (d, rest) := by
  obtain ⟨c, later, rfl, first⟩ := head_of_number? found
  rcases first with rfl | digit
  · exact found
  · have ranges : 48 ≤ c.toNat ∧ c.toNat ≤ 57 := by
      rw [Numeral.isDigit, Bool.and_eq_true, decide_eq_true_eq, decide_eq_true_eq] at digit
      exact digit
    have other {e : Char} (outside : e.toNat < 48 ∨ 57 < e.toNat) : c ≠ e := by
      rintro rfl
      omega
    have plain : isSpace c = false := by
      simp only [isSpace, Bool.or_eq_false_iff, beq_eq_false_iff_ne]
      exact ⟨⟨⟨other (by decide), other (by decide)⟩, other (by decide)⟩, other (by decide)⟩
    rw [value?, skipSpace_cons plain]
    split <;> rename_i same
    case h_7 => exact found
    all_goals exact absurd (List.cons.inj same).1 (other (by decide))

theorem value?_text (s : String) (rest : List Char) :
    value? (fuel + 1) level (stringText s ++ rest) = some (.text s, rest) := by
  have split : stringText s ++ rest = '\x22' :: (s.toList.flatMap escape ++ '\x22' :: rest) := by
    rw [stringText, List.cons_append, List.cons_append, List.append_assoc, List.singleton_append]
  have units := stringUnits?_escapes s.toList rest
  have step : value? (fuel + 1) level ('\x22' :: (s.toList.flatMap escape ++ '\x22' :: rest)) =
      (stringUnits? (s.toList.flatMap escape ++ '\x22' :: rest)).bind fun read =>
        some (((joinUnits? read.1).map fun s => .text (String.ofList s)).getD .malformed,
          read.2) := by
    rw [value?]
    rfl
  rw [split, step, units, Option.bind_some, joinUnits?_units, Option.map_some, Option.getD_some,
    String.ofList_toList]

theorem items?_bracket (closes : skipSpace cs = ']' :: rest) : items? fuel level cs = none := by
  rw [items?_of_skipSpace (closes.trans (skipSpace_cons rfl rest).symm)]
  rcases fuel with _ | _ | fuel <;> rfl

theorem value?_bracket (fuel level : Nat) (cs : List Char) :
    value? (fuel + 1) level ('[' :: cs) =
      match skipSpace cs with
      | ']' :: rest => some (atLevel (level + 1) (.list []), rest)
      | rest => (items? fuel (level + 1) rest).bind fun read =>
        some (atLevel (level + 1) (.list read.1), read.2) := by
  rw [value?]
  rfl

theorem value?_list {items : List Document}
    (found : items? fuel (level + 1) cs = some (items, rest))
    (shallow : level + 1 < deepest) :
    value? (fuel + 1) level ('[' :: cs) = some (.list items, rest) := by
  rw [value?_bracket]
  split
  · rename_i closes
    rw [items?_bracket closes] at found
    cases found
  · rw [items?_of_skipSpace (skipSpace_idem cs), found, Option.bind_some, atLevel,
      if_neg (Nat.not_le.mpr shallow)]

theorem value?_emptyList (shallow : level + 1 < deepest) (rest : List Char) :
    value? (fuel + 1) level ('[' :: ']' :: rest) = some (.list [], rest) := by
  have step : value? (fuel + 1) level ('[' :: ']' :: rest) =
      some (atLevel (level + 1) (.list []), rest) := rfl
  rw [step, atLevel, if_neg (Nat.not_le.mpr shallow)]

theorem items?_last (found : value? fuel level cs = some (d, more))
    (closes : skipSpace more = ']' :: rest) : items? (fuel + 1) level cs = some ([d], rest) := by
  rw [items?, found]
  simp only [Option.bind_eq_bind, Option.bind_some, closes]
  rfl

theorem items?_next {items : List Document} (found : value? fuel level cs = some (d, more))
    (goesOn : skipSpace more = ',' :: next) (later : items? fuel level next = some (items, rest)) :
    items? (fuel + 1) level cs = some (d :: items, rest) := by
  rw [items?, found]
  simp only [Option.bind_eq_bind, Option.bind_some, goesOn, later]
  rfl

theorem recordOf_named (entries : List (String × Document)) :
    recordOf (entries.map fun entry => (some entry.1, entry.2)) = .record entries := by
  have named : (entries.map fun entry => (some entry.1, entry.2)).mapM
      (fun entry : Option String × Document => entry.1.map (·, entry.2)) = some entries := by
    induction entries with
    | nil => rfl
    | cons entry entries ih => simp [List.mapM_cons, ih]
  rw [recordOf, named]

theorem entries?_brace (closes : skipSpace cs = '\x7d' :: rest) :
    entries? fuel level cs = none := by
  cases fuel with
  | zero => rfl
  | succ fuel =>
    rw [entries?, closes]
    rfl

theorem value?_brace (fuel level : Nat) (cs : List Char) :
    value? (fuel + 1) level ('\x7b' :: cs) =
      match skipSpace cs with
      | '\x7d' :: rest => some (atLevel (level + 1) (recordOf []), rest)
      | rest => (entries? fuel (level + 1) rest).bind fun read =>
        some (atLevel (level + 1) (recordOf read.1), read.2) := by
  rw [value?]
  rfl

theorem value?_record {entries : List (Option String × Document)}
    (found : entries? fuel (level + 1) cs = some (entries, rest)) (shallow : level + 1 < deepest) :
    value? (fuel + 1) level ('\x7b' :: cs) = some (recordOf entries, rest) := by
  rw [value?_brace]
  split
  · rename_i closes
    rw [entries?_brace closes] at found
    cases found
  · rw [entries?_of_skipSpace (skipSpace_idem cs), found, Option.bind_some, atLevel,
      if_neg (Nat.not_le.mpr shallow)]

theorem value?_emptyRecord (shallow : level + 1 < deepest) (rest : List Char) :
    value? (fuel + 1) level ('\x7b' :: '\x7d' :: rest) = some (.record [], rest) := by
  have step : value? (fuel + 1) level ('\x7b' :: '\x7d' :: rest) =
      some (atLevel (level + 1) (.record []), rest) := rfl
  rw [step, atLevel, if_neg (Nat.not_le.mpr shallow)]

variable {key : String} {text : List Char}

theorem entries?_named (starts : skipSpace cs = stringText key ++ ':' :: text) :
    entries? (fuel + 1) level cs = (value? fuel level text).bind fun read =>
      match skipSpace read.2 with
      | '\x7d' :: rest => some ([(some key, read.1)], rest)
      | ',' :: rest => (entries? fuel level rest).bind fun later =>
        some ((some key, read.1) :: later.1, later.2)
      | _ => none := by
  have quoted : stringText key ++ ':' :: text =
      '\x22' :: (key.toList.flatMap escape ++ '\x22' :: ':' :: text) := by
    rw [stringText, List.cons_append, List.cons_append, List.append_assoc, List.singleton_append]
  have units := stringUnits?_escapes key.toList (':' :: text)
  rw [entries?, starts, quoted]
  simp only [Option.bind_eq_bind, units, Option.bind_some, joinUnits?_units, Option.map_some,
    String.ofList_toList]
  rfl

theorem entries?_last (starts : skipSpace cs = stringText key ++ ':' :: text)
    (found : value? fuel level text = some (d, more)) (closes : skipSpace more = '\x7d' :: rest) :
    entries? (fuel + 1) level cs = some ([(some key, d)], rest) := by
  rw [entries?_named starts, found]
  simp only [Option.bind_some, closes]

theorem entries?_next {entries : List (Option String × Document)}
    (starts : skipSpace cs = stringText key ++ ':' :: text)
    (found : value? fuel level text = some (d, more)) (goesOn : skipSpace more = ',' :: next)
    (later : entries? fuel level next = some (entries, rest)) :
    entries? (fuel + 1) level cs = some ((some key, d) :: entries, rest) := by
  rw [entries?_named starts, found]
  simp only [Option.bind_some, goesOn, later]

theorem stops_prettyItems (k j : Nat) (items : List Json) (cs : List Char) :
    Stops (prettyItems k items ++ (newline j ++ cs)) := by
  rcases items with _ | ⟨item, items⟩ <;> rintro c ⟨⟩ <;> decide

theorem stops_prettyEntries (k j : Nat) (entries : List (String × Json)) (cs : List Char) :
    Stops (prettyEntries k entries ++ (newline j ++ cs)) := by
  rcases entries with _ | ⟨⟨key, value⟩, entries⟩ <;> rintro c ⟨⟩ <;> decide

theorem prettyText_list (k : Nat) (item : Json) (items : List Json) (rest : List Char) :
    prettyText k (.list (item :: items)) ++ rest =
      '[' :: (newline (k + 1) ++ (prettyText (k + 1) item ++
        (prettyItems (k + 1) items ++ (newline k ++ ']' :: rest)))) := by
  simp only [prettyText, List.append_assoc, List.cons_append, List.nil_append]

theorem prettyItems_cons (k : Nat) (item : Json) (items : List Json) (rest : List Char) :
    prettyItems k (item :: items) ++ rest =
      ',' :: (newline k ++ (prettyText k item ++ (prettyItems k items ++ rest))) := by
  simp only [prettyItems, List.append_assoc, List.cons_append]

theorem prettyText_object (k : Nat) (key : String) (value : Json)
    (entries : List (String × Json)) (rest : List Char) :
    prettyText k (.object ((key, value) :: entries)) ++ rest =
      '\x7b' :: (newline (k + 1) ++ (stringText key ++ ':' :: ' ' :: (prettyText (k + 1) value ++
        (prettyEntries (k + 1) entries ++ (newline k ++ '\x7d' :: rest))))) := by
  simp only [prettyText, List.append_assoc, List.cons_append, List.nil_append]

theorem prettyEntries_cons (k : Nat) (key : String) (value : Json)
    (entries : List (String × Json)) (rest : List Char) :
    prettyEntries k ((key, value) :: entries) ++ rest =
      ',' :: (newline k ++ (stringText key ++ ':' :: ' ' :: (prettyText k value ++
        (prettyEntries k entries ++ rest)))) := by
  simp only [prettyEntries, List.append_assoc, List.cons_append, List.nil_append]

theorem skipSpace_name (k : Nat) (key : String) (rest : List Char) :
    skipSpace (newline k ++ (stringText key ++ rest)) = stringText key ++ rest := by
  rw [skipSpace_newline]
  exact skipSpace_cons rfl _

theorem value?_space (fuel level : Nat) (cs : List Char) :
    value? fuel level (' ' :: cs) = value? fuel level cs :=
  value?_of_skipSpace (List.dropWhile_cons_of_pos rfl) fuel level

mutual

theorem value?_prettyText (json : Json) {rest : List Char} (k fuel level : Nat)
    (legible : json.Legible) (shallow : level + json.depth < deepest) (stops : Stops rest)
    (enough : (prettyText k json).length ≤ fuel) :
    value? (fuel + 1) level (prettyText k json ++ rest) = some (json.document, rest) := by
  cases json with
  | null => rfl
  | bool b => cases b <;> rfl
  | int n => exact value?_number (number?_stops stops (number?_intText legible.1 legible.2))
  | float x =>
    rw [prettyText, atomText, if_pos legible.finite]
    exact value?_number (number?_stops stops legible.reads)
  | text s => exact value?_text s rest
  | list items =>
    rcases items with _ | ⟨item, items⟩
    · exact value?_emptyList shallow rest
    · simp only [depth, depthItems] at shallow
      simp only [prettyText, List.length_append, List.length_cons, List.length_nil] at enough
      -- The bracket and the line break behind it pay for the steps to the list and to its item.
      obtain ⟨fuel, rfl⟩ : ∃ more, fuel = more + 2 := ⟨fuel - 2, by omega⟩
      have first := value?_prettyText item (k + 1) fuel (level + 1) legible.1 (by omega)
        (stops_prettyItems (k + 1) k items (']' :: rest)) (by omega)
      have whole := items?_prettyItems items (k + 1) k legible.2 (by omega) (by omega) first
      rw [← items?_of_skipSpace (skipSpace_newline (k + 1) _)] at whole
      rw [prettyText_list]
      exact value?_list whole (by omega)
  | object entries =>
    rcases entries with _ | ⟨⟨key, value⟩, entries⟩
    · exact value?_emptyRecord shallow rest
    · simp only [depth, depthEntries] at shallow
      simp only [prettyText, List.length_append, List.length_cons, List.length_nil] at enough
      obtain ⟨fuel, rfl⟩ : ∃ more, fuel = more + 2 := ⟨fuel - 2, by omega⟩
      have first := value?_prettyText value (k + 1) fuel (level + 1) legible.1 (by omega)
        (stops_prettyEntries (k + 1) k entries ('\x7d' :: rest)) (by omega)
      rw [← value?_space] at first
      have whole := entries?_prettyEntries entries (k + 1) k legible.2 (by omega) (by omega)
        (skipSpace_name (k + 1) key _) first
      rw [prettyText_object, value?_record whole (by omega), recordOf_named]
      rfl

/-- With a first item read, the others are read up to the bracket that closes them. -/
theorem items?_prettyItems (items : List Json) {fuel level : Nat} {cs rest : List Char}
    {d : Document} (k j : Nat) (legible : LegibleItems items)
    (shallow : level + depthItems items < deepest) (enough : (prettyItems k items).length ≤ fuel)
    (found : value? (fuel + 1) level cs =
      some (d, prettyItems k items ++ (newline j ++ ']' :: rest))) :
    items? (fuel + 2) level cs = some (d :: documentItems items, rest) := by
  cases items with
  | nil => exact items?_last found ((skipSpace_newline j _).trans (skipSpace_cons rfl rest))
  | cons item items =>
    simp only [depthItems] at shallow
    simp only [prettyItems, List.length_append, List.length_cons] at enough
    obtain ⟨fuel, rfl⟩ : ∃ more, fuel = more + 1 := ⟨fuel - 1, by omega⟩
    have next := value?_prettyText item k fuel level legible.1 (by omega)
      (stops_prettyItems k j items (']' :: rest)) (by omega)
    have later := items?_prettyItems items k j legible.2 (by omega) (by omega) next
    rw [← items?_of_skipSpace (skipSpace_newline k _)] at later
    rw [prettyItems_cons] at found
    exact items?_next found (skipSpace_cons rfl _) later

theorem entries?_prettyEntries (entries : List (String × Json)) {fuel level : Nat}
    {cs text rest : List Char} {key : String} {d : Document} (k j : Nat)
    (legible : LegibleEntries entries) (shallow : level + depthEntries entries < deepest)
    (enough : (prettyEntries k entries).length ≤ fuel)
    (starts : skipSpace cs = stringText key ++ ':' :: text)
    (found : value? (fuel + 1) level text =
      some (d, prettyEntries k entries ++ (newline j ++ '\x7d' :: rest))) :
    entries? (fuel + 2) level cs =
      some (((key, d) :: documentEntries entries).map fun entry => (some entry.1, entry.2),
        rest) := by
  cases entries with
  | nil =>
    exact entries?_last starts found ((skipSpace_newline j _).trans (skipSpace_cons rfl rest))
  | cons entry entries =>
    obtain ⟨name, value⟩ := entry
    simp only [depthEntries] at shallow
    simp only [prettyEntries, List.length_append, List.length_cons] at enough
    obtain ⟨fuel, rfl⟩ : ∃ more, fuel = more + 1 := ⟨fuel - 1, by omega⟩
    have next := value?_prettyText value k fuel level legible.1 (by omega)
      (stops_prettyEntries k j entries ('\x7d' :: rest)) (by omega)
    rw [← value?_space] at next
    have later := entries?_prettyEntries entries k j legible.2 (by omega) (by omega)
      (skipSpace_name k name _) next
    rw [prettyEntries_cons] at found
    exact entries?_next starts found (skipSpace_cons rfl _) later

end

theorem stops_of_blank {rest : List Char} (blank : ∀ c ∈ rest, isSpace c = true) : Stops rest := by
  intro c first
  have space := blank c (List.mem_of_mem_head? first)
  simp only [isSpace, Bool.or_eq_true, beq_iff_eq] at space
  rcases space with ((rfl | rfl) | rfl) | rfl <;> decide

theorem document?_pretty_append {json : Json} (legible : json.Legible)
    (shallow : json.depth < deepest) {tail : String}
    (blank : ∀ c ∈ tail.toList, isSpace c = true) :
    document? (json.pretty ++ tail) = some json.document := by
  have whole : (json.pretty ++ tail).toList = prettyText 0 json ++ tail.toList := by
    rw [String.toList_append, pretty, String.toList_ofList]
  have enough : (prettyText 0 json).length ≤ 2 * (prettyText 0 json ++ tail.toList).length + 1 := by
    rw [List.length_append]
    omega
  have read := value?_prettyText json 0 _ 0 legible (by omega) (stops_of_blank blank) enough
  have nothing : skipSpace tail.toList = [] := List.dropWhile_eq_nil_iff.mpr blank
  rw [document?, whole]
  simp only [read, Option.bind_eq_bind, Option.bind_some, nothing]
  rfl

theorem document?_pretty {json : Json} (legible : json.Legible) (shallow : json.depth < deepest) :
    document? json.pretty = some json.document := by
  have blank : ∀ c ∈ "".toList, isSpace c = true := List.forall_mem_nil _
  have read := document?_pretty_append legible shallow blank
  rwa [String.append_empty] at read

end Json.Reader

end LoadBench
