import LoadBench.Proofs.Run.Summary
import LoadBench.Proofs.Text.Lines
import LoadBench.Proofs.Text.Numeral

namespace LoadBench

open Text

structure IsCell (text : String) : Prop where
  nonempty : text ≠ ""
  plain : ∀ c ∈ text.toList, c ≠ ',' ∧ c ≠ '\n' ∧ c ≠ '\r'

theorem isCell_iff (text : String) : IsCell text ↔
    text ≠ "" ∧ (text.toList.all fun c => c != ',' && (c != '\n' && c != '\r')) = true := by
  simp only [List.all_eq_true, Bool.and_eq_true, bne_iff_ne]
  exact ⟨fun h => ⟨h.nonempty, h.plain⟩, fun h => ⟨h.1, h.2⟩⟩

instance (text : String) : Decidable (IsCell text) := decidable_of_iff _ (isCell_iff text).symm

namespace Text.Numeral

theorem plain_of_isDigit {c : Char} (digit : isDigit c = true) : c ≠ ',' ∧ c ≠ '\n' ∧ c ≠ '\r' := by
  refine ⟨?_, ?_, ?_⟩ <;> rintro rfl <;> cases digit

theorem toString_isCell (n : Nat) : IsCell (toString n) where
  nonempty empty := by
    have nothing := congrArg String.toList empty
    rw [toString, String.toList_ofList] at nothing
    exact digits_ne_nil n nothing
  plain c member := by
    rw [toString, String.toList_ofList] at member
    exact plain_of_isDigit (isDigit_of_mem_digits member)

theorem toString_ne_dash (n : Nat) : toString n ≠ "-" := by
  intro same
  have whole := congrArg String.toList same
  rw [toString, String.toList_ofList] at whole
  have plain : '-' ∉ digits n := not_mem_digits rfl n
  rw [whole] at plain
  exact plain (List.mem_singleton_self '-')

end Text.Numeral

namespace Decimal

theorem plain_of_mem_hundredthsText {n : Nat} {c : Char} (member : c ∈ hundredthsText n) :
    c ≠ ',' ∧ c ≠ '\n' ∧ c ≠ '\r' := by
  simp only [hundredthsText, padded, List.mem_append, List.mem_cons, List.mem_replicate] at member
  rcases member with whole | rfl | ⟨-, rfl⟩ | rest
  · exact Numeral.plain_of_isDigit (Numeral.isDigit_of_mem_digits whole)
  · decide
  · decide
  · exact Numeral.plain_of_isDigit (Numeral.isDigit_of_mem_digits rest)

theorem point_mem_hundredthsText (n : Nat) : '.' ∈ hundredthsText n := by
  rw [hundredthsText]
  exact List.mem_append_right _ List.mem_cons_self

theorem twoPlaces_cases (x : Binary64) :
    twoPlaces x = "NaN" ∨ ∃ sign ∈ [[], ['-']], twoPlaces x = String.ofList (sign ++ ['i', 'n', 'f']) ∨
      ∃ n, twoPlaces x = String.ofList (sign ++ hundredthsText n) := by
  rw [twoPlaces]
  cases x.isNaN with
  | true => exact .inl rfl
  | false =>
    refine .inr ⟨if x.isNegative then ['-'] else [], ?_, ?_⟩
    · cases x.isNegative <;> simp
    · cases x.isInfinite with
      | true => exact .inl rfl
      | false => exact .inr ⟨_, rfl⟩

theorem twoPlaces_isCell (x : Binary64) : IsCell (twoPlaces x) ∧ twoPlaces x ≠ "-" := by
  rcases twoPlaces_cases x with name | ⟨sign, signs, name | ⟨n, digits⟩⟩
  · rw [name]
    exact ⟨by decide, by decide⟩
  · rw [name]
    simp only [List.mem_cons, List.not_mem_nil, or_false] at signs
    rcases signs with rfl | rfl
    all_goals exact ⟨by decide, by decide⟩
  · have point : '.' ∈ (twoPlaces x).toList := by
      rw [digits, String.toList_ofList]
      exact List.mem_append_right _ (point_mem_hundredthsText n)
    refine ⟨⟨?_, fun c member => ?_⟩, ?_⟩
    · intro empty
      rw [empty] at point
      cases point
    · rw [digits, String.toList_ofList] at member
      rcases List.mem_append.mp member with front | rest
      · have dash : c = '-' := by
          simp only [List.mem_cons, List.not_mem_nil, or_false] at signs
          rcases signs with rfl | rfl
          · cases front
          · exact List.mem_singleton.mp front
        subst dash
        decide
      · exact plain_of_mem_hundredthsText rest
    · intro dash
      rw [dash] at point
      cases List.mem_singleton.mp point

end Decimal

def joinCells (row : List String) : List Char := [','].intercalate (row.map String.toList)

def cellsOf (line : List Char) : List String := (line.splitOn ',').map String.ofList

def column (place : Nat) (text : String) : List String :=
  (lines text.toList).map fun line => (cellsOf line).getD place ""

/-- A text of lines, each with its end behind it, that have as many cells each, none of them empty. -/
structure IsGrid (height width : Nat) (text : String) : Prop where
  ended : text.toList = unlines (lines text.toList)
  height : (lines text.toList).length = height
  cells : ∀ line ∈ lines text.toList, (cellsOf line).length = width ∧ "" ∉ cellsOf line

theorem cellsOf_joinCells {row : List String} (cells : ∀ cell ∈ row, IsCell cell) (nonempty : row ≠ []) :
    cellsOf (joinCells row) = row := by
  have apart : ∀ cell ∈ row.map String.toList, ',' ∉ cell := by
    intro cell member
    obtain ⟨text, inside, rfl⟩ := List.mem_map.mp member
    exact fun comma => ((cells text inside).plain ',' comma).1 rfl
  have nonempty : row.map String.toList ≠ [] := List.map_eq_nil_iff.not.mpr nonempty
  rw [cellsOf, joinCells, List.splitOn_intercalate ',' apart nonempty, List.map_map]
  exact (List.map_congr_left fun text _ => String.ofList_toList).trans (List.map_id row)

theorem joinCells_cons (cell next : String) (rest : List String) :
    joinCells (cell :: next :: rest) = cell.toList ++ ',' :: joinCells (next :: rest) := by
  simp [joinCells, List.intercalate]

theorem mem_joinCells {row : List String} {c : Char} (member : c ∈ joinCells row) :
    c = ',' ∨ ∃ cell ∈ row, c ∈ cell.toList := by
  induction row with
  | nil => cases member
  | cons cell row ih =>
    cases row with
    | nil =>
      refine .inr ⟨cell, List.mem_singleton_self cell, ?_⟩
      simpa [joinCells, List.intercalate] using member
    | cons next rest =>
      rw [joinCells_cons, List.mem_append, List.mem_cons] at member
      rcases member with here | comma | later
      · exact .inr ⟨cell, List.mem_cons_self, here⟩
      · exact .inl comma
      · exact (ih later).imp_right fun ⟨other, inside, within⟩ =>
          ⟨other, List.mem_cons_of_mem cell inside, within⟩

theorem joinCells_oneLine {row : List String} (cells : ∀ cell ∈ row, IsCell cell) :
    OneLine (joinCells row) := by
  constructor
  all_goals
    intro inside
    rcases mem_joinCells inside with comma | ⟨cell, member, within⟩
    · cases comma
    · have plain := (cells cell member).plain _ within
      simp at plain

namespace RunSummary

def cells (s : RunSummary) : List (List String) :=
  ["metric", "search", "insert"] ::
    rows.map fun row => [row.1, cell row.2 s.search, cell row.2 s.insert]

theorem toList_rowText (s : RunSummary) (row : String × (Statistics → String)) :
    (s.rowText row).toList =
      joinCells [row.1, cell row.2 s.search, cell row.2 s.insert] ++ ['\n'] := by
  simp [rowText, joinCells, List.intercalate]

theorem toList_head : "metric,search,insert\n".toList =
    joinCells ["metric", "search", "insert"] ++ ['\n'] := by
  simp [joinCells, List.intercalate]

theorem toList_table (s : RunSummary) : s.table.toList = unlines (s.cells.map joinCells) := by
  have split : s.table = "metric,search,insert\n" ++ String.join (rows.map s.rowText) := rfl
  rw [split, String.toList_append, toList_head, String.toList_join, cells, unlines, List.map_cons,
    List.flatMap_cons, List.map_map, List.flatMap_map, List.flatMap_map]
  simp only [toList_rowText, Function.comp_apply]

theorem rows_isCell : ∀ row ∈ rows, IsCell row.1 ∧ ∀ t, IsCell (row.2 t) ∧ row.2 t ≠ "-" := by
  have count (t : Statistics) : IsCell (Numeral.toString t.count) ∧ Numeral.toString t.count ≠ "-" :=
    ⟨Numeral.toString_isCell t.count, Numeral.toString_ne_dash t.count⟩
  have number (x : Statistics → Binary64) (t : Statistics) := Decimal.twoPlaces_isCell (x t)
  simp only [rows, List.forall_mem_cons]
  exact ⟨⟨by decide, count⟩, ⟨by decide, number (·.rate)⟩, ⟨by decide, number (·.average)⟩,
    ⟨by decide, number (·.p50)⟩, ⟨by decide, number (·.p95)⟩, ⟨by decide, number (·.p99)⟩,
    ⟨by decide, number (·.least)⟩, ⟨by decide, number (·.greatest)⟩, List.forall_mem_nil _⟩

theorem cell_isCell {row : String × (Statistics → String)} (member : row ∈ rows)
    (s : Option Statistics) : IsCell (cell row.2 s) := by
  cases s with
  | none => exact (by decide : IsCell "-")
  | some t => exact ((rows_isCell row member).2 t).1

theorem cells_isCell (s : RunSummary) :
    ∀ row ∈ s.cells, row.length = 3 ∧ ∀ cell ∈ row, IsCell cell := by
  refine List.forall_mem_cons.mpr ⟨⟨rfl, by decide⟩, fun line member => ?_⟩
  obtain ⟨row, inside, rfl⟩ := List.mem_map.mp member
  refine ⟨rfl, ?_⟩
  simp only [List.forall_mem_cons]
  exact ⟨(rows_isCell row inside).1, cell_isCell inside s.search, cell_isCell inside s.insert,
    List.forall_mem_nil _⟩

theorem length_cells (s : RunSummary) : s.cells.length = 9 := rfl

theorem cells_oneLine (s : RunSummary) : ∀ line ∈ s.cells.map joinCells, OneLine line := by
  intro line member
  obtain ⟨row, inside, rfl⟩ := List.mem_map.mp member
  exact joinCells_oneLine (s.cells_isCell row inside).2

theorem lines_table (s : RunSummary) : lines s.table.toList = s.cells.map joinCells := by
  rw [toList_table, lines_unlines s.cells_oneLine]

theorem cellsOf_of_mem_cells {s : RunSummary} {row : List String} (member : row ∈ s.cells) :
    cellsOf (joinCells row) = row := by
  obtain ⟨length, cells⟩ := s.cells_isCell row member
  refine cellsOf_joinCells cells ?_
  rintro rfl
  cases length

theorem column_table (place : Nat) (s : RunSummary) :
    column place s.table = s.cells.map (·.getD place "") := by
  rw [column, lines_table, List.map_map]
  refine List.map_congr_left fun row member => ?_
  rw [Function.comp_apply, cellsOf_of_mem_cells member]

theorem table_isGrid (s : RunSummary) : IsGrid 9 3 s.table where
  ended := by rw [lines_table, toList_table]
  height := by rw [lines_table, List.length_map, length_cells]
  cells line member := by
    rw [lines_table] at member
    obtain ⟨row, inside, rfl⟩ := List.mem_map.mp member
    obtain ⟨length, cells⟩ := s.cells_isCell row inside
    rw [cellsOf_of_mem_cells inside]
    exact ⟨length, fun empty => (cells "" empty).nonempty rfl⟩

end RunSummary

def OperationKind.place : OperationKind → Nat
  | .search => 1
  | .insert => 2

namespace RunSummary

theorem column_kind (kind : OperationKind) (s : RunSummary) :
    column kind.place s.table =
      Choice.name kind :: rows.map fun row => cell row.2 (s.statistics kind) := by
  rw [column_table]
  cases kind <;> rfl

theorem tailLines_table (s : RunSummary) (json : String) :
    tailLines 10 (json ++ "\n\nSummary\n" ++ s.table) =
      "Summary\n" ++ String.ofList s.table.toList.dropLast := by
  have head : OneLine "Summary".toList := ⟨by decide, by decide⟩
  have ends := tailLines_append_unlines (json.toList ++ ['\n'])
    (List.forall_mem_cons.mpr ⟨head, s.cells_oneLine⟩) (List.cons_ne_nil _ _)
  have height : ("Summary".toList :: s.cells.map joinCells).length = 10 := by
    rw [List.length_cons, List.length_map, length_cells]
  have text : unlines ("Summary".toList :: s.cells.map joinCells) =
      "Summary\n".toList ++ s.table.toList := by
    rw [toList_table, unlines, List.flatMap_cons]
    rfl
  have nonempty : s.table.toList ≠ [] := by
    intro empty
    have height := s.table_isGrid.height
    rw [empty] at height
    cases height
  rw [height, text] at ends
  have whole : json ++ "\n\nSummary\n" ++ s.table =
      String.ofList (json.toList ++ ['\n'] ++ '\n' :: ("Summary\n".toList ++ s.table.toList)) := by
    apply String.toList_injective
    simp
  rw [whole, ends, List.dropLast_append_of_ne_nil nonempty, String.ofList_append, String.ofList_toList]

structure Tabulated (s : RunSummary) : Prop where
  grid : IsGrid 9 3 s.table
  names : column 0 s.table =
    ["metric", "count", "qps", "avg_ms", "p50_ms", "p95_ms", "p99_ms", "min_ms", "max_ms"]
  heads : ∀ kind : OperationKind, (column kind.place s.table).head? = some (Choice.name kind)
  own : ∀ (kind : OperationKind) (t : RunSummary), t.statistics kind = s.statistics kind →
    column kind.place t.table = column kind.place s.table
  empty : ∀ kind, s.statistics kind = none →
    (column kind.place s.table).tail = List.replicate 8 "-"
  filled : ∀ kind, s.statistics kind ≠ none → "-" ∉ (column kind.place s.table).tail
  kept : ∀ json : String, tailLines 10 (json ++ "\n\nSummary\n" ++ s.table) =
    "Summary\n" ++ String.ofList s.table.toList.dropLast
  recorded : ∀ name c files ch after later, recordRun c files ch = some (.ok s, after, later) →
    ∃ result, runWithin name c files ch = some (result, after, later) ∧
      result.stdoutTail = "Summary\n" ++ String.ofList s.table.toList.dropLast

/-- A table has a line for each statistic and a column for each kind, which is dashes exactly if the
kind has none; and the output that is kept of a run is its table, whatever JSON comes before it. -/
theorem tabulated (s : RunSummary) : s.Tabulated where
  grid := s.table_isGrid
  names := by rw [column_table]; rfl
  heads kind := by rw [column_kind, List.head?_cons]
  own kind t same := by rw [column_kind, column_kind, same]
  empty kind none := by rw [column_kind, none]; rfl
  filled kind some := by
    obtain ⟨t, found⟩ := Option.ne_none_iff_exists'.mp some
    rw [column_kind, found, List.tail_cons]
    intro dash
    obtain ⟨row, member, same⟩ := List.mem_map.mp dash
    exact ((rows_isCell row member).2 t).2 same
  kept := s.tailLines_table
  recorded name c files ch after later run := by
    refine ⟨.ofSummary name c s, ?_, s.tailLines_table s.pretty⟩
    rw [runWithin, run]
    rfl

end RunSummary

end LoadBench
