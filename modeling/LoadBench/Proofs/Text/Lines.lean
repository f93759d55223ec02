import LoadBench.Text.Lines
import Mathlib.Data.List.Basic

namespace LoadBench.Text

def unlines (rows : List (List Char)) : List Char := rows.flatMap (· ++ ['\n'])

def OneLine (row : List Char) : Prop := '\n' ∉ row ∧ '\r' ∉ row

theorem pieces_ne_nil (text : List Char) : pieces text ≠ [] := by
  fun_cases pieces text <;> simp

theorem pieces_cons {c : Char} (other : c ≠ '\n') {text piece : List Char} {more : List (List Char)}
    (rest : pieces text = piece :: more) : pieces (c :: text) = (c :: piece) :: more := by
  rw [pieces, rest]
  exact other

theorem pieces_eq_splitOn (text : List Char) : pieces text = text.splitOn '\n' := by
  induction text with
  | nil => rfl
  | cons c text ih =>
    rw [List.splitOn_cons_eq_if_modifyHead, ← ih]
    by_cases feed : c = '\n'
    · subst feed
      rfl
    · obtain ⟨piece, more, split⟩ := List.exists_cons_of_ne_nil (pieces_ne_nil text)
      rw [pieces_cons feed split, split, if_neg (by simpa using feed)]
      rfl

theorem pieces_append (front back : List Char) :
    pieces (front ++ '\n' :: back) = pieces front ++ pieces back := by
  simp only [pieces_eq_splitOn, List.splitOn_append_cons_self]

theorem pieces_of_not_mem {row : List Char} (single : '\n' ∉ row) : pieces row = [row] := by
  rw [pieces_eq_splitOn, List.splitOn_eq_singleton single]

theorem unixEnds_of_not_mem {text : List Char} (plain : '\r' ∉ text) : unixEnds text = text := by
  fun_induction unixEnds text with
  | case1 => exact absurd List.mem_cons_self plain
  | case2 c rest _ ih => rw [ih fun later => plain (List.mem_cons_of_mem c later)]
  | case3 => rfl

theorem unixEnds_append (front back : List Char) :
    ∃ before, unixEnds (front ++ '\n' :: back) = before ++ '\n' :: unixEnds back := by
  fun_induction unixEnds front with
  | case1 rest ih =>
    obtain ⟨before, same⟩ := ih
    exact ⟨'\n' :: before, congrArg ('\n' :: ·) same⟩
  | case2 c rest other ih =>
    obtain ⟨before, same⟩ := ih
    cases rest with
    | nil =>
      -- A carriage return at the very end of the front belongs to the line feed behind it.
      by_cases ended : c = '\r'
      · subst ended
        exact ⟨[], rfl⟩
      · refine ⟨[c], ?_⟩
        rw [List.singleton_append, unixEnds]
        · rfl
        · rintro _ rfl
          exact absurd rfl ended
    | cons d rest =>
      refine ⟨c :: before, ?_⟩
      rw [List.cons_append, unixEnds]
      · rw [same]
        rfl
      · intro later first same
        cases same
        exact other _ first rfl
  | case3 => exact ⟨[], rfl⟩

theorem pieces_unlines {rows : List (List Char)} (single : ∀ row ∈ rows, '\n' ∉ row) :
    pieces (unlines rows) = rows ++ [[]] := by
  induction rows with
  | nil => rfl
  | cons row rows ih =>
    obtain ⟨first, rest⟩ := List.forall_mem_cons.mp single
    have split : unlines (row :: rows) = row ++ '\n' :: unlines rows := by
      rw [unlines, List.flatMap_cons, List.append_assoc]
      rfl
    rw [split, pieces_append, pieces_of_not_mem first, ih rest]
    rfl

theorem unixEnds_unlines {rows : List (List Char)} (plain : ∀ row ∈ rows, '\r' ∉ row) :
    unixEnds (unlines rows) = unlines rows := by
  refine unixEnds_of_not_mem fun inside => ?_
  obtain ⟨row, member, within⟩ := List.mem_flatMap.mp inside
  rcases List.mem_append.mp within with early | last
  · exact plain row member early
  · exact absurd (List.mem_singleton.mp last) (by decide)

theorem lines_unlines {rows : List (List Char)} (rowsPlain : ∀ row ∈ rows, OneLine row) :
    lines (unlines rows) = rows := by
  have whole := unixEnds_unlines fun row member => (rowsPlain row member).2
  have cut := pieces_unlines fun row member => (rowsPlain row member).1
  simp only [lines, whole, cut, List.getLast?_concat, if_pos, List.dropLast_concat]

theorem lines_append_unlines (front : List Char) {rows : List (List Char)}
    (rowsPlain : ∀ row ∈ rows, OneLine row) :
    ∃ before, lines (front ++ '\n' :: unlines rows) = before ++ rows := by
  obtain ⟨start, ends⟩ := unixEnds_append front (unlines rows)
  rw [unixEnds_unlines fun row member => (rowsPlain row member).2] at ends
  have cut := pieces_unlines fun row member => (rowsPlain row member).1
  refine ⟨pieces start, ?_⟩
  simp only [lines, ends, pieces_append, cut, ← List.append_assoc, List.getLast?_concat, if_pos,
    List.dropLast_concat]

theorem joinLines_cons (row : List Char) {rows : List (List Char)} (nonempty : rows ≠ []) :
    joinLines (row :: rows) = row ++ '\n' :: joinLines rows := by
  have join : ['\n'].intercalate (row :: rows) = row ++ ['\n'] ++ ['\n'].intercalate rows :=
    List.intercalate_cons_of_ne_nil nonempty
  rwa [List.append_assoc] at join

theorem unlines_eq_joinLines {rows : List (List Char)} (nonempty : rows ≠ []) :
    unlines rows = joinLines rows ++ ['\n'] := by
  induction rows with
  | nil => exact absurd rfl nonempty
  | cons row rows ih =>
    rw [unlines, List.flatMap_cons, ← unlines]
    cases rows with
    | nil => simp [unlines, joinLines]
    | cons next rows =>
      rw [ih (List.cons_ne_nil _ _), joinLines_cons row (List.cons_ne_nil _ _)]
      simp only [List.append_assoc]
      rfl

/-- A text's last lines, as many as are written at its end, are those, but for their last end. -/
theorem tailLines_append_unlines (front : List Char) {rows : List (List Char)}
    (rowsPlain : ∀ row ∈ rows, OneLine row) (nonempty : rows ≠ []) :
    tailLines rows.length (String.ofList (front ++ '\n' :: unlines rows)) =
      String.ofList (unlines rows).dropLast := by
  obtain ⟨before, split⟩ := lines_append_unlines front rowsPlain
  simp only [tailLines, String.toList_ofList, split, List.length_append, Nat.add_sub_cancel,
    List.drop_left]
  rw [unlines_eq_joinLines nonempty, List.dropLast_concat]

end LoadBench.Text
