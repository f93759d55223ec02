import LoadBench.Proofs.Text.Lines

namespace LoadBench.Text

theorem joinLines_pieces (text : List Char) : joinLines (pieces text) = text := by
  rw [pieces_eq_splitOn]
  exact List.intercalate_splitOn '\n'

theorem not_mem_pieces (text : List Char) : ∀ piece ∈ pieces text, '\n' ∉ piece := by
  induction text with
  | nil => simp [pieces]
  | cons c text ih =>
    by_cases feed : c = '\n'
    · subst feed
      exact List.forall_mem_cons.mpr ⟨List.not_mem_nil, ih⟩
    · obtain ⟨piece, more, split⟩ := List.exists_cons_of_ne_nil (pieces_ne_nil text)
      rw [split, List.forall_mem_cons] at ih
      rw [pieces_cons feed split, List.forall_mem_cons]
      exact ⟨List.not_mem_cons_of_ne_of_not_mem (Ne.symm feed) ih.1, ih.2⟩

theorem joinLines_append {front back : List (List Char)} (first : front ≠ []) (last : back ≠ []) :
    joinLines (front ++ back) = joinLines front ++ '\n' :: joinLines back := by
  induction front with
  | nil => exact absurd rfl first
  | cons row front ih =>
    cases front with
    | nil =>
      rw [List.singleton_append, joinLines_cons row last]
      simp [joinLines]
    | cons next front =>
      rw [List.cons_append, joinLines_cons row (by simp), ih (List.cons_ne_nil _ _),
        joinLines_cons row (List.cons_ne_nil _ _), List.append_assoc]
      rfl

theorem count_joinLines {rows : List (List Char)} (single : ∀ row ∈ rows, '\n' ∉ row) :
    (joinLines rows).count '\n' = rows.length - 1 := by
  induction rows with
  | nil => rfl
  | cons row rows ih =>
    obtain ⟨first, rest⟩ := List.forall_mem_cons.mp single
    have nothing : row.count '\n' = 0 := List.count_eq_zero.mpr first
    cases rows with
    | nil => simpa [joinLines] using nothing
    | cons next rows =>
      rw [joinLines_cons row (List.cons_ne_nil _ _), List.count_append, List.count_cons_self,
        ih rest, nothing]
      simp

theorem length_pieces (text : List Char) : (pieces text).length = text.count '\n' + 1 := by
  have positive := List.length_pos_iff.mpr (pieces_ne_nil text)
  have count := count_joinLines (not_mem_pieces text)
  rw [joinLines_pieces] at count
  omega

def Closed (text : List Char) : Prop := text = [] ∨ text.getLast? = some '\n'

instance (text : List Char) : Decidable (Closed text) :=
  inferInstanceAs (Decidable (text = [] ∨ text.getLast? = some '\n'))

def finalFeed (text : List Char) : List Char :=
  if text.getLast? = some '\n' then ['\n'] else []

theorem getLast?_pieces_iff (text : List Char) : (pieces text).getLast? = some [] ↔ Closed text := by
  constructor
  · intro last
    have whole := joinLines_pieces text
    obtain ⟨front, split⟩ := List.getLast?_eq_some_iff.mp last
    rw [split] at whole
    cases front with
    | nil => exact .inl whole.symm
    | cons row front =>
      rw [joinLines_append (List.cons_ne_nil _ _) (List.cons_ne_nil _ _)] at whole
      right
      rw [← whole]
      exact List.getLast?_concat
  · rintro (rfl | feed)
    · rfl
    · obtain ⟨front, rfl⟩ := List.getLast?_eq_some_iff.mp feed
      rw [pieces_append]
      exact List.getLast?_concat

theorem lines_eq (text : List Char) : lines text =
    if Closed (unixEnds text) then (pieces (unixEnds text)).dropLast
    else pieces (unixEnds text) := by
  simp only [lines, getLast?_pieces_iff]

theorem length_lines (text : List Char) :
    (lines text).length =
      (unixEnds text).count '\n' + if Closed (unixEnds text) then 0 else 1 := by
  rw [lines_eq]
  split
  · rw [List.length_dropLast, length_pieces]
    rfl
  · exact length_pieces _

theorem not_mem_lines (text : List Char) : ∀ row ∈ lines text, '\n' ∉ row := by
  intro row member
  refine not_mem_pieces (unixEnds text) row ?_
  rw [lines_eq] at member
  split at member
  · exact List.dropLast_subset _ member
  · exact member

theorem joinLines_lines (text : List Char) :
    unixEnds text = joinLines (lines text) ++ finalFeed (unixEnds text) := by
  have whole := joinLines_pieces (unixEnds text)
  rw [lines_eq]
  split
  case isTrue closed =>
    have last := (getLast?_pieces_iff _).mpr closed
    obtain ⟨front, split⟩ := List.getLast?_eq_some_iff.mp last
    rw [split] at whole
    rw [split, List.dropLast_concat]
    cases front with
    | nil =>
      rw [← whole]
      rfl
    | cons row front =>
      rw [joinLines_append (List.cons_ne_nil _ _) (List.cons_ne_nil _ _)] at whole
      rw [← whole]
      simp [finalFeed, joinLines]
  case isFalse more =>
    have nothing : finalFeed (unixEnds text) = [] := if_neg (not_or.mp more).2
    rw [nothing, List.append_nil, whole]

theorem joinLines_drop (rows : List (List Char)) {n : Nat} (positive : 0 < n) :
    ∃ before, joinLines rows = before ++ joinLines (rows.drop (rows.length - n)) ∧
      Closed before ∧ (rows.length ≤ n → before = []) := by
  by_cases few : rows.length ≤ n
  · have nothing : rows.length - n = 0 := by omega
    rw [nothing, List.drop_zero]
    exact ⟨[], rfl, .inl rfl, fun _ => rfl⟩
  · have first : rows.take (rows.length - n) ≠ [] := by
      rw [← List.length_pos_iff, List.length_take]
      omega
    have last : rows.drop (rows.length - n) ≠ [] := by
      rw [← List.length_pos_iff, List.length_drop]
      omega
    have join := joinLines_append first last
    rw [List.take_append_drop] at join
    refine ⟨joinLines (rows.take (rows.length - n)) ++ ['\n'], ?_, .inr List.getLast?_concat,
      fun le => absurd le few⟩
    rw [join, List.append_assoc]
    rfl

theorem count_unixEnds (text : List Char) : (unixEnds text).count '\n' = text.count '\n' := by
  fun_induction unixEnds text with
  | case1 rest ih => simp [ih]
  | case2 c rest _ ih => simp only [List.count_cons, ih]
  | case3 => rfl

/-- `kept` is the end of a text from the start of a line on, `n` lines of it or all. -/
structure IsTail (n : Nat) (text kept : List Char) : Prop where
  suffix : ∃ before, unixEnds text = before ++ kept ++ finalFeed (unixEnds text) ∧
    Closed before ∧ ((lines text).length ≤ n → before = [])
  feeds : kept.count '\n' = min n (lines text).length - 1
  atMost : (lines kept).length ≤ n

theorem toList_tailLines (n : Nat) (text : String) : (tailLines n text).toList =
    joinLines ((lines text.toList).drop ((lines text.toList).length - n)) :=
  String.toList_ofList

theorem isTail_tailLines {n : Nat} (positive : 0 < n) (text : String) :
    IsTail n text.toList (tailLines n text).toList := by
  rw [toList_tailLines]
  have single : ∀ row ∈ (lines text.toList).drop ((lines text.toList).length - n), '\n' ∉ row :=
    fun row member => not_mem_lines _ row (List.mem_of_mem_drop member)
  have feeds := count_joinLines single
  rw [List.length_drop] at feeds
  constructor
  · obtain ⟨before, join, closed, dropped⟩ := joinLines_drop (lines text.toList) positive
    refine ⟨before, ?_, closed, dropped⟩
    rw [← join]
    exact joinLines_lines text.toList
  · omega
  · rw [length_lines, count_unixEnds, feeds]
    split <;> omega

/-- The last lines of a text are a suffix of it that starts where a line starts and ends before the
line feed at the end, if one is there. There are as many as asked for, or as there are. -/
theorem tailLines_suffix (text : String) :
    tailLines 0 text = "" ∧
    (lines text.toList).length = (unixEnds text.toList).count '\n' +
      (if Closed (unixEnds text.toList) then 0 else 1) ∧
    ∀ n, 0 < n → IsTail n text.toList (tailLines n text).toList := by
  refine ⟨?_, length_lines text.toList, fun n positive => isTail_tailLines positive text⟩
  rw [← String.toList_inj, toList_tailLines, Nat.sub_zero, List.drop_length]
  rfl

theorem tailLines_suffix_blankEnds :
    tailLines 2 "a\r\nb\r\r\n\n" = "b\r\n" ∧
      IsTail 2 "a\r\nb\r\r\n\n".toList (tailLines 2 "a\r\nb\r\r\n\n").toList :=
  ⟨by decide +kernel, (tailLines_suffix _).2.2 2 (by decide)⟩

end LoadBench.Text
