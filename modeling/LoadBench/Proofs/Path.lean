import LoadBench.Path
import Mathlib.Data.List.Basic

namespace LoadBench.Path

theorem isAbsolute_iff (path : String) :
    isAbsolute path = true ↔ path.toList.head? = some '/' := by
  have slash : "/".toList = ['/'] := by decide
  rw [isAbsolute, String.startsWith_string_iff, slash]
  cases path.toList <;> simp [List.cons_prefix_iff, eq_comm]

theorem endsWith_slash_iff (path : String) :
    path.endsWith "/" = true ↔ path.toList.getLast? = some '/' := by
  have slash : "/".toList = ['/'] := by decide
  rw [String.endsWith_eq_endsWith_toSlice, String.Slice.endsWith_string_iff, String.copy_toSlice,
    slash, List.getLast?_eq_some_iff]
  exact exists_congr fun _ => eq_comm

/-- A path that a name can be put behind, with a slash between them. -/
structure IsOpen (path : String) : Prop where
  nonempty : path ≠ ""
  unended : path.endsWith "/" = false

structure IsEntry (name : String) : Prop where
  nonempty : name ≠ ""
  single : '/' ∉ name.toList

variable {base name : String}

theorem IsEntry.relative (entry : IsEntry name) : isAbsolute name = false := by
  rw [Bool.eq_false_iff, Ne, isAbsolute_iff]
  intro first
  exact entry.single (List.mem_of_head? first)

theorem IsEntry.names (entry : IsEntry name) : names name = [name] := by
  rw [Path.names, List.splitOn_eq_singleton entry.single, List.map_singleton, String.ofList_toList]

theorem join_isOpen (folder : IsOpen base) (entry : IsEntry name) :
    join base name = base ++ "/" ++ name := by
  have further : ¬ (base = "" ∨ base.endsWith "/" = true) := by
    rw [folder.unended]
    exact not_or.mpr ⟨folder.nonempty, Bool.false_ne_true⟩
  rw [join, if_neg (Bool.eq_false_iff.mp entry.relative), if_neg further]

theorem toList_slash (base name : String) :
    (base ++ "/" ++ name).toList = base.toList ++ '/' :: name.toList := by
  rw [String.toList_append, String.toList_append, List.append_assoc]
  rfl

theorem names_join (folder : IsOpen base) (entry : IsEntry name) :
    names (join base name) = names base ++ [name] := by
  rw [join_isOpen folder entry, Path.names, toList_slash, List.splitOn_append_cons_self,
    List.map_append]
  exact congrArg (names base ++ ·) entry.names

theorem toList_join (base : String) (entry : IsEntry name) :
    ∃ gap, (join base name).toList = base.toList ++ (gap ++ name.toList) ∧
      (base = "" → gap = []) := by
  rw [join, if_neg (Bool.eq_false_iff.mp entry.relative)]
  split
  · exact ⟨[], String.toList_append, fun _ => rfl⟩
  · rename_i further
    exact ⟨['/'], toList_slash base name, fun empty => absurd (.inl empty) further⟩

theorem isOpen_join (base : String) (entry : IsEntry name) : IsOpen (join base name) := by
  obtain ⟨gap, split, -⟩ := toList_join base entry
  rw [← List.append_assoc] at split
  have nonempty : name.toList ≠ [] := fun empty => entry.nonempty (String.toList_eq_nil_iff.mp empty)
  constructor
  · intro empty
    rw [empty] at split
    exact nonempty (List.append_eq_nil_iff.mp split.symm).2
  · rw [Bool.eq_false_iff, Ne, endsWith_slash_iff, split, List.getLast?_append_of_ne_nil _ nonempty]
    intro last
    exact entry.single (List.mem_of_getLast? last)

theorem head?_join (base : String) (entry : IsEntry name) :
    (join base name).toList.head? = base.toList.head?.or name.toList.head? := by
  obtain ⟨gap, split, close⟩ := toList_join base entry
  rw [split, List.head?_append]
  cases front : base.toList with
  | nil => rw [close (String.toList_eq_nil_iff.mp front), List.nil_append]
  | cons c rest => rfl

theorem trimEnd_suffix (fuel : Nat) (reversed : List Char) :
    trimEnd fuel reversed <:+ reversed := by
  induction fuel generalizing reversed with
  | zero => exact List.suffix_rfl
  | succ fuel ih =>
    unfold trimEnd
    split
    · exact List.suffix_rfl
    · dsimp only
      split
      · exact (ih _).trans (List.drop_suffix _ reversed)
      · exact List.suffix_rfl

theorem parent?_prefix {path parent : String} (found : parent? path = some parent) :
    parent.toList <+: path.toList := by
  rw [parent?] at found
  generalize headLength path.toList = head at found
  have trimmed := trimEnd_suffix (path.toList.drop head).reverse.length
    (path.toList.drop head).reverse
  dsimp only at found
  generalize trimEnd _ (path.toList.drop head).reverse = body at found trimmed
  cases body with
  | nil =>
    dsimp only at found
    split at found
    · cases found
      exact List.nil_prefix
    · cases found
  | cons c rest =>
    cases found
    have inside : trimEnd ((c :: rest).drop (lastName (c :: rest)).2).length
        ((c :: rest).drop (lastName (c :: rest)).2) <:+ (path.toList.drop head).reverse :=
      ((trimEnd_suffix _ _).trans (List.drop_suffix _ _)).trans trimmed
    have stretch := List.reverse_prefix.mpr inside
    rw [List.reverse_reverse] at stretch
    have whole := (List.prefix_append_right_inj (path.toList.take head)).mpr stretch
    rw [List.take_append_drop] at whole
    rw [String.toList_ofList]
    exact whole

end LoadBench.Path
