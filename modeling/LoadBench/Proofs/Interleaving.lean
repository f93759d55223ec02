namespace LoadBench

/-- A list takes all entries of some sequences, those of each sequence in their order. -/
inductive Interleaving {α : Type} : List (List α) → List α → Prop where
  | done {sequences : List (List α)} :
      (∀ sequence ∈ sequences, sequence = []) → Interleaving sequences []
  | next {before after : List (List α)} {x : α} {sequence rest : List α} :
      Interleaving (before ++ sequence :: after) rest →
        Interleaving (before ++ (x :: sequence) :: after) (x :: rest)

namespace Interleaving

variable {α β : Type} {sequences : List (List α)} {xs : List α}

theorem perm (h : Interleaving sequences xs) : xs.Perm sequences.flatten := by
  induction h with
  | done empty => rw [List.flatten_eq_nil_iff.mpr empty]
  | @next before after x sequence rest _ ih =>
    simp only [List.flatten_append, List.flatten_cons, List.cons_append] at ih ⊢
    exact (ih.cons x).trans List.perm_middle.symm

theorem filterMap (f : α → Option β) (h : Interleaving sequences xs) :
    Interleaving (sequences.map (List.filterMap f)) (xs.filterMap f) := by
  induction h with
  | done empty =>
    apply done
    intro sequence member
    obtain ⟨original, inside, rfl⟩ := List.mem_map.mp member
    rw [empty original inside]
    rfl
  | @next before after x sequence rest _ ih =>
    simp only [List.map_append, List.map_cons] at ih ⊢
    cases hx : f x with
    | none => rwa [List.filterMap_cons_none hx, List.filterMap_cons_none hx]
    | some y =>
      rw [List.filterMap_cons_some hx, List.filterMap_cons_some hx]
      exact next ih

theorem countP_eq (p : α → Bool) (h : Interleaving sequences xs) :
    xs.countP p = sequences.flatten.countP p :=
  h.perm.countP_eq p

end Interleaving

end LoadBench
