import LoadBench.Http.Url
import Mathlib.Data.List.DropRight

namespace LoadBench.Http.Url

theorem isSlash_iff {c : Char} : isSlash c = true ↔ c = '/' := beq_iff_eq

theorem trimEnd_eq (cs : List Char) : trimEnd cs = cs.rdropWhile isSlash := rfl

structure IsRoot (root url : String) : Prop where
  slashes : ∃ n, url.toList = root.toList ++ List.replicate n '/'
  bare : root.toList.getLast? ≠ some '/'

def root (url : String) : String := String.ofList (trimEnd url.toList)

theorem root_isRoot (url : String) : IsRoot (root url) url := by
  have list : (root url).toList = url.toList.rdropWhile isSlash := by
    rw [root, String.toList_ofList, trimEnd_eq]
  constructor
  · have tail : ∃ n, url.toList.rtakeWhile isSlash = List.replicate n '/' := by
      refine ⟨_, List.eq_replicate_iff.mpr ⟨rfl, fun c member => ?_⟩⟩
      exact isSlash_iff.mp (List.mem_rtakeWhile_imp member)
    obtain ⟨n, tail⟩ := tail
    refine ⟨n, ?_⟩
    rw [list, ← tail, List.rdropWhile_append_rtakeWhile]
  · rw [list]
    intro last
    obtain ⟨kept, same⟩ := List.getLast?_eq_some_iff.mp last
    have nonempty : url.toList.rdropWhile isSlash ≠ [] := by simp [same]
    have other := List.rdropWhile_last_not isSlash url.toList nonempty
    simp [same, isSlash] at other

theorem join_eq (base : String) {path : String} {c : Char} {rest : List Char}
    (starts : path.toList = '/' :: c :: rest) (bare : isSlash c = false) :
    join base path = root base ++ path := by
  have trimmed : trimStart path.toList = c :: rest := by
    simp [trimStart, starts, List.dropWhile, bare, isSlash_iff.mpr]
  rw [join, trimmed]
  apply String.toList_injective
  rw [String.toList_append, String.toList_ofList, root, String.toList_ofList, starts]

theorem trimEnd_reverse (cs : List Char) : trimEnd cs = (trimStart cs.reverse).reverse := rfl

theorem trimStart_cons (c : Char) (cs : List Char) :
    trimStart (c :: cs) = if isSlash c then trimStart cs else c :: cs :=
  List.dropWhile_cons

theorem trimStart_append (front back : List Char) : trimStart (front ++ back) =
    if trimStart front = [] then trimStart back else trimStart front ++ back := by
  rw [trimStart, List.dropWhile_append, ← trimStart]
  cases trimStart front <;> rfl

theorem trimEnd_append (front back : List Char) : trimEnd (front ++ back) =
    if trimEnd back = [] then trimEnd front else front ++ trimEnd back := by
  simp only [trimEnd_reverse, List.reverse_append, trimStart_append, List.reverse_eq_nil_iff]
  split <;> simp

theorem trimEnd_cons (c : Char) (cs : List Char) : trimEnd (c :: cs) =
    if trimEnd cs = [] then trimEnd [c] else c :: trimEnd cs :=
  trimEnd_append [c] cs

theorem trimStart_slashes (n : Nat) : trimStart (List.replicate n '/') = [] := by
  simp [trimStart, isSlash]

theorem trimEnd_slashes (n : Nat) : trimEnd (List.replicate n '/') = [] := by
  rw [trimEnd_reverse, List.reverse_replicate, trimStart_slashes]
  rfl

theorem trimStart_trimStart (cs : List Char) : trimStart (trimStart cs) = trimStart cs :=
  List.dropWhile_idempotent isSlash cs

theorem trimEnd_trimEnd (cs : List Char) : trimEnd (trimEnd cs) = trimEnd cs := by
  simp only [trimEnd_reverse, List.reverse_reverse, trimStart_trimStart]

theorem trimEnd_trimStart (cs : List Char) : trimEnd (trimStart cs) = trimStart (trimEnd cs) := by
  induction cs with
  | nil => rfl
  | cons c cs ih =>
    cases slash : isSlash c with
    | true =>
      have alone : trimEnd [c] = [] := by simp [trimEnd, slash]
      rw [trimStart_cons, if_pos slash, ih, trimEnd_cons]
      split
      · rename_i empty
        rw [empty, alone]
      · rw [trimStart_cons, if_pos slash]
    | false =>
      have alone : trimEnd [c] = [c] := by simp [trimEnd, slash]
      have kept : trimEnd (c :: cs) = c :: trimEnd cs := by
        rw [trimEnd_cons]
        split
        · rename_i empty
          rw [empty, alone]
        · rfl
      simp [trimStart_cons, slash, kept]

theorem trimStart_eq_nil_iff (cs : List Char) : trimStart cs = [] ↔ trimEnd cs = [] := by
  rw [trimEnd_eq, trimStart, List.dropWhile_eq_nil_iff, List.rdropWhile_eq_nil_iff]

/-- `front` is the longest start of a text that does not end with a slash. -/
structure IsBareStart (text front : String) : Prop where
  starts : front.toList <+: text.toList
  bare : front.toList.getLast? ≠ some '/'
  longest : ∀ other : List Char, other <+: text.toList → other.getLast? ≠ some '/' →
    other.length ≤ front.toList.length

structure IsBareEnd (text back : String) : Prop where
  ends : back.toList <:+ text.toList
  bare : back.toList.head? ≠ some '/'
  longest : ∀ other : List Char, other <:+ text.toList → other.head? ≠ some '/' →
    other.length ≤ back.toList.length

theorem trimStart_bare (cs : List Char) : (trimStart cs).head? ≠ some '/' := by
  intro first
  have other := List.head?_dropWhile_not isSlash cs
  rw [← trimStart, first] at other
  exact absurd other (by decide)

theorem suffix_trimStart {cs back : List Char} (suffix : back <:+ cs)
    (bare : back.head? ≠ some '/') : back <:+ trimStart cs := by
  induction cs with
  | nil => exact suffix
  | cons c cs ih =>
    rw [trimStart_cons]
    split
    · rename_i slash
      rcases List.suffix_cons_iff.mp suffix with rfl | inner
      · rw [isSlash_iff.mp slash] at bare
        exact absurd rfl bare
      · exact ih inner
    · exact suffix

def rest (path : String) : String := String.ofList (trimStart path.toList)

theorem rest_isBareEnd (path : String) : IsBareEnd path (rest path) := by
  have list : (rest path).toList = trimStart path.toList := String.toList_ofList
  refine ⟨?_, ?_, fun other suffix bare => ?_⟩
  all_goals rw [list]
  · exact List.dropWhile_suffix isSlash
  · exact trimStart_bare path.toList
  · exact (suffix_trimStart suffix bare).length_le

theorem root_isBareStart (url : String) : IsBareStart url (root url) := by
  -- Read backwards, a text begins where it ended.
  have list : (root url).toList = (trimStart url.toList.reverse).reverse := String.toList_ofList
  refine ⟨?_, ?_, fun other start bare => ?_⟩
  all_goals rw [list]
  · rw [← List.reverse_suffix, List.reverse_reverse]
    exact List.dropWhile_suffix isSlash
  · rw [List.getLast?_reverse]
    exact trimStart_bare _
  · rw [← List.head?_reverse] at bare
    have inner := suffix_trimStart (List.reverse_suffix.mpr start) bare
    simpa using inner.length_le

theorem join_root_rest (base path : String) : join base path = root base ++ "/" ++ rest path := by
  rw [← String.toList_inj]
  simp [join, root, rest]

def slashes (n : Nat) : String := String.ofList (List.replicate n '/')

theorem root_append_slashes (url : String) (n : Nat) : root (url ++ slashes n) = root url := by
  simp [root, slashes, trimEnd_append, trimEnd_slashes]

theorem rest_slashes_append (path : String) (n : Nat) : rest (slashes n ++ path) = rest path := by
  simp [rest, slashes, trimStart_append, trimStart_slashes]

theorem trimEnd_joint (front : List Char) {back : List Char} (goesOn : trimEnd back ≠ []) :
    trimEnd (front ++ '/' :: back) = front ++ '/' :: trimEnd back := by
  rw [trimEnd_append, trimEnd_cons, if_neg goesOn, if_neg (List.cons_ne_nil _ _)]

theorem trimStart_joint {front : List Char} (goesOn : trimStart front ≠ []) (back : List Char) :
    trimStart (front ++ back) = trimStart front ++ back := by
  rw [trimStart_append, if_neg goesOn]

theorem join_assoc (b p q : String) : join (join b p) q = join b (join p q) := by
  rw [← String.toList_inj]
  simp only [join, String.toList_ofList]
  by_cases empty : trimEnd p.toList = []
  · -- Of a path of slashes alone nothing is left, and its two joints are one.
    have nothing := (trimStart_eq_nil_iff p.toList).mpr empty
    have left : trimEnd (trimEnd b.toList ++ ['/']) = trimEnd b.toList := by
      rw [trimEnd_append, if_pos (by rfl), trimEnd_trimEnd]
    have right : trimStart ('/' :: trimStart q.toList) = trimStart q.toList := by
      rw [trimStart_cons, if_pos (by rfl), trimStart_trimStart]
    rw [nothing, empty, left, List.nil_append, right]
  · have inner : trimEnd (trimStart p.toList) ≠ [] := by
      rw [trimEnd_trimStart, ne_eq, trimStart_eq_nil_iff, trimEnd_trimEnd]
      exact empty
    have goesOn : trimStart (trimEnd p.toList) ≠ [] := by
      rw [← trimEnd_trimStart]
      exact inner
    rw [trimEnd_joint _ inner, trimStart_joint goesOn, trimEnd_trimStart, List.append_assoc]
    rfl

/-- A base and a path meet in one slash, whatever slashes they bring to it, and paths are joined in
any order of the joints. -/
theorem meets_in_one_slash (b p q : String) :
    (∃ front back, IsBareStart b front ∧ IsBareEnd p back ∧ join b p = front ++ "/" ++ back) ∧
    (∀ m n, join (b ++ slashes m) (slashes n ++ p) = join b p) ∧
    join (join b p) q = join b (join p q) := by
  refine ⟨⟨root b, rest p, root_isBareStart b, rest_isBareEnd p, join_root_rest b p⟩, ?_,
    join_assoc b p q⟩
  intro m n
  rw [join_root_rest, root_append_slashes, rest_slashes_append, ← join_root_rest]

end LoadBench.Http.Url
