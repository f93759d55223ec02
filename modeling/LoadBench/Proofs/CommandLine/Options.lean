import LoadBench.CommandLine.Options
import Mathlib.Data.List.TakeWhile
import Mathlib.Tactic.Push

namespace LoadBench.CommandLine

variable {α : Type}

structure Given where
  name : String
  value : Option String

def Given.arguments (g : Given) : List String := ("--" ++ g.name) :: g.value.toList

def render (given : List Given) : List String := given.flatMap Given.arguments

def Given.apply (options : List (Opt α)) (settings : α) (g : Given) : Except Stop α :=
  match options.find? (·.name == g.name) with
  | some o => o.apply (g.value.getD "") settings
  | none => .error .unknownArgument

structure Nameable (name : String) : Prop where
  nonempty : name.toList ≠ []
  unattached : '=' ∉ name.toList
  noHelp : name ≠ "help"

/-- An option that there is, given with a value just when it takes one. -/
structure Fits (options : List (Opt α)) (g : Given) (o : Opt α) : Prop where
  nameable : Nameable g.name
  found : options.find? (·.name == g.name) = some o
  takesValue : o.takesValue = g.value.isSome

theorem Fits.name_eq {options : List (Opt α)} {g : Given} {o : Opt α} (fits : Fits options g o) :
    o.name = g.name := by
  have same := List.find?_some fits.found
  exact eq_of_beq same

theorem Shape.of_name {name : String} (nameable : Nameable name) :
    Shape.of ("--" ++ name) = .long name none := by
  obtain ⟨nonempty, unattached, -⟩ := nameable
  obtain ⟨c, cs, split⟩ := List.exists_cons_of_ne_nil nonempty
  have characters : ("--" ++ name).toList = '-' :: '-' :: name.toList := by
    rw [String.toList_append]
    rfl
  have plain : ∀ d ∈ name.toList, (d != '=') = true := by
    intro d member
    rw [bne_iff_ne]
    rintro rfl
    exact unattached member
  have attached : splitAttached name.toList = (name, none) := by
    rw [splitAttached, List.takeWhile_eq_self_iff.mpr plain, List.dropWhile_eq_nil_iff.mpr plain,
      String.ofList_toList]
  rw [split] at characters attached
  simp only [Shape.of, characters, attached]

def IsDashed (text : String) : Prop := text.toList.head? = some '-' ∧ text ≠ "-"

instance (text : String) : Decidable (IsDashed text) := inferInstanceAs (Decidable (_ ∧ _))

theorem Shape.of_eq_word_iff (text : String) : Shape.of text = .word ↔ ¬ IsDashed text := by
  have hyphen : text = "-" ↔ text.toList = ['-'] := String.toList_inj.symm
  rw [Shape.of, IsDashed, Ne, hyphen]
  rcases text.toList with _ | ⟨c, _ | ⟨d, rest⟩⟩
  · simp
  · simp
  · by_cases dash : c = '-'
    · subst dash
      split <;> simp_all
    · simp [dash]

def IsRefused (result : Except Stop α) : Prop := ∃ stop, result = .error stop

theorem IsRefused.bind {β : Type} (result : Except Stop α) {next : α → Except Stop β}
    (refused : ∀ a, IsRefused (next a)) : IsRefused (result >>= next) := by
  cases result with
  | error stop => exact ⟨stop, rfl⟩
  | ok a => exact refused a

namespace Progress

variable {options : List (Opt α)} {p q : Progress α} {g : Given} {o : Opt α}

theorem waiting_of_apply {value : String} (applied : p.apply o value = .ok q) :
    q.waiting = none := by
  rw [apply] at applied
  split at applied
  · cases applied
  · cases changed : o.apply value p.settings with
    | ok settings =>
      rw [changed] at applied
      cases applied
      rfl
    | error stop =>
      rw [changed] at applied
      cases applied

theorem waiting_of_settle (settled : p.settle = .ok q) : q.waiting = none := by
  rw [settle] at settled
  split at settled
  · rename_i nothing
    cases settled
    exact nothing
  · cases settled
  · exact waiting_of_apply settled

theorem settle_of_waiting (closed : p.waiting = none) : p.settle = .ok p := by
  rw [settle, closed]

def give (options : List (Opt α)) (p : Progress α) (g : Given) : Except Stop (Progress α) :=
  match options.find? (·.name == g.name) with
  | some o => p.apply o (g.value.getD "")
  | none => .error .unknownArgument

/-- The progress when an option and its value have come: it stays open until the next one. -/
def hold (options : List (Opt α)) (o : Opt α) (g : Given) (p : Progress α) :
    Except Stop (Progress α) :=
  match g.value with
  | some value => .ok { p with waiting := some (o, some value) }
  | none => p.give options g

theorem settle_of_hold (fits : Fits options g o) (closed : p.waiting = none) :
    (p.hold options o g >>= settle) = p.give options g := by
  cases valued : g.value with
  | some value =>
    have reopened : { p with waiting := none } = p := by rw [← closed]
    simp only [hold, valued, give, fits.found, Option.getD_some]
    exact congrArg (apply o value) reopened
  | none =>
    simp only [hold, valued]
    rcases given : p.give options g with stop | q
    · rfl
    · have closed : q.waiting = none := by
        rw [give, fits.found] at given
        exact waiting_of_apply given
      exact settle_of_waiting closed

theorem long_of_some (fits : Fits options g o) {value : String} (valued : g.value = some value) :
    p.long options g.name none = p.settle.map fun q => { q with waiting := some (o, none) } := by
  simp only [long, if_neg fits.nameable.noHelp, fits.found, fits.takesValue, valued,
    Option.isSome_some, if_true]

theorem long_of_none (fits : Fits options g o) (bare : g.value = none) :
    p.long options g.name none = p.settle >>= fun q => q.give options g := by
  simp only [long, if_neg fits.nameable.noHelp, fits.found, fits.takesValue, bare,
    Option.isSome_none, Bool.false_eq_true, if_false, give, Option.getD_none]

theorem take_open {value : String} (waits : p.waiting = some (o, none))
    (dashed : Shape.of value ≠ .word) (rest : List String) :
    IsRefused (takeAll options p (value :: rest)) := by
  have unsettled : p.settle = .error .invalidValue := by rw [settle, waits]
  rw [takeAll]
  cases shape : Shape.of value with
  | separator =>
    simp only
    split
    · exact ⟨_, unsettled⟩
    · exact ⟨_, rfl⟩
  | long name attached =>
    simp only [long, unsettled]
    split
    · split <;> exact ⟨_, rfl⟩
    · split
      · exact ⟨_, rfl⟩
      · split <;> exact ⟨_, rfl⟩
      · split <;> exact ⟨_, rfl⟩
  | short c =>
    simp only [short, unsettled]
    split <;> exact ⟨_, rfl⟩
  | word => exact absurd shape dashed

end Progress

section Taking

variable {options : List (Opt α)} {given : List Given}

theorem takeAll_name {name : String} (nameable : Nameable name) (p : Progress α)
    (rest : List String) :
    takeAll options p (("--" ++ name) :: rest) =
      p.long options name none >>= fun q => takeAll options q rest := by
  rw [takeAll, Shape.of_name nameable]

theorem takeAll_given {g : Given} {o : Opt α} (fits : Fits options g o)
    (word : ∀ value ∈ g.value, Shape.of value = .word) (p : Progress α) (rest : List String) :
    takeAll options p (g.arguments ++ rest) =
      p.settle >>= fun q => q.hold options o g >>= fun r => takeAll options r rest := by
  cases valued : g.value with
  | none =>
    simp only [Given.arguments, valued, Option.toList_none, List.cons_append, List.nil_append,
      takeAll_name fits.nameable, Progress.long_of_none fits valued, Progress.hold]
    cases p.settle <;> rfl
  | some value =>
    have shape := word value valued
    simp only [Given.arguments, valued, Option.toList_some, List.cons_append, List.nil_append,
      takeAll_name fits.nameable, Progress.long_of_some fits valued, Progress.hold]
    rcases p.settle with stop | q
    · rfl
    · show takeAll options { q with waiting := some (o, none) } (value :: rest) = _
      rw [takeAll, shape]
      rfl

theorem takeAll_render (fits : ∀ g ∈ given, ∃ o, Fits options g o)
    (words : ∀ g ∈ given, ∀ value ∈ g.value, Shape.of value = .word) (p : Progress α) :
    takeAll options p (render given) =
      p.settle >>= fun q => given.foldlM (Progress.give options) q := by
  -- An option stays open until the next one settles it, so this is for any progress.
  induction given generalizing p with
  | nil =>
    rw [render, List.flatMap_nil, takeAll]
    cases p.settle <;> rfl
  | cons g rest ih =>
    obtain ⟨o, fit⟩ := fits g List.mem_cons_self
    have later := ih (fun h member => fits h (List.mem_cons_of_mem g member))
      (fun h member => words h (List.mem_cons_of_mem g member))
    rw [render, List.flatMap_cons, takeAll_given fit (words g List.mem_cons_self)]
    rcases settled : p.settle with stop | q
    · rfl
    · have given := Progress.settle_of_hold fit (Progress.waiting_of_settle settled)
      calc (q.hold options o g >>= fun r => takeAll options r (render rest))
          = q.hold options o g >>= fun r => r.settle >>= fun s =>
              rest.foldlM (Progress.give options) s := by
            simp only [later]
        _ = (q.hold options o g >>= Progress.settle) >>= fun s =>
              rest.foldlM (Progress.give options) s := by
            cases q.hold options o g <;> rfl
        _ = q.give options g >>= fun s => rest.foldlM (Progress.give options) s := by rw [given]
        _ = (g :: rest).foldlM (Progress.give options) q := rfl

theorem takeAll_refuses (fits : ∀ g ∈ given, ∃ o, Fits options g o)
    (dashed : ∃ g ∈ given, ∃ value ∈ g.value, Shape.of value ≠ .word) (p : Progress α) :
    IsRefused (takeAll options p (render given)) := by
  induction given generalizing p with
  | nil =>
    obtain ⟨g, member, -⟩ := dashed
    cases member
  | cons g rest ih =>
    obtain ⟨o, fit⟩ := fits g List.mem_cons_self
    rw [render, List.flatMap_cons]
    by_cases word : ∀ value ∈ g.value, Shape.of value = .word
    · have later : ∃ g ∈ rest, ∃ value ∈ g.value, Shape.of value ≠ .word := by
        obtain ⟨h, member, value, valued, shape⟩ := dashed
        rcases List.mem_cons.mp member with rfl | member
        · exact absurd (word value valued) shape
        · exact ⟨h, member, value, valued, shape⟩
      rw [takeAll_given fit word]
      refine .bind _ fun q => .bind _ fun r => ?_
      exact ih (fun h member => fits h (List.mem_cons_of_mem g member)) later r
    · push Not at word
      obtain ⟨value, valued, shape⟩ := word
      simp only [Given.arguments, Option.mem_def.mp valued, Option.toList_some, List.cons_append,
        takeAll_name fit.nameable, Progress.long_of_some fit valued]
      cases p.settle with
      | error stop => exact ⟨stop, rfl⟩
      | ok q => exact Progress.take_open rfl shape _

theorem foldlM_give (fits : ∀ g ∈ given, ∃ o, Fits options g o)
    (distinct : (given.map (·.name)).Nodup) (p : Progress α)
    (fresh : ∀ g ∈ given, g.name ∉ p.given) :
    (given.foldlM (Progress.give options) p).map (·.settings) =
      given.foldlM (Given.apply options) p.settings := by
  induction given generalizing p with
  | nil => rfl
  | cons g rest ih =>
    obtain ⟨o, fit⟩ := fits g List.mem_cons_self
    rw [List.map_cons, List.nodup_cons] at distinct
    obtain ⟨once, distinct⟩ := distinct
    have new : p.given.contains o.name = false := by
      rw [fit.name_eq, List.contains_eq_mem, decide_eq_false_iff_not]
      exact fresh g List.mem_cons_self
    have step : p.give options g =
        (g.apply options p.settings).map fun settings => ⟨settings, o.name :: p.given, none⟩ := by
      simp only [Progress.give, Given.apply, fit.found, Progress.apply, new, Bool.false_eq_true,
        if_false]
    rw [List.foldlM_cons, List.foldlM_cons, step]
    cases applied : g.apply options p.settings with
    | error stop => rfl
    | ok settings =>
      refine ih (fun h member => fits h (List.mem_cons_of_mem g member)) distinct
        ⟨settings, o.name :: p.given, none⟩ ?_
      intro h member
      rw [List.mem_cons, fit.name_eq, not_or]
      refine ⟨?_, fresh h (List.mem_cons_of_mem g member)⟩
      intro same
      exact once (same ▸ List.mem_map_of_mem member)

/-- Options written out are taken as given: in their order, provided that every value looks like
one. -/
theorem settings_render (fits : ∀ g ∈ given, ∃ o, Fits options g o)
    (distinct : (given.map (·.name)).Nodup) (default result : α) :
    settings options default (render given) = .ok result ↔
      (∀ g ∈ given, ∀ value ∈ g.value, ¬ IsDashed value) ∧
        given.foldlM (Given.apply options) default = .ok result := by
  by_cases words : ∀ g ∈ given, ∀ value ∈ g.value, Shape.of value = .word
  · have plain : ∀ g ∈ given, ∀ value ∈ g.value, ¬ IsDashed value := fun g member value valued =>
      (Shape.of_eq_word_iff value).mp (words g member value valued)
    rw [settings, takeAll_render fits words, Progress.settle_of_waiting rfl]
    have same := foldlM_give fits distinct ⟨default, [], none⟩ fun g _ => List.not_mem_nil
    rw [← same]
    exact (and_iff_right plain).symm
  · have dashed : ∃ g ∈ given, ∃ value ∈ g.value, Shape.of value ≠ .word := by
      push Not at words
      exact words
    obtain ⟨stop, refused⟩ := takeAll_refuses fits dashed ⟨default, [], none⟩
    obtain ⟨g, member, value, valued, shape⟩ := dashed
    rw [settings, refused]
    constructor
    · intro taken
      cases taken
    · rintro ⟨plain, -⟩
      exact absurd ((Shape.of_eq_word_iff value).mpr (plain g member value valued)) shape

end Taking

end LoadBench.CommandLine
