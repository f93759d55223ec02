import LoadBench.Files
import LoadBench.Proofs.Text.Utf8

namespace LoadBench.Files

open Text

variable {files after : Files} {place : List String} {path : String} {content : Utf8.Bytes}

theorem lookup?_insert_self (inside : place ≠ []) (entry : Entry) :
    (files.insert place entry).lookup? place = some entry := by
  rw [lookup?, if_neg (by rwa [List.isEmpty_iff]), insert, List.lookup_cons_self]

theorem lookup_filter_ne {other : List String} (apart : other ≠ place)
    (entries : List (List String × Entry)) :
    (entries.filter (·.1 != place)).lookup other = entries.lookup other := by
  induction entries with
  | nil => rfl
  | cons entry entries ih =>
    by_cases here : entry.1 = place
    · have skipped : (other == entry.1) = false := beq_eq_false_iff_ne.mpr (here ▸ apart)
      have dropped : (entry.1 != place) = false := by rw [here, bne_self_eq_false]
      rw [List.filter_cons, dropped, if_neg Bool.false_ne_true, ih, List.lookup_cons, skipped]
    · rw [List.filter_cons, if_pos (bne_iff_ne.mpr here), List.lookup_cons, List.lookup_cons, ih]

theorem lookup?_insert_ne {other : List String} (apart : other ≠ place) (entry : Entry) :
    (files.insert place entry).lookup? other = files.lookup? other := by
  have skipped : (other == place) = false := beq_eq_false_iff_ne.mpr apart
  rw [lookup?, lookup?, insert, List.lookup_cons, skipped, lookup_filter_ne apart]

theorem follow_insert (notFolder : files.lookup? place ≠ some .folder) (entry : Entry)
    {start names found : List String} (followed : files.follow start names = .ok found) :
    (files.insert place entry).follow start names = .ok found := by
  fun_induction follow files start names with
  | case1 => exact followed
  | case2 start name rest passed ih =>
    rw [follow, if_pos passed]
    exact ih followed
  | case3 start rest plain ih =>
    rw [follow, if_neg plain, if_pos rfl]
    exact ih followed
  | case4 => cases followed
  | case5 start name rest plain up short last =>
    rw [follow, if_neg plain, if_neg up, if_neg short, if_pos last]
    exact followed
  | case6 start name rest plain up short goesOn here ih =>
    -- A folder stands here, so this is not the place that changes.
    have apart : start ++ [name] ≠ place := by
      rintro rfl
      exact notFolder here
    rw [follow, if_neg plain, if_neg up, if_neg short, if_neg goesOn,
      lookup?_insert_ne apart, here]
    exact ih followed
  | case7 => cases followed
  | case8 => cases followed

theorem place_insert (notFolder : files.lookup? place ≠ some .folder) (entry : Entry)
    {found : List String} (leads : files.place path = .ok found) :
    (files.insert place entry).place path = .ok found := by
  unfold Files.place at leads ⊢
  split at leads
  · cases leads
  · rename_i named
    rw [if_neg named]
    split at leads
    · cases leads
    · rename_i plain
      rw [if_neg plain]
      exact follow_insert notFolder entry leads

def Swallows (files : Files) (path : String) : Prop :=
  ∃ place, files.place path = .ok place ∧ files.lookup? place = some .device

theorem write_device (leads : files.place path = .ok place) (plain : endsInSlash path = false)
    (device : files.lookup? place = some .device) : files.write path content = .ok files := by
  simp only [write, leads, bind, Except.bind, device, plain]
  rfl

theorem readText_device (leads : files.place path = .ok place) (plain : endsInSlash path = false)
    (device : files.lookup? place = some .device) : files.readText path = .ok "" := by
  have nothing : Utf8.decode? [] = some "" := by simp [Utf8.decode?, Utf8.scalars]
  simp only [readText, read, leads, bind, Except.bind, device, plain, Bool.false_eq_true, if_false,
    nothing]

theorem write_ok_cases (written : files.write path content = .ok after) :
    (files.Swallows path ∧ after = files) ∨
    ∃ place, files.place path = .ok place ∧ endsInSlash path = false ∧
      files.lookup? place ≠ some .folder ∧ after = files.insert place (.file content) := by
  rw [write] at written
  cases leads : files.place path with
  | error => rw [leads] at written; cases written
  | ok place =>
    simp only [leads, bind, Except.bind] at written
    split at written
    · cases written
    · rename_i device
      split at written <;> cases written
      exact .inl ⟨⟨place, leads, device⟩, rfl⟩
    · rename_i old stored
      split at written <;> cases written
      rename_i plain
      refine .inr ⟨place, rfl, Bool.eq_false_iff.mpr plain, ?_, rfl⟩
      rw [stored]
      exact nofun
    · rename_i missing
      split at written
      · cases written
      · rename_i plain
        split at written <;> cases written
        refine .inr ⟨place, rfl, Bool.eq_false_iff.mpr plain, ?_, rfl⟩
        rw [missing]
        exact nofun

theorem write_of_missing (leads : files.place path = .ok place) (plain : endsInSlash path = false)
    (missing : files.lookup? place = none) (parent : files.lookup? place.dropLast = some .folder) :
    files.write path content = .ok (files.insert place (.file content)) := by
  simp only [write, leads, bind, Except.bind, missing, parent, plain]
  rfl

theorem not_swallows_insert (leads : files.place path = .ok place)
    (notFolder : files.lookup? place ≠ some .folder) :
    ¬ (files.insert place (.file content)).Swallows path := by
  have inside : place ≠ [] := by
    rintro rfl
    exact notFolder rfl
  rintro ⟨found, same, device⟩
  rw [place_insert notFolder (.file content) leads] at same
  cases same
  rw [lookup?_insert_self inside] at device
  cases device

theorem read_write (written : files.write path content = .ok after)
    (kept : ¬ after.Swallows path) : after.read path = .ok content := by
  rcases write_ok_cases written with ⟨swallowed, rfl⟩ | ⟨place, leads, plain, notFolder, rfl⟩
  · exact absurd swallowed kept
  · have inside : place ≠ [] := by
      rintro rfl
      exact notFolder rfl
    have same := place_insert notFolder (.file content) leads
    simp only [read, same, bind, Except.bind, lookup?_insert_self inside, plain]
    rfl

theorem readText_write {text : String} (written : files.write path (Utf8.encode text) = .ok after)
    (kept : ¬ after.Swallows path) : after.readText path = .ok text := by
  simp only [readText, read_write written kept, bind, Except.bind, Utf8.decode?_encode]

/-- A text that is written to a path whose folders are made first is read back from there. -/
theorem readText_createParent_write {text : String}
    (written : (files.createParent path >>= (·.write path (Utf8.encode text))) = .ok after)
    (kept : ¬ after.Swallows path) : after.readText path = .ok text := by
  cases made : files.createParent path with
  | error =>
    rw [made] at written
    cases written
  | ok folders =>
    rw [made] at written
    exact readText_write written kept

/-- All that was there still is, and what is new are folders. -/
structure Grows (files after : Files) : Prop where
  kept : ∀ place entry, files.lookup? place = some entry → after.lookup? place = some entry
  new : ∀ place entry, after.lookup? place = some entry →
    files.lookup? place = some entry ∨ entry = .folder

theorem Grows.refl (files : Files) : files.Grows files :=
  ⟨fun _ _ there => there, fun _ _ there => .inl there⟩

theorem Grows.trans {middle : Files} (first : files.Grows middle) (second : middle.Grows after) :
    files.Grows after where
  kept place entry there := second.kept place entry (first.kept place entry there)
  new place entry there := (second.new place entry there).elim (first.new place entry) .inr

theorem Grows.file_iff (grows : files.Grows after) (place : List String) (content : Utf8.Bytes) :
    after.lookup? place = some (.file content) ↔ files.lookup? place = some (.file content) := by
  refine ⟨fun there => ?_, grows.kept place _⟩
  rcases grows.new place _ there with before | folder
  · exact before
  · cases folder

theorem grows_createFolder (made : files.createFolder path = .ok after) : files.Grows after := by
  rw [createFolder] at made
  cases leads : files.place path with
  | error => rw [leads] at made; cases made
  | ok place =>
    simp only [leads, bind, Except.bind] at made
    split at made
    · cases made
    · rename_i missing
      split at made <;> cases made
      have inside : place ≠ [] := by
        rintro rfl
        cases missing
      constructor
      · intro other entry there
        have apart : other ≠ place := by
          rintro rfl
          rw [missing] at there
          cases there
        rwa [lookup?_insert_ne apart]
      · intro other entry there
        by_cases here : other = place
        · subst here
          rw [lookup?_insert_self inside] at there
          cases there
          exact .inr rfl
        · rw [lookup?_insert_ne here] at there
          exact .inl there

theorem grows_makeFolders (fuel : Nat) (files : Files) (path : String) :
    files.Grows (makeFolders fuel files path).2 := by
  fun_induction makeFolders fuel files path with
  | case1 => exact .refl _
  | case2 => exact .refl _
  | case3 fuel files path named after made => exact grows_createFolder made
  | case4 => exact .refl _
  | case5 fuel files path named missing parent found fault left made ih =>
    rw [made] at ih
    exact ih
  | case6 fuel files path named missing parent found left made after last ih =>
    rw [made] at ih
    exact ih.trans (grows_createFolder last)
  | case7 fuel files path named missing parent found left made fault last ih =>
    rw [made] at ih
    exact ih
  | case8 => exact .refl _

theorem grows_withParent (files : Files) (path : String) : files.Grows (files.withParent path) := by
  rw [withParent]
  split
  · exact .refl files
  · exact grows_makeFolders _ _ _

end LoadBench.Files
