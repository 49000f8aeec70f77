import SchemaTypes.File.System

/-!
# `SchemaTypes.Proofs.File.Entries`: what a file system answers

Everything that is asked of a file system is told by two things: what
stands at each place (`entry?`) and where the working directory is.
`isDirectory_iff` says so of directories, which need no entry of their own
if something stands inside them. Setting an entry changes the answer for
one place (`entry?_set`), and from this follows what stays true when
directories and files are added.

A path leads to its destination through the places of its way. The
destination and the way hang on the names of the path and on where it
starts, not on what stands anywhere.
-/

set_option autoImplicit false

namespace SchemaTypes

namespace Path

/-- The places that names lead through from another, each name one place
further. -/
def passed (place : List String) : List String → List (List String)
  | [] => []
  | name :: names => follow place name :: passed (follow place name) names

/-- Names lead on from where the names before them have led, so what they
have `passed` is put together in the same way. -/
theorem passed_append (place front names : List String) :
    passed place (front ++ names) =
      passed place front ++ passed (front.foldl follow place) names := by
  induction front generalizing place with
  | nil => rfl
  | cons name front ih =>
    rw [List.cons_append, passed, passed, ih, List.foldl_cons, List.cons_append]

end Path

namespace FileSystem

open SchemaTypes.Path (follow passed)

/-- The place that a path leads to. -/
def destination (files : FileSystem) (p : Path) : List String :=
  p.resolve files.working

/-- The directories that a path leads through. -/
def way (files : FileSystem) (p : Path) : List (List String) :=
  passed (files.origin p) p.parent.names

/-- A path leads to its destination by its last name, from the directory of
the file, to which the names of `Path.parent` lead. -/
theorem destination_eq {files : FileSystem} {p : Path} {name : String}
    (hname : p.names.getLast? = some name) :
    files.destination p = follow (p.parent.names.foldl follow (files.origin p)) name := by
  obtain ⟨front, hfront⟩ := List.getLast?_eq_some_iff.mp hname
  show p.names.foldl follow (files.origin p) = follow (p.names.dropLast.foldl follow _) name
  rw [hfront, List.dropLast_concat, List.foldl_append]
  rfl

section

variable {files : FileSystem} {place x : List String} {entry : Entry}

/-! ### Entries -/

/-- Setting an entry changes what is at its place, and nowhere else. All
that follows about `FileSystem.set` rests on this. -/
theorem entry?_set (files : FileSystem) (place : List String) (entry : Entry) (x : List String) :
    entry? (files.set place entry) x = if x = place then some entry else files.entry? x := by
  show List.lookup x ((place, entry) :: files.entries.filter fun other => other.1 != place) = _
  by_cases hx : x = place
  · rw [hx, List.lookup_cons_self, if_pos rfl]
  · rw [List.lookup_cons, show (x == place) = false by simpa using hx, if_neg hx]
    show List.lookup x (files.entries.filter fun other => other.1 != place) =
      files.entries.lookup x
    -- The entries that are dropped are all of another place.
    induction files.entries with
    | nil => rfl
    | cons other entries ih =>
      by_cases hother : other.1 = place
      · rw [List.filter_cons_of_neg (by simpa using hother), ih, List.lookup_cons,
          show (x == other.1) = false by simpa [hother] using hx]
      · rw [List.filter_cons_of_pos (by simpa using hother), List.lookup_cons, List.lookup_cons, ih]

/-- What was set is there, the first case of `entry?_set`. -/
theorem entry?_set_self (files : FileSystem) (place : List String) (entry : Entry) :
    entry? (files.set place entry) place = some entry := by
  rw [entry?_set, if_pos rfl]

/-- What is at other places is not changed by an entry that is set, the
second case of `entry?_set`. -/
theorem entry?_set_of_ne (hx : x ≠ place) :
    entry? (files.set place entry) x = files.entry? x := by
  rw [entry?_set, if_neg hx]

/-- Setting an entry leaves no place empty that was not, be it the place of
the entry or another (`entry?_set`). -/
theorem entry?_set_ne_none (h : files.entry? x ≠ none) :
    entry? (files.set place entry) x ≠ none := by
  rw [entry?_set]
  split
  · exact nofun
  · exact h

/-! ### Directories -/

/-- A place is a directory by an entry of its own, or without one because
something stands inside it, be it only the working directory. In this form
`isDirectory` is told by `entry?` alone. -/
theorem isDirectory_iff :
    files.isDirectory place = true ↔
      files.entry? place = some .directory ∨
        files.entry? place = none ∧
          (place <+: files.working ∨ ∃ x, files.entry? x ≠ none ∧ place <+: x) := by
  -- What stands inside a place is found among the entries.
  have hinside : (files.entries.any fun entry => place.isPrefixOf entry.1) = true ↔
      ∃ x, files.entry? x ≠ none ∧ place <+: x := by
    rw [List.any_eq_true]
    constructor
    · rintro ⟨⟨x, entry⟩, hmem, hbelow⟩
      refine ⟨x, ?_, List.isPrefixOf_iff_prefix.mp hbelow⟩
      intro hnone
      have hne := List.lookup_eq_none_iff.mp hnone (x, entry) hmem
      simp at hne
    · rintro ⟨x, hx, hbelow⟩
      obtain ⟨entry, hentry⟩ := Option.ne_none_iff_exists'.mp hx
      obtain ⟨before, after, heq, -⟩ := List.lookup_eq_some_iff.mp hentry
      refine ⟨(x, entry), ?_, List.isPrefixOf_iff_prefix.mpr hbelow⟩
      rw [heq]
      exact List.mem_append_right _ List.mem_cons_self
  unfold isDirectory
  cases hentry : files.entry? place with
  | none =>
    simp only [Bool.or_eq_true, hinside, List.isPrefixOf_iff_prefix]
    simp
  | some entry => cases entry <;> simp

/-- What stands inside a place that has no entry makes it a directory, by
`isDirectory_iff`. -/
theorem isDirectory_of_prefix (hnone : files.entry? place = none)
    (hx : x = files.working ∨ files.entry? x ≠ none) (hbelow : place <+: x) :
    files.isDirectory place = true := by
  rw [isDirectory_iff]
  rcases hx with rfl | hx
  · exact .inr ⟨hnone, .inl hbelow⟩
  · exact .inr ⟨hnone, .inr ⟨x, hx, hbelow⟩⟩

/-- A place with an entry for a directory is one, the first case of
`isDirectory_iff`. -/
theorem isDirectory_of_entry (h : files.entry? place = some .directory) :
    files.isDirectory place = true :=
  isDirectory_iff.mpr (.inl h)

/-- A directory that has an entry has one for a directory: with any other
entry it would not be one by `isDirectory_iff`. -/
theorem entry?_eq_directory (h : files.isDirectory place = true) (hne : files.entry? place ≠ none) :
    files.entry? place = some .directory := by
  rcases isDirectory_iff.mp h with hentry | ⟨hnone, -⟩
  · exact hentry
  · exact absurd hnone hne

/-- A file is no directory, also if something stands inside its place:
`isDirectory` asks for the entry first. -/
theorem isDirectory_of_text {contents : String} (h : files.entry? place = some (.text contents)) :
    files.isDirectory place = false := by
  unfold isDirectory
  rw [h]

/-! ### Growing -/

/-- One file system has all that another has: directories are still
directories, and where something stood something stands. -/
structure Grows (files files' : FileSystem) : Prop where
  working : files'.working = files.working
  entry : ∀ {x}, files.entry? x ≠ none → files'.entry? x ≠ none
  directory : ∀ {x}, files.isDirectory x = true → files'.isDirectory x = true

/-- A file system that is left alone has all that it had, so `Grows` is
reflexive. -/
theorem Grows.refl (files : FileSystem) : Grows files files :=
  ⟨rfl, id, id⟩

/-- What two changes in turn leave alone, both together leave alone, so
`Grows` is transitive. -/
theorem Grows.trans {files files' files'' : FileSystem} (h : Grows files files')
    (h' : Grows files' files'') : Grows files files'' :=
  ⟨h'.working.trans h.working, fun hx => h'.entry (h.entry hx),
    fun hx => h'.directory (h.directory hx)⟩

/-- An entry that is set where no directory stands, or is one itself, takes
nothing away. The other directories keep what makes them so by
`isDirectory_iff`. -/
theorem grows_set (h : entry = .directory ∨ files.isDirectory place = false) :
    Grows files (files.set place entry) := by
  refine ⟨rfl, entry?_set_ne_none, ?_⟩
  intro x hx
  by_cases hplace : x = place
  · rcases h with rfl | hnot
    · rw [hplace]
      exact isDirectory_of_entry (entry?_set_self files place .directory)
    · rw [hplace, hnot] at hx
      cases hx
  · rw [isDirectory_iff, entry?_set_of_ne hplace]
    rcases isDirectory_iff.mp hx with hentry | ⟨hnone, hbelow | ⟨y, hy, hbelow⟩⟩
    · exact .inl hentry
    · exact .inr ⟨hnone, .inl hbelow⟩
    · exact .inr ⟨hnone, .inr ⟨y, entry?_set_ne_none hy, hbelow⟩⟩

end

end FileSystem

end SchemaTypes
