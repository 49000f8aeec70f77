import SchemaTypes.File.Path
import SchemaTypes.Proofs.Runs

/-!
# `SchemaTypes.Proofs.File.RelativePaths`: places and the way between them

A place is the list of names that lead to it from the top. Following the
names of a path from a place leads to a place again, because two dots take
a name off and nothing else is added but names (`isPlace_foldl_follow`).

`relativeNames` drops the names that a start and a target share and goes up
from there (`exists_relativeNames_eq`). `foldl_follow_relativeNames` says
that the way it gives ends at the target, whatever the two are: one below
the other, both the same, or apart from the top on. How the way starts
tells these cases apart (`relativeNames_append`,
`exists_relativeNames_eq_cons`).
-/

set_option autoImplicit false

namespace SchemaTypes.Path

/-! ## Names -/

/-- What can stand between two slashes of a path. -/
def IsName (name : String) : Prop :=
  name ≠ "" ∧ name ≠ "." ∧ '/' ∉ name.toList

/-- Names that lead down from the top, none of them back up. -/
def IsPlace (place : List String) : Prop :=
  ∀ name ∈ place, IsName name ∧ name ≠ ".."

instance (name : String) : Decidable (IsName name) :=
  inferInstanceAs (Decidable (_ ∧ _ ∧ _))

instance (place : List String) : Decidable (IsPlace place) :=
  inferInstanceAs (Decidable (∀ name ∈ place, _))

/-- The place that a text leads to as a path from a directory. -/
def place (directory : List String) (text : String) : List String :=
  (ofText text).resolve directory

/-- A path that is read from a text consists of names: `ofText` splits at
the slashes, and drops what is empty or a single dot. -/
theorem isName_of_mem_ofText {text name : String} (h : name ∈ (ofText text).names) :
    IsName name := by
  simp only [ofText, List.mem_filter, List.mem_map, Bool.not_eq_true', Bool.or_eq_false_iff,
    beq_eq_false_iff_ne] at h
  obtain ⟨⟨part, hpart, rfl⟩, hempty, hdot⟩ := h
  refine ⟨?_, hdot, ?_⟩
  · intro heq
    simp [heq] at hempty
  · rw [String.toList_ofList]
    intro hslash
    have hother := (Proofs.mem_of_mem_splitOnP hpart hslash).2
    simp at hother

/-! ## Following names -/

/-- Two dots lead `follow` to the directory above. -/
theorem follow_up (directory : List String) : follow directory ".." = directory.dropLast := rfl

/-- Any other name leads `follow` one step down. -/
theorem follow_of_ne {name : String} (h : name ≠ "..") (directory : List String) :
    follow directory name = directory ++ [name] := by
  simp [follow, h]

/-- To `follow` names of any kind from a place leads to a place. The
induction is on the names, and two dots only shorten the place. -/
theorem isPlace_foldl_follow {directory names : List String} (hdirectory : IsPlace directory)
    (hnames : ∀ name ∈ names, IsName name) : IsPlace (names.foldl follow directory) := by
  induction names generalizing directory with
  | nil => exact hdirectory
  | cons name names ih =>
    have hrest : ∀ n ∈ names, IsName n := fun n hn => hnames n (List.mem_cons_of_mem _ hn)
    refine ih ?_ hrest
    -- Two dots shorten the place, and another name is added to it.
    by_cases hup : name = ".."
    · rw [hup, follow_up]
      intro n hn
      exact hdirectory n (List.dropLast_subset _ hn)
    · rw [follow_of_ne hup]
      intro n hn
      rcases List.mem_append.mp hn with hn | hn
      · exact hdirectory n hn
      · obtain rfl := List.mem_singleton.mp hn
        exact ⟨hnames _ List.mem_cons_self, hup⟩

/-- Every text leads to a place, whether it starts at the top or not,
because its parts are names (`isName_of_mem_ofText`). -/
theorem isPlace_place {directory : List String} (hdirectory : IsPlace directory) (text : String) :
    IsPlace (place directory text) := by
  have hnames : ∀ name ∈ (ofText text).names, IsName name := fun _ h => isName_of_mem_ofText h
  unfold place resolve
  split
  · exact isPlace_foldl_follow hdirectory hnames
  · exact isPlace_foldl_follow (fun _ h => absurd h List.not_mem_nil) hnames

/-- Names that do not lead up are added, one after the other, by
`follow_of_ne` for each. -/
theorem foldl_follow_of_ne {names : List String} (h : ∀ name ∈ names, name ≠ "..")
    (directory : List String) : names.foldl follow directory = directory ++ names := by
  induction names generalizing directory with
  | nil => simp
  | cons name names ih =>
    rw [List.foldl_cons, follow_of_ne (h name List.mem_cons_self),
      ih fun n hn => h n (List.mem_cons_of_mem _ hn), List.append_assoc, List.singleton_append]

/-- Every step up takes one name off by `follow_up`, and none from the top,
where there is none left. -/
theorem foldl_follow_replicate_up (n : Nat) (directory : List String) :
    (List.replicate n "..").foldl follow directory = directory.take (directory.length - n) := by
  induction n generalizing directory with
  | zero => simp
  | succ n ih =>
    rw [List.replicate_succ, List.foldl_cons, ih, follow_up, List.dropLast_eq_take, List.take_take,
      List.length_take]
    congr 1
    omega

/-! ## Relative names -/

/-- The `relativeNames` go up over what is left of the start behind names
that both share, and down what is left of the target. -/
theorem exists_relativeNames_eq (start target : List String) :
    ∃ shared up down, start = shared ++ up ∧ target = shared ++ down ∧
      relativeNames start target = List.replicate up.length ".." ++ down := by
  fun_induction relativeNames start target with
  | case1 a start b target hab ih =>
    obtain rfl : a = b := by simpa using hab
    obtain ⟨shared, up, down, hstart, htarget, hnames⟩ := ih
    exact ⟨a :: shared, up, down, congrArg (a :: ·) hstart, congrArg (a :: ·) htarget, hnames⟩
  | case2 a start b target hab => exact ⟨[], a :: start, b :: target, rfl, rfl, rfl⟩
  | case3 start target => exact ⟨[], start, target, rfl, rfl, rfl⟩

/-- The names of a target as seen from a start lead from the start to the
target: up to the names that both share (`foldl_follow_replicate_up`), and
down from there (`foldl_follow_of_ne`). -/
theorem foldl_follow_relativeNames {target : List String} (htarget : ∀ name ∈ target, name ≠ "..")
    (start : List String) : (relativeNames start target).foldl follow start = target := by
  obtain ⟨shared, up, down, rfl, rfl, hnames⟩ := exists_relativeNames_eq start target
  have hdown : ∀ name ∈ down, name ≠ ".." :=
    fun name hname => htarget name (List.mem_append_right _ hname)
  have hup : (List.replicate up.length "..").foldl follow (shared ++ up) = shared := by
    rw [foldl_follow_replicate_up, List.length_append, Nat.add_sub_cancel, List.take_left]
  rw [hnames, List.foldl_append, hup, foldl_follow_of_ne hdown]

/-- Relative names are steps up and names of the target, by
`exists_relativeNames_eq`. -/
theorem isName_of_mem_relativeNames {start target : List String} (htarget : IsPlace target)
    {name : String} (h : name ∈ relativeNames start target) : IsName name := by
  obtain ⟨shared, up, down, -, rfl, hnames⟩ := exists_relativeNames_eq start target
  rw [hnames] at h
  rcases List.mem_append.mp h with h | h
  · rw [List.eq_of_mem_replicate h]
    decide
  · exact (htarget name (List.mem_append_right _ h)).1

/-- A target below the start is seen by the names that lead down, without
any step of `relativeNames` up. -/
theorem relativeNames_append (start rest : List String) :
    relativeNames start (start ++ rest) = rest := by
  induction start with
  | nil => simp [relativeNames]
  | cons a start ih => simp [relativeNames, ih]

/-- Any other target is seen by a step up first, as there is something of
the start that is not shared in `exists_relativeNames_eq`. -/
theorem exists_relativeNames_eq_cons {start target : List String} (h : ¬ start <+: target) :
    ∃ rest, relativeNames start target = ".." :: rest := by
  obtain ⟨shared, up, down, rfl, rfl, hnames⟩ := exists_relativeNames_eq start target
  cases up with
  | nil =>
    rw [List.append_nil] at h
    exact absurd (List.prefix_append shared down) h
  | cons a up => exact ⟨_, hnames⟩

end SchemaTypes.Path
