import SchemaTypes.Text.Case

/-!
# `SchemaTypes.Proofs.Text.LowerCase`: lower case is reached in one step

Type names are compared by their lower-case form, so a form must not have
another form of its own. For single letters of ASCII this is plain. In
general it is a property of the case tables: a run moves its characters to
places that no run moves on, and the sequences consist of such places.
`lowerRuns_miss` checks this for each pair of runs, by their bounds and not
by their members.

The capital sigma is the one character whose form hangs on its neighbours.
Both of its forms are in lower case already, so a second pass meets no
capital sigma and looks at no neighbours. `lowerFrom_eq_self` states this
for a text in which every character is its own lower-case form, and
`isLowered_of_mem_lowerFrom` shows that every form is such a text.
-/

set_option autoImplicit false

namespace SchemaTypes.Text

/-- A character that is its own lower-case form. Digits, signs and blanks
are such characters too. -/
def IsLowered (c : Char) : Prop :=
  lowerChar c = [c]

instance (c : Char) : Decidable (IsLowered c) :=
  inferInstanceAs (Decidable (lowerChar c = [c]))

/-! ### Where runs lead -/

/-- The code point that a code point of a run moves to. -/
def CaseRun.move (run : CaseRun) (code : Nat) : Nat :=
  (Int.ofNat code + run.shift).toNat

/-- A run gives an image for the code points between its bounds that its
step meets, and the image is where `move` leads. -/
theorem CaseRun.apply?_eq_some_iff {run : CaseRun} {code image : Nat} :
    run.apply? code = some image ↔
      run.first ≤ code ∧ code ≤ run.last ∧ (code - run.first) % run.step = 0 ∧
        run.move code = image := by
  unfold CaseRun.apply? CaseRun.move
  split
  next h =>
    simp only [Bool.and_eq_true, decide_eq_true_eq, beq_iff_eq] at h
    simp [h]
  next h =>
    simp only [Bool.and_eq_true, decide_eq_true_eq, beq_iff_eq] at h
    simp only [reduceCtorEq, false_iff]
    rintro ⟨hfirst, hlast, hstep, -⟩
    exact h ⟨⟨hfirst, hlast⟩, hstep⟩

/-- Whether a run leads to no code point of another one. The code points
that it leads to lie outside of the other's bounds, or among them at the
places that the other skips. The comparisons are those on numbers, because
they are evaluated for every pair of runs in the table. -/
def CaseRun.misses (run other : CaseRun) : Bool :=
  Nat.blt (run.move run.last) other.first || Nat.blt other.last (run.move run.first) ||
    ((Nat.beq run.step 2 || Nat.beq run.first run.last) && Nat.beq other.step 2 &&
      !Nat.beq (run.move run.first % 2) (other.first % 2))

/-- No run of the table leads into a run of the table. This is the fact
about the data that lower case in one step rests on; it is checked for every
pair of runs by their bounds (`CaseRun.misses`), so that no code point has
to be enumerated. -/
theorem lowerRuns_miss : (lowerRuns.all fun run => lowerRuns.all run.misses) = true := by
  decide +kernel

/-- No run starts so low that its shift leads below zero, where
`CaseRun.move` would stop at zero and no longer keep distances. -/
theorem lowerRuns_nonneg : ∀ run ∈ lowerRuns, 0 ≤ Int.ofNat run.first + run.shift := by
  decide +kernel

/-- The character with a sequence, `0x130`, is not led to either. It is
treated as a run of one code point. -/
theorem lowerRuns_miss_sequence : ∀ run ∈ lowerRuns, run.misses ⟨0x130, 0x130, 1, 0⟩ := by
  decide +kernel

/-- What a run leads to is not moved by a run that it misses in the sense of
`CaseRun.misses`. The images lie between the images of the bounds, and where
both runs skip every second code point they differ in parity. -/
theorem CaseRun.apply?_move_eq_none {run other : CaseRun} {code image : Nat}
    (hmiss : run.misses other) (hstart : 0 ≤ Int.ofNat run.first + run.shift)
    (himage : run.apply? code = some image) : other.apply? image = none := by
  obtain ⟨hfirst, hlast, hstep, rfl⟩ := CaseRun.apply?_eq_some_iff.mp himage
  -- The bounds of the run lead to the bounds of its images, and steps of two keep the parity.
  have hbounds : run.move run.first ≤ run.move code ∧ run.move code ≤ run.move run.last := by
    unfold CaseRun.move
    simp only [Int.ofNat_eq_natCast]
    omega
  have hparity : run.step = 2 ∨ run.first = run.last →
      run.move code % 2 = run.move run.first % 2 := by
    rintro (hstep2 | hone)
    · rw [hstep2] at hstep
      unfold CaseRun.move
      simp only [Int.ofNat_eq_natCast] at hstart ⊢
      omega
    · rw [show code = run.first by omega]
  rw [Option.eq_none_iff_forall_ne_some]
  intro image' himage'
  obtain ⟨hfirst', hlast', hstep', -⟩ := CaseRun.apply?_eq_some_iff.mp himage'
  simp only [CaseRun.misses, Bool.or_eq_true, Bool.and_eq_true, Nat.blt_eq, Nat.beq_eq,
    Bool.not_eq_true', Bool.eq_false_iff, ne_eq] at hmiss
  rcases hmiss with (hbelow | habove) | ⟨⟨heven, heven'⟩, hskip⟩
  · omega
  · omega
  · rw [heven'] at hstep'
    have := hparity heven
    omega

/-! ### The form of a character -/

/-- A character that no run moves, and that has no sequence, is its own
form. Below `0x80` the first run decides. -/
theorem isLowered_of_forall_none {c : Char} (hruns : ∀ run ∈ lowerRuns, run.apply? c.toNat = none)
    (hsequences : lowerSequences.lookup c.toNat = none) : IsLowered c := by
  unfold IsLowered lowerChar
  split
  next =>
    -- The first run of the table is that of the capitals of ASCII, and `Char.toLower` moves
    -- no other character.
    have hcapital : ¬ (0x41 ≤ c.toNat ∧ c.toNat ≤ 0x5A) := by
      rintro ⟨hfirst, hlast⟩
      have hsome : CaseRun.apply? ⟨0x41, 0x5A, 1, 32⟩ c.toNat = some _ :=
        CaseRun.apply?_eq_some_iff.mpr ⟨hfirst, hlast, Nat.mod_one _, rfl⟩
      rw [hruns _ List.mem_cons_self] at hsome
      cases hsome
    rw [show c.toLower = c from dif_neg hcapital]
  next =>
    have hfind : (lowerRuns.findSome? fun run => run.apply? c.toNat) = none :=
      List.findSome?_eq_none_iff.mpr hruns
    simp [mapCase, hsequences, hfind]

/-- What one of `lowerRuns` leads to is its own form. A code that is no
character stands for the null character, which is its own form as well. -/
theorem isLowered_ofNat_of_apply? {run : CaseRun} (hrun : run ∈ lowerRuns) {code image : Nat}
    (himage : run.apply? code = some image) : IsLowered (Char.ofNat image) := by
  by_cases hvalid : image.isValidChar
  · have hnat : (Char.ofNat image).toNat = image := by
      rw [Char.ofNat, dif_pos hvalid]
      rfl
    have hstart := lowerRuns_nonneg run hrun
    refine isLowered_of_forall_none ?_ ?_
    · intro other hother
      have hmiss := List.all_eq_true.mp (List.all_eq_true.mp lowerRuns_miss run hrun) other hother
      rw [hnat]
      exact CaseRun.apply?_move_eq_none hmiss hstart himage
    · -- The one sequence belongs to `0x130`, which is missed as if it were a run.
      have hnone := CaseRun.apply?_move_eq_none (lowerRuns_miss_sequence run hrun) hstart himage
      have hne : image ≠ 0x130 := by
        rintro rfl
        cases hnone
      simp [hnat, lowerSequences, hne]
  · rw [Char.ofNat, dif_neg hvalid]
    decide

/-- Every character of a lower-case form is its own form. The three ways in
which `lowerChar` finds a form are gone through: ASCII by enumeration, the
one sequence by its two characters, and the runs by
`isLowered_ofNat_of_apply?`. -/
theorem isLowered_of_mem_lowerChar {c d : Char} (hd : d ∈ lowerChar c) : IsLowered d := by
  unfold lowerChar at hd
  split at hd
  next hascii =>
    obtain rfl : d = c.toLower := List.mem_singleton.mp hd
    have hall : ∀ n < 0x80, IsLowered (Char.ofNat n).toLower := by decide +kernel
    have hc := hall c.toNat hascii
    rwa [Char.ofNat_toNat] at hc
  next =>
    unfold mapCase at hd
    split at hd
    next codes hcodes =>
      -- There is one sequence in the table: the dotted capital I becomes an i and a dot
      -- above.
      obtain ⟨before, after, hentry, -⟩ := List.lookup_eq_some_iff.mp hcodes
      have hmem : (c.toNat, codes) ∈ lowerSequences := by
        rw [hentry]
        exact List.mem_append_right _ List.mem_cons_self
      obtain ⟨-, rfl⟩ := Prod.mk.inj (List.mem_singleton.mp hmem)
      have hletter : IsLowered (Char.ofNat 0x69) := by decide +kernel
      have hmark : IsLowered (Char.ofNat 0x307) := by decide +kernel
      obtain ⟨⟩ | ⟨_, ⟨⟩ | ⟨_, ⟨⟩⟩⟩ := hd
      · exact hletter
      · exact hmark
    next hsequences =>
      obtain rfl := List.mem_singleton.mp hd
      cases hfind : lowerRuns.findSome? fun run => run.apply? c.toNat with
      | none =>
        rw [Option.getD_none, Char.ofNat_toNat]
        exact isLowered_of_forall_none (List.findSome?_eq_none_iff.mp hfind) hsequences
      | some image =>
        obtain ⟨run, hrun, himage⟩ := List.exists_of_findSome?_eq_some hfind
        exact isLowered_ofNat_of_apply? hrun himage

/-! ### The form of a text -/

/-- A text of characters that are their own forms is its own form, wherever
it stands. There is no capital sigma in it, the only one for which
`lowerFrom` looks around. -/
theorem lowerFrom_eq_self {s : List Char} (h : ∀ c ∈ s, IsLowered c) (before : List Char) :
    lowerFrom before s = s := by
  induction s generalizing before with
  | nil => rfl
  | cons c rest ih =>
    have hc : IsLowered c := h c List.mem_cons_self
    have hsigma : (c == 'Σ') = false := by
      rw [beq_eq_false_iff_ne]
      rintro rfl
      exact absurd hc (by decide)
    unfold lowerFrom
    simp only [hsigma, Bool.false_eq_true, if_false]
    rw [show lowerChar c = [c] from hc, ih fun d hd => h d (List.mem_cons_of_mem _ hd)]
    rfl

/-- Every character of the lower-case form of a text is its own form. A
capital sigma becomes one of the two small ones, and all other characters
are covered by `isLowered_of_mem_lowerChar`. -/
theorem isLowered_of_mem_lowerFrom {s : List Char} {d : Char} {before : List Char}
    (hd : d ∈ lowerFrom before s) : IsLowered d := by
  induction s generalizing before with
  | nil => nomatch hd
  | cons c rest ih =>
    unfold lowerFrom at hd
    rcases List.mem_append.mp hd with hform | hrest
    · split at hform
      · obtain rfl := List.mem_singleton.mp hform
        split <;> decide
      · exact isLowered_of_mem_lowerChar hform
    · exact ih hrest

end SchemaTypes.Text
