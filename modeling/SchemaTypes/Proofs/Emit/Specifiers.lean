import SchemaTypes.Emit.Barrel
import SchemaTypes.Proofs.Emit.Blocks
import SchemaTypes.Proofs.File.RelativePaths

/-!
# `SchemaTypes.Proofs.Emit.Specifiers`: where the specifiers of a barrel lead

A barrel names a module by the way from its own directory to the module,
without the suffix of the file. Two things can go wrong with such a text:
it may lead somewhere else, or it may not be read as a path at all, because
what starts with neither `./` nor `../` is the name of a package.

`specifier_eq` gives the text as names with slashes between them: the way,
its last name cut (`cutNames`), behind a dot of its own (`leadingDot`).
When the text is read, the dot is dropped, and the suffix that was cut off
can be put back behind the text (`moduleName_append_moduleSuffix`). What is
read is therefore the way itself (`ofText_fullSpecifier`), and
`specifier_leads_to_module` follows from where that way leads.

The dot is left out as soon as the first name starts with one, since the
two dots of a step up do. A hidden directory or file starts with a dot too.
`relative_import_iff` says that such a name, at the start of the way, is
the only reason for a specifier to be read as a package.
-/

set_option autoImplicit false

namespace SchemaTypes.Text

/-- What `afterLast` finds behind the last mark of a text, if the mark is
known to be the last. -/
theorem afterLast_append {mark : Char} {back : List Char} (hback : mark ∉ back)
    (front : List Char) : afterLast mark (front ++ mark :: back) = back := by
  have hrun : (back.reverse ++ mark :: front.reverse).takeWhile (· != mark) = back.reverse := by
    rw [Proofs.takeWhile_bne_append (by simpa using hback)]
    simp
  simp [afterLast, hrun]

/-- What follows the last mark has the mark in front of it, unless it is the
whole text. `splitSuffix_eq` reads the stem of a name off this. -/
theorem eq_append_afterLast (mark : Char) (s : List Char) :
    afterLast mark s = s ∨ ∃ front, s = front ++ mark :: afterLast mark s := by
  rcases Proofs.takeWhile_bne_cases mark s.reverse with hwhole | ⟨rest, hrest⟩
  · left
    rw [afterLast, hwhole, List.reverse_reverse]
  · right
    refine ⟨rest.reverse, ?_⟩
    have hreversed := congrArg List.reverse hrest
    simpa [afterLast] using hreversed

/-- Joined parts start like the first one, unless that is empty. A path is
absolute by its first character, so this is what `ofText_joinWith` has to
know. -/
theorem head?_joinWith_cons (separator : String) {first : String} (hfirst : first ≠ "")
    (rest : List String) :
    (joinWith separator (first :: rest)).toList.head? = first.toList.head? := by
  obtain ⟨back, hback⟩ := exists_joinWith_cons separator first rest
  obtain ⟨c, s, hs⟩ : ∃ c s, first.toList = c :: s :=
    List.exists_cons_of_ne_nil (by simpa using hfirst)
  simp [hback, hs]

end SchemaTypes.Text

namespace SchemaTypes.Path

/-! ## Suffixes -/

/-- A suffix is split off by `splitSuffix` at the last dot, if something
stands on both sides of it. -/
theorem splitSuffix_append {stem suffix : List Char} (hstem : stem ≠ []) (hsuffix : suffix ≠ [])
    (hdot : '.' ∉ suffix) : splitSuffix (stem ++ '.' :: suffix) = (stem, '.' :: suffix) := by
  have hlength : (stem ++ '.' :: suffix).length - suffix.length - 1 = stem.length := by
    simp only [List.length_append, List.length_cons]
    omega
  simp only [splitSuffix, Text.afterLast_append hdot, hlength, List.take_left]
  rw [if_neg]
  simp [hstem, hsuffix]
  omega

/-- A suffix that `splitSuffix` splits off stands behind a stem, which is
not empty: a dot at the start of a name begins no suffix. -/
theorem splitSuffix_eq {name stem suffix : List Char} (h : splitSuffix name = (stem, suffix))
    (hsuffix : suffix ≠ []) : stem ≠ [] ∧ name = stem ++ suffix := by
  simp only [splitSuffix] at h
  split at h
  · cases h
    exact absurd rfl hsuffix
  rename_i hcut
  cases h
  simp only [Bool.or_eq_true, List.isEmpty_iff, beq_iff_eq, not_or] at hcut
  obtain ⟨⟨hstem, -⟩, hlength⟩ := hcut
  refine ⟨hstem, ?_⟩
  -- A name without a dot is what follows its last dot, and is not cut.
  rcases Text.eq_append_afterLast '.' name with heq | ⟨front, hfront⟩
  · exact absurd (congrArg List.length heq) hlength
  · have htake : name.length - (Text.afterLast '.' name).length - 1 = front.length := by
      have := congrArg List.length hfront
      simp only [List.length_append, List.length_cons] at this
      omega
    rw [htake]
    generalize Text.afterLast '.' name = after at hfront ⊢
    rw [hfront, List.take_left]

/-! ## Texts of relative paths -/

/-- A path that does not start with a slash is relative: its `rootOf` is
empty. -/
theorem rootOf_eq_empty {text : List Char} (h : text.head? ≠ some '/') : rootOf text = "" := by
  cases text with
  | nil => rfl
  | cons c text =>
    have hc : c ≠ '/' := by simpa using h
    simp [rootOf, hc]

/-- Names with slashes between them are read back by `ofText`, apart from
those that a path does not keep: empty ones and single dots. -/
theorem ofText_joinWith {first : String} {rest : List String} (hfirst : first ≠ "")
    (hslash : ∀ name ∈ first :: rest, '/' ∉ name.toList) :
    ofText (Text.joinWith "/" (first :: rest)) =
      { names := (first :: rest).filter fun name => !(name.isEmpty || name == ".") } := by
  have hsplit : (Text.joinWith "/" (first :: rest)).toList.splitOn '/' =
      (first :: rest).map String.toList := by
    show (String.ofList (List.intercalate ['/'] _)).toList.splitOn '/' = _
    rw [String.toList_ofList]
    apply List.splitOn_intercalate
    · simpa using hslash
    · simp
  have hroot : rootOf (Text.joinWith "/" (first :: rest)).toList = "" := by
    apply rootOf_eq_empty
    rw [Text.head?_joinWith_cons "/" hfirst]
    intro hhead
    exact hslash first List.mem_cons_self (List.mem_of_head? hhead)
  simp [ofText, hsplit, hroot, Function.comp_def]

end SchemaTypes.Path

namespace SchemaTypes.Emit

open SchemaTypes.Path (IsName IsPlace place)

/-! ## Names without the suffix of a module -/

/-- Whether a name ends with a suffix and has something in front of it. -/
def hasSuffix (name suffix : String) : Bool :=
  suffix.toList.isSuffixOf name.toList && suffix != name

/-- A name has a suffix, in the sense of `hasSuffix`, exactly if something
stands in front of it. -/
theorem hasSuffix_iff {name suffix : String} :
    hasSuffix name suffix = true ↔ ∃ stem ≠ "", name = stem ++ suffix := by
  simp only [hasSuffix, Bool.and_eq_true, List.isSuffixOf_iff_suffix, bne_iff_ne]
  constructor
  · rintro ⟨⟨stem, hstem⟩, hne⟩
    refine ⟨String.ofList stem, ?_, ?_⟩
    · intro hempty
      obtain rfl : stem = [] := by simpa using hempty
      exact hne (String.toList_injective hstem)
    · apply String.toList_injective
      simp [hstem]
  · rintro ⟨stem, hstem, rfl⟩
    refine ⟨⟨stem.toList, by simp⟩, ?_⟩
    intro heq
    -- A name that is its own suffix has nothing in front of it.
    have hlength := congrArg String.length heq
    have hpos : stem.length ≠ 0 := by simpa using hstem
    simp only [String.length_append] at hlength
    omega

/-- The suffix of a TypeScript file that a name has; empty if it has
none. -/
def moduleSuffix (name : String) : String :=
  (moduleSuffixes.find? (hasSuffix name)).getD ""

/-- The `moduleName` of a file is its name without the suffix, if that is
one of the `moduleSuffixes`. -/
theorem moduleName_append {stem suffix : String} (hstem : stem ≠ "")
    (hsuffix : suffix ∈ moduleSuffixes) : moduleName (stem ++ suffix) = stem := by
  -- Both suffixes are a dot and letters.
  obtain ⟨letters, hletters, hne, hdot⟩ : ∃ letters : List Char,
      suffix.toList = '.' :: letters ∧ letters ≠ [] ∧ '.' ∉ letters := by
    simp only [moduleSuffixes, List.mem_cons, List.not_mem_nil, or_false] at hsuffix
    rcases hsuffix with rfl | rfl
    · exact ⟨['t', 's'], by decide, by decide, by decide⟩
    · exact ⟨['t', 's', 'x'], by decide, by decide, by decide⟩
  have hsplit : Path.splitSuffix (stem ++ suffix).toList = (stem.toList, suffix.toList) := by
    rw [String.toList_append, hletters]
    exact Path.splitSuffix_append (by simpa using hstem) hne hdot
  simp only [moduleName, hsplit]
  simp [hsuffix]

/-- A name without the suffix of a module is kept by `moduleName` as it is,
also if it has another suffix. -/
theorem moduleName_of_forall_ne {name : String}
    (h : ∀ stem ≠ "", ∀ suffix ∈ moduleSuffixes, name ≠ stem ++ suffix) :
    moduleName name = name := by
  cases hsplit : Path.splitSuffix name.toList with
  | mk stem suffix =>
    simp only [moduleName, hsplit]
    split
    · rename_i hsuffix
      have hmem : String.ofList suffix ∈ moduleSuffixes := by simpa using hsuffix
      have hne : suffix ≠ [] := by
        rintro rfl
        exact absurd hmem (by decide)
      -- A suffix of a module that was split off has a stem, which was excluded.
      obtain ⟨hstem, hname⟩ := Path.splitSuffix_eq hsplit hne
      refine absurd ?_ (h (String.ofList stem) (by simpa using hstem) _ hmem)
      apply String.toList_injective
      simp [hname]
    · rfl

/-- The `moduleName` and the `moduleSuffix` are together the name of the
file, and what is left of a name is not empty. So nothing is lost when the
suffix is dropped. -/
theorem moduleName_append_moduleSuffix {name : String} (hname : name ≠ "") :
    moduleName name ++ moduleSuffix name = name ∧ moduleName name ≠ "" := by
  unfold moduleSuffix
  -- Without the suffix of a module the name is kept, and with one it is cut there.
  cases hfind : moduleSuffixes.find? (hasSuffix name) with
  | none =>
    have hnone : moduleName name = name := by
      apply moduleName_of_forall_ne
      intro stem hstem suffix hsuffix heq
      exact List.find?_eq_none.mp hfind suffix hsuffix (hasSuffix_iff.mpr ⟨stem, hstem, heq⟩)
    rw [hnone]
    exact ⟨String.append_empty, hname⟩
  | some suffix =>
    obtain ⟨stem, hstem, hstemName⟩ := hasSuffix_iff.mp (List.find?_some hfind)
    have hsome : moduleName name = stem := by
      rw [hstemName]
      exact moduleName_append hstem (List.mem_of_find?_eq_some hfind)
    rw [hsome]
    exact ⟨hstemName.symm, hstem⟩

/-! ## The spelling of a specifier -/

/-- Names of which the last one is without the suffix of a module. -/
def cutNames (names : List String) : List String :=
  match names.getLast? with
  | some name => names.dropLast ++ [moduleName name]
  | none => []

/-- The suffix that the last of some names lacks. -/
def droppedSuffix (names : List String) : String :=
  (names.getLast?.map moduleSuffix).getD ""

/-- The dot in front of a specifier; there is none if the first name starts
with a dot. -/
def leadingDot : List String → List String
  | [] => ["."]
  | first :: _ => if first.toList.head? = some '.' then [] else ["."]

/-- In front of a specifier `leadingDot` puts one dot or nothing. -/
theorem leadingDot_cases (names : List String) :
    leadingDot names = [] ∨ leadingDot names = ["."] := by
  unfold leadingDot
  split
  · exact Or.inr rfl
  · split
    · exact Or.inl rfl
    · exact Or.inr rfl

/-- Only the last name loses its suffix in `cutNames`. -/
theorem cutNames_concat (names : List String) (name : String) :
    cutNames (names ++ [name]) = names ++ [moduleName name] := by
  simp [cutNames]

/-- The suffix that is dropped, `droppedSuffix`, is that of the last
name. -/
theorem droppedSuffix_concat (names : List String) (name : String) :
    droppedSuffix (names ++ [name]) = moduleSuffix name := by
  simp [droppedSuffix]

/-- Without its suffix a name is still not empty and without slashes. It may
be a single dot then, so it is not always a name in the sense of
`IsName`. -/
theorem of_mem_cutNames {names : List String} (hnames : ∀ name ∈ names, IsName name)
    {name : String} (h : name ∈ cutNames names) : name ≠ "" ∧ '/' ∉ name.toList := by
  rcases List.eq_nil_or_concat names with rfl | ⟨front, last, rfl⟩
  · cases h
  rw [List.concat_eq_append] at hnames h
  rw [cutNames_concat] at h
  rcases List.mem_append.mp h with h | h
  · have hname := hnames name (List.mem_append_left _ h)
    exact ⟨hname.1, hname.2.2⟩
  · have hlast := hnames last (by simp)
    obtain ⟨happend, hne⟩ := moduleName_append_moduleSuffix hlast.1
    rw [List.mem_singleton.mp h]
    refine ⟨hne, fun hslash => hlast.2.2 ?_⟩
    rw [← happend, String.toList_append]
    exact List.mem_append_left _ hslash

/-- A specifier consists of names with slashes between them: the way from
the barrel to the module, with a dot in front of it unless its first name
starts with one (`leadingDot`). -/
theorem specifier_eq {directory : List String} {barrel path : Path}
    (hnames : ∀ name ∈ (relativePath directory barrel path).names, IsName name) :
    specifier directory barrel path = Text.joinWith "/"
      (leadingDot (cutNames (relativePath directory barrel path).names) ++
        cutNames (relativePath directory barrel path).names) := by
  -- A way without names is written as a dot, as the text of `cutNames` is.
  have hspecifier : specifier directory barrel path =
      (fun text : String => if text.toList.head? == some '.' then text else "./" ++ text)
        (Path.text { names := cutNames (relativePath directory barrel path).names }) := by
    cases hlast : (relativePath directory barrel path).names.getLast? with
    | none =>
      have hempty := List.getLast?_eq_none_iff.mp hlast
      have hrelative : relativePath directory barrel path = { names := [] } :=
        congrArg (fun names => ({ names := names } : Path)) hempty
      simp only [specifier, hrelative]
      rfl
    | some name => simp only [specifier, cutNames, hlast]
  rw [hspecifier]
  cases hcut : cutNames (relativePath directory barrel path).names with
  | nil => decide
  | cons first rest =>
    have hfirst : first ≠ "" := (of_mem_cutNames hnames (hcut ▸ List.mem_cons_self)).1
    have htext : Path.text { names := first :: rest } = Text.joinWith "/" (first :: rest) := by
      simp [Path.text]
    simp only [htext, Text.head?_joinWith_cons "/" hfirst, beq_iff_eq, leadingDot]
    by_cases hdot : first.toList.head? = some '.'
    · rw [if_pos hdot, if_pos hdot, List.nil_append]
    · rw [if_neg hdot, if_neg hdot, List.singleton_append,
        Text.joinWith_cons "/" "." (List.cons_ne_nil _ _)]
      rfl

/-- The specifier of a module with the suffix that it lacks. -/
def fullSpecifier (directory : List String) (barrel path : Path) : String :=
  specifier directory barrel path ++ droppedSuffix (relativePath directory barrel path).names

/-- With the suffix that it lacks, a specifier is read as the way from the
barrel to the module. The dot in front of it is not kept by a path, as
`ofText_joinWith` says. -/
theorem ofText_fullSpecifier {directory : List String} {barrel path : Path}
    (hnames : ∀ name ∈ (relativePath directory barrel path).names, IsName name) :
    Path.ofText (fullSpecifier directory barrel path) = relativePath directory barrel path := by
  rw [fullSpecifier, specifier_eq hnames]
  show Path.ofText _ = { names := (relativePath directory barrel path).names }
  generalize (relativePath directory barrel path).names = names at hnames
  rcases List.eq_nil_or_concat names with rfl | ⟨front, last, rfl⟩
  · decide
  rw [List.concat_eq_append] at hnames ⊢
  have hlast := (moduleName_append_moduleSuffix (hnames last (by simp)).1).1
  have hkept : (front ++ [last]).filter (fun name => !(name.isEmpty || name == ".")) =
      front ++ [last] := by
    rw [List.filter_eq_self]
    intro name hname
    obtain ⟨hempty, hdot, -⟩ := hnames name hname
    simp [hempty, hdot]
  have hslash : ∀ name ∈ front ++ [last], '/' ∉ name.toList :=
    fun name hname => (hnames name hname).2.2
  rw [cutNames_concat, droppedSuffix_concat, ← List.append_assoc, ← Text.joinWith_concat_append,
    hlast, List.append_assoc]
  -- A dot in front is dropped when the text is read.
  rcases leadingDot_cases (front ++ [moduleName last]) with hmark | hmark
  · rw [hmark, List.nil_append]
    obtain ⟨first, rest, hcons⟩ := List.exists_cons_of_ne_nil
      (List.append_ne_nil_of_right_ne_nil front (List.cons_ne_nil last []))
    rw [hcons] at hkept hslash hnames ⊢
    rw [Path.ofText_joinWith (hnames first List.mem_cons_self).1 hslash, hkept]
  · rw [hmark, List.singleton_append, Path.ofText_joinWith (by decide)]
    · rw [List.filter_cons_of_neg (by decide), hkept]
    · intro name hname
      rcases List.mem_cons.mp hname with rfl | hname
      · decide
      · exact hslash name hname

/-- The way from a barrel to a module that is read from a text consists of
names, since both places do (`isName_of_mem_relativeNames`). -/
theorem isName_of_mem_relativePath {directory : List String} (hdirectory : IsPlace directory)
    (barrel : Path) (path : String) :
    ∀ name ∈ (relativePath directory barrel (.ofText path)).names, IsName name := by
  intro name hname
  exact Path.isName_of_mem_relativeNames (Path.isPlace_place hdirectory path) hname

/-- **A specifier leads to its module.** Whatever the working directory,
the barrel and the path of the module are, the specifier with the suffix
that was dropped is a relative path, and followed from the directory of the
barrel it leads to the place that the path of the module leads to. -/
theorem specifier_leads_to_module {directory : List String} (hdirectory : IsPlace directory)
    (barrel : Path) (path : String) :
    (Path.ofText (fullSpecifier directory barrel (.ofText path))).root = "" ∧
      place (barrel.parent.resolve directory) (fullSpecifier directory barrel (.ofText path)) =
        place directory path := by
  have htext := ofText_fullSpecifier (isName_of_mem_relativePath hdirectory barrel path)
  have htarget := Path.isPlace_place hdirectory path
  constructor
  · rw [htext]
    rfl
  · rw [place, htext]
    show (Path.relativeNames (barrel.parent.resolve directory) (place directory path)).foldl
      Path.follow (barrel.parent.resolve directory) = place directory path
    exact Path.foldl_follow_relativeNames (fun name hname => (htarget name hname).2) _

/-- A module outside of the directory of the barrel, by a path that goes up
and down. Its name keeps the dot that does not start a suffix. -/
theorem specifier_leads_to_module_outside :
    IsPlace ["work", "cwd"] ∧
    specifier ["work", "cwd"] (.ofText "out/gen/index.ts") (.ofText "out/../../lib/.types.tsx") =
      "../../../lib/.types" ∧
    place ["work", "cwd", "out", "gen"] "../../../lib/.types.tsx" =
      ["work", "lib", ".types.tsx"] := by
  have hdirectory : IsPlace ["work", "cwd"] := by decide
  have hleads := (specifier_leads_to_module hdirectory (.ofText "out/gen/index.ts")
    "out/../../lib/.types.tsx").2
  exact ⟨hdirectory, by decide, hleads⟩

/-! ## Relative imports -/

/-- A specifier that is read as a path from the module it stands in, and
not as the name of a package. -/
def IsRelativeImport (specifier : String) : Prop :=
  specifier = "." ∨ specifier = ".." ∨ "./".toList <+: specifier.toList ∨
    "../".toList <+: specifier.toList

instance (specifier : String) : Decidable (IsRelativeImport specifier) :=
  inferInstanceAs (Decidable (_ ∨ _ ∨ _ ∨ _))

/-- What stands in front of the first slash decides: a specifier is
relative, by `IsRelativeImport`, if that is one dot or two. -/
theorem isRelativeImport_iff_takeWhile (specifier : String) :
    IsRelativeImport specifier ↔
      specifier.toList.takeWhile (· != '/') = ['.'] ∨
        specifier.toList.takeWhile (· != '/') = ['.', '.'] := by
  constructor
  · rintro (rfl | rfl | ⟨rest, hrest⟩ | ⟨rest, hrest⟩)
    · decide
    · decide
    · left
      rw [← hrest]
      rfl
    · right
      rw [← hrest]
      rfl
  · intro h
    -- Either there is no slash, and the dots are all, or they stand in front of the first
    -- one.
    rcases Proofs.takeWhile_bne_cases '/' specifier.toList with hwhole | ⟨rest, hrest⟩
    · rw [hwhole] at h
      rcases h with h | h
      · exact Or.inl (String.toList_injective h)
      · exact Or.inr (Or.inl (String.toList_injective h))
    · rcases h with h | h
      · rw [h] at hrest
        exact Or.inr (Or.inr (Or.inl ⟨rest, hrest.symm⟩))
      · rw [h] at hrest
        exact Or.inr (Or.inr (Or.inr ⟨rest, hrest.symm⟩))

/-- Of a specifier that is made of names, the first name decides, because it
is all that stands in front of the first slash
(`isRelativeImport_iff_takeWhile`). -/
theorem isRelativeImport_joinWith_iff {first : String} (hfirst : '/' ∉ first.toList)
    (rest : List String) :
    IsRelativeImport (Text.joinWith "/" (first :: rest)) ↔ first = "." ∨ first = ".." := by
  -- The first name has no slash, so it is what stands in front of the first one.
  have hfront : (Text.joinWith "/" (first :: rest)).toList.takeWhile (· != '/') =
      first.toList := by
    cases rest with
    | nil =>
      rw [Text.joinWith_singleton, ← List.append_nil first.toList,
        Proofs.takeWhile_bne_append hfirst]
      rfl
    | cons next rest =>
      rw [Text.joinWith_cons "/" first (List.cons_ne_nil _ _), String.append_assoc,
        String.toList_append, Proofs.takeWhile_bne_append hfirst]
      simp
  have hdot : first.toList = ['.'] ↔ first = "." := @String.toList_inj first "."
  have hdots : first.toList = ['.', '.'] ↔ first = ".." := @String.toList_inj first ".."
  rw [isRelativeImport_iff_takeWhile, hfront, hdot, hdots]

/-- The first name of the way to a module decides, once the suffix is
dropped. A first name that starts with a dot gets none in front of it
(`leadingDot`), so it must consist of dots. -/
theorem isRelativeImport_specifier_iff {directory : List String} {barrel path : Path}
    (hnames : ∀ name ∈ (relativePath directory barrel path).names, IsName name) :
    IsRelativeImport (specifier directory barrel path) ↔
      ∀ first ∈ (cutNames (relativePath directory barrel path).names).head?,
        first.toList.head? = some '.' → first = "." ∨ first = ".." := by
  rw [specifier_eq hnames]
  cases hcut : cutNames (relativePath directory barrel path).names with
  | nil => simp [leadingDot, isRelativeImport_joinWith_iff (show '/' ∉ ".".toList by decide)]
  | cons first rest =>
    have hslash : '/' ∉ first.toList := (of_mem_cutNames hnames (hcut ▸ List.mem_cons_self)).2
    by_cases hdot : first.toList.head? = some '.'
    · simp [leadingDot, hdot, isRelativeImport_joinWith_iff hslash]
    · simp [leadingDot, hdot, isRelativeImport_joinWith_iff (show '/' ∉ ".".toList by decide)]

/-- The first name loses its suffix in `cutNames` only if it is also the
last. -/
theorem head?_cutNames_cons (first : String) (rest : List String) :
    (cutNames (first :: rest)).head? = some (if rest = [] then moduleName first else first) := by
  rcases List.eq_nil_or_concat rest with rfl | ⟨front, last, rfl⟩
  · simp [cutNames]
  · rw [List.concat_eq_append, ← List.cons_append, cutNames_concat]
    simp

/-- The names of files of which nothing but dots is left without the
suffix. -/
def dottedFiles : List String := ["..ts", "..tsx", "...ts", "...tsx"]

/-- The files of which only dots are left without the suffix are the four
that `dottedFiles` lists. -/
theorem moduleName_eq_dots_iff {name : String} (hname : IsName name) (hup : name ≠ "..") :
    moduleName name = "." ∨ moduleName name = ".." ↔ name ∈ dottedFiles := by
  constructor
  · intro h
    have happend := (moduleName_append_moduleSuffix hname.1).1
    have hsuffix : moduleSuffix name = "" ∨ moduleSuffix name ∈ moduleSuffixes := by
      unfold moduleSuffix
      cases hfind : moduleSuffixes.find? (hasSuffix name) with
      | none => exact Or.inl rfl
      | some suffix => exact Or.inr (List.mem_of_find?_eq_some hfind)
    simp only [moduleSuffixes, List.mem_cons, List.not_mem_nil, or_false] at hsuffix
    -- One or two dots, with no suffix or one of the two: without one the name would be
    -- excluded.
    rcases h with h | h <;> rcases hsuffix with hsuffix | hsuffix | hsuffix <;>
      rw [h, hsuffix] at happend
    · exact absurd happend.symm hname.2.1
    · exact happend ▸ by decide
    · exact happend ▸ by decide
    · exact absurd happend.symm hup
    · exact happend ▸ by decide
    · exact happend ▸ by decide
  · intro h
    simp only [dottedFiles, List.mem_cons, List.not_mem_nil, or_false] at h
    rcases h with rfl | rfl | rfl | rfl <;> decide

/-- The way from a directory down to a place starts with a name that starts
with a dot, other than a file of which only dots are left. -/
def StartsHidden (start target : List String) : Prop :=
  ∃ first rest, target = start ++ first :: rest ∧ first.toList.head? = some '.' ∧
    ¬ (rest = [] ∧ first ∈ dottedFiles)

/-- Dropping a suffix leaves the first character of a name alone, as
something is left of it (`moduleName_append_moduleSuffix`). -/
theorem head?_moduleName {name : String} (hname : name ≠ "") :
    (moduleName name).toList.head? = name.toList.head? := by
  obtain ⟨happend, hne⟩ := moduleName_append_moduleSuffix hname
  obtain ⟨c, s, hs⟩ : ∃ c s, (moduleName name).toList = c :: s :=
    List.exists_cons_of_ne_nil (by simpa using hne)
  rw [← happend, String.toList_append, happend, hs]
  rfl

/-- How the way from one place to another starts, seen from its first name
without the suffix of a module. This is `StartsHidden` in terms of that
name. -/
theorem forall_head?_cutNames_iff {target : List String} (htarget : IsPlace target)
    (start : List String) :
    (∀ first ∈ (cutNames (Path.relativeNames start target)).head?,
        first.toList.head? = some '.' → first = "." ∨ first = "..") ↔
      ¬ StartsHidden start target := by
  by_cases hbelow : start <+: target
  · obtain ⟨names, rfl⟩ := hbelow
    rw [Path.relativeNames_append]
    cases names with
    | nil => simp [cutNames, StartsHidden]
    | cons first rest =>
      obtain ⟨hname, hup⟩ := htarget first (by simp)
      have hhidden : StartsHidden start (start ++ first :: rest) ↔
          first.toList.head? = some '.' ∧ ¬ (rest = [] ∧ first ∈ dottedFiles) := by
        constructor
        · rintro ⟨first', rest', heq, h⟩
          cases List.append_cancel_left heq
          exact h
        · intro h
          exact ⟨first, rest, rfl, h⟩
      rw [head?_cutNames_cons, hhidden]
      -- A suffix is dropped from the first name only if it is also the last.
      by_cases hrest : rest = []
      · simp [hrest, head?_moduleName hname.1, moduleName_eq_dots_iff hname hup]
      · simp [hrest, hname.2.1, hup]
  · -- The way starts with a step up, and a way down starts with none.
    obtain ⟨rest, hup⟩ := Path.exists_relativeNames_eq_cons hbelow
    have hnot : ¬ StartsHidden start target := by
      rintro ⟨first, names, rfl, -⟩
      exact hbelow (List.prefix_append start _)
    have hdots : moduleName ".." = ".." := by decide
    rw [hup, head?_cutNames_cons, hdots, ite_self]
    simp [hnot]

/-- The line that exports a module. -/
def exportLine (specifier : String) : String :=
  "export * from \"" ++ specifier ++ "\";"

/-- **Specifiers are relative imports unless a hidden name comes first.**
The specifier of a module is read as a relative import exactly if the way
from the directory of the barrel does not start with a hidden name. So the
lines of a barrel are all relative imports exactly if this holds of every
module that it exports. -/
theorem relative_import_iff {directory : List String} (hdirectory : IsPlace directory)
    (barrel : Path) :
    (∀ path : String, IsRelativeImport (specifier directory barrel (.ofText path)) ↔
      ¬ StartsHidden (barrel.parent.resolve directory) (place directory path)) ∧
    ∀ paths : List String, ∃ specifiers : List String,
      barrelText directory barrel (paths.map .ofText) =
        joinText (specifiers.map exportLine) ++ "\n" ∧
      ((∀ s ∈ specifiers, IsRelativeImport s) ↔
        ∀ path ∈ paths, Path.ofText path ≠ barrel →
          ¬ StartsHidden (barrel.parent.resolve directory) (place directory path)) := by
  have hspecifier : ∀ path : String,
      IsRelativeImport (specifier directory barrel (.ofText path)) ↔
        ¬ StartsHidden (barrel.parent.resolve directory) (place directory path) := by
    intro path
    have htarget := Path.isPlace_place hdirectory path
    rw [isRelativeImport_specifier_iff (isName_of_mem_relativePath hdirectory barrel path)]
    exact forall_head?_cutNames_iff htarget _
  refine ⟨hspecifier, fun paths => ?_⟩
  refine ⟨((paths.map Path.ofText).filter (· != barrel)).map (specifier directory barrel), ?_, ?_⟩
  · rw [List.map_map]
    rfl
  · simp only [List.forall_mem_map, List.mem_filter, and_imp, bne_iff_ne, hspecifier]

/-- A module in a hidden directory beside the barrel is imported like a
package. -/
theorem relative_import_iff_hidden :
    IsPlace ["work", "cwd"] ∧
    StartsHidden ["work", "cwd", "out"] ["work", "cwd", "out", ".gen", "types.ts"] ∧
    specifier ["work", "cwd"] (.ofText "out/index.ts") (.ofText "out/.gen/types.ts") =
      ".gen/types" ∧
    ¬ IsRelativeImport ".gen/types" := by
  have hdirectory : IsPlace ["work", "cwd"] := by decide
  have hhidden : StartsHidden ["work", "cwd", "out"] ["work", "cwd", "out", ".gen", "types.ts"] :=
    ⟨".gen", ["types.ts"], rfl, by decide, by decide⟩
  have hspecifier : specifier ["work", "cwd"] (.ofText "out/index.ts")
      (.ofText "out/.gen/types.ts") = ".gen/types" := by decide
  have hiff := (relative_import_iff hdirectory (.ofText "out/index.ts")).1 "out/.gen/types.ts"
  refine ⟨hdirectory, hhidden, hspecifier, fun h => ?_⟩
  exact hiff.mp (hspecifier ▸ h) hhidden

end SchemaTypes.Emit
