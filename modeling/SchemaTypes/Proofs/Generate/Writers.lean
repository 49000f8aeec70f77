import SchemaTypes.Proofs.File.Entries
import SchemaTypes.Proofs.Generate.Session

/-!
# `SchemaTypes.Proofs.Generate.Writers`: what holds while artifacts are written

Three invariants tell what holds at every moment of every session, whatever
the order of turns. The file system only grows, and whatever is made stands
inside what was made or found before (`Grown`). A writer has written the
first of its paths, and the directories on their ways are there
(`Writer.Sound`). And every place is as it was, holds what a writer has
written there, or is a directory on the way of some path (`Accounted`).

One lemma says what a turn does to the files (`Writer.Advance.effect`), and
the invariants are kept by every turn because of it.
-/

set_option autoImplicit false

namespace SchemaTypes

open FileSystem (holdsNull fits Grows)
open SchemaTypes.Path (follow passed)

/-! ## The file system grows -/

/-- Everything that leads to a place is there, or was a directory in the
first place. -/
def Supported (origin files : FileSystem) (place : List String) : Prop :=
  ∀ x, x <+: place → origin.isDirectory x = true ∨ files.entry? x ≠ none

/-- A file system that has grown from another, such that whatever was added
is supported. -/
structure Grown (origin files : FileSystem) : Prop extends Grows origin files where
  supported : ∀ {place}, files.entry? place ≠ none → Supported origin files place

/-- What leads to the next place is that place itself, or leads to the one
before it already. With two dots `follow` leads back along the same way. -/
theorem prefix_follow {x place : List String} {name : String} (h : x <+: follow place name) :
    x = follow place name ∨ x <+: place := by
  unfold follow at h ⊢
  by_cases hup : (name == "..") = true
  · rw [if_pos hup] at h
    exact .inr (h.trans (List.dropLast_prefix place))
  · rw [if_neg hup] at h ⊢
    exact List.prefix_concat_iff.mp h

section

variable {origin files files' : FileSystem} {place : List String} {entry : Entry} {name : String}

/-- A place that is `Supported` stays so when the file system grows. -/
theorem Supported.grows (h : Supported origin files place) (hgrows : Grows files files') :
    Supported origin files' place := by
  intro x hx
  exact (h x hx).imp id hgrows.entry

/-- A place is supported by what leads to the working directory, or to an
entry, of the first file system: each place on the way has an entry, which
`Grows` keeps, or was a directory without one. -/
theorem supported_of_prefix (hgrows : Grows origin files) {x : List String}
    (hx : x = origin.working ∨ origin.entry? x ≠ none) (hplace : place <+: x) :
    Supported origin files place := by
  intro y hy
  by_cases hnone : origin.entry? y = none
  · exact .inl (FileSystem.isDirectory_of_prefix hnone hx (hy.trans hplace))
  · exact .inr (hgrows.entry hnone)

/-- A file system in which nothing was done has grown from itself. Every
entry is supported, because it makes directories of the places above it
(`supported_of_prefix`). -/
theorem Grown.refl (origin : FileSystem) : Grown origin origin :=
  ⟨Grows.refl origin, fun hentry =>
    supported_of_prefix (Grows.refl origin) (.inr hentry) (List.prefix_refl _)⟩

/-- A path starts from the same place, `FileSystem.origin`, at every moment,
because the working directory is never moved. -/
theorem Grown.origin_eq (h : Grown origin files) (p : Path) :
    files.origin p = origin.origin p := by
  unfold FileSystem.origin
  rw [h.working]

/-- A path starts from a place that is `Supported`: the working directory or
the top. -/
theorem Grown.supported_origin (h : Grown origin files) (p : Path) :
    Supported origin files (origin.origin p) := by
  unfold FileSystem.origin
  split
  · exact supported_of_prefix h.toGrows (.inl rfl) (List.prefix_refl _)
  · exact supported_of_prefix h.toGrows (.inl rfl) (List.nil_prefix)

/-- A directory is `Supported`, whether it has an entry of its own or is one
only because of what stands inside it. -/
theorem Grown.supported_directory (h : Grown origin files)
    (hdirectory : files.isDirectory place = true) : Supported origin files place := by
  rcases FileSystem.isDirectory_iff.mp hdirectory with hentry | ⟨-, hplace | ⟨x, hx, hplace⟩⟩
  · exact h.supported (by rw [hentry]; exact nofun)
  · rw [h.working] at hplace
    exact supported_of_prefix h.toGrows (.inl rfl) hplace
  · intro y hy
    exact h.supported hx y (hy.trans hplace)

/-- A directory that has no entry of its own was one in the first place:
those that are made by a writer have an entry. `Grown.supported_directory`
leaves no other case. -/
theorem Grown.isDirectory_of_entry?_eq_none (h : Grown origin files)
    (hdirectory : files.isDirectory place = true) (hnone : files.entry? place = none) :
    origin.isDirectory place = true := by
  rcases h.supported_directory hdirectory place (List.prefix_refl _) with horigin | hentry
  · exact horigin
  · exact absurd hnone hentry

/-- What is set inside a supported place is supported by itself and by the
place, according to `prefix_follow`. -/
theorem Supported.set_follow (h : Supported origin files place) :
    Supported origin (files.set (follow place name) entry) (follow place name) := by
  intro x hx
  rcases prefix_follow hx with rfl | hx
  · exact .inr (by rw [FileSystem.entry?_set_self]; exact nofun)
  · exact (h x hx).imp id FileSystem.entry?_set_ne_none

/-- A file system has still grown after something was set inside a supported
place, as long as no directory is replaced by a file
(`FileSystem.grows_set`). -/
theorem Grown.set_follow (h : Grown origin files) (hplace : Supported origin files place)
    (hentry : entry = .directory ∨ files.isDirectory (follow place name) = false) :
    Grown origin (files.set (follow place name) entry) := by
  have hgrows := FileSystem.grows_set hentry
  refine ⟨h.toGrows.trans hgrows, ?_⟩
  intro x hx
  by_cases heq : x = follow place name
  · rw [heq]
    exact hplace.set_follow
  · rw [FileSystem.entry?_set_of_ne heq] at hx
    exact (h.supported hx).grows hgrows

end

/-! ## Writers stay sound -/

/-- A path that is begun, with its directories entered up to a place. -/
structure OnWay (origin files : FileSystem) (p : Path) (place names : List String) : Prop where
  null : holdsNull p = false
  fits : FileSystem.fits p = true
  split : ∃ front, p.parent.names = front ++ names ∧ place = front.foldl follow (origin.origin p) ∧
    ∀ x ∈ passed (origin.origin p) front, files.isDirectory x = true
  supported : Supported origin files place

/-- A path that was written. -/
structure Delivered (fails : Path → Prop) (origin files : FileSystem) (p : Path) : Prop where
  null : holdsNull p = false
  fits : FileSystem.fits p = true
  named : p.names ≠ []
  allowed : ¬fails p
  way : ∀ x ∈ origin.way p, files.isDirectory x = true

/-- A writer has written the first of its paths, and the one it is at is on
its way. -/
structure Writer.Sound (fails : Path → Prop) (origin files : FileSystem) (w : Writer) : Prop where
  paths : w.written ++ w.progress.rest = w.artifact.paths
  delivered : ∀ p ∈ w.written, Delivered fails origin files p
  onWay : ∀ {p place names paths}, w.progress = .inside p place names paths →
    OnWay origin files p place names

section

variable {fails : Path → Prop} {origin files files' : FileSystem} {w w' : Writer}
  {p : Path} {place names : List String} {name : String}

/-- A path stays on its way (`OnWay`) when the file system grows, since the
directories that it has passed are still there. -/
theorem OnWay.grows (h : OnWay origin files p place names) (hgrows : Grows files files') :
    OnWay origin files' p place names := by
  obtain ⟨front, hnames, hplace, hpassed⟩ := h.split
  exact ⟨h.null, h.fits, ⟨front, hnames, hplace, fun x hx => hgrows.directory (hpassed x hx)⟩,
    h.supported.grows hgrows⟩

/-- A path that is `Delivered` stays so when the file system grows. -/
theorem Delivered.grows (h : Delivered fails origin files p) (hgrows : Grows files files') :
    Delivered fails origin files' p :=
  ⟨h.null, h.fits, h.named, h.allowed, fun x hx => hgrows.directory (h.way x hx)⟩

/-- The turns of others do not harm a writer. All that it relies on is that
directories stay directories, which `Grows` says. -/
theorem Writer.Sound.grows (h : w.Sound fails origin files) (hgrows : Grows files files') :
    w.Sound fails origin files' :=
  ⟨h.paths, fun p hp => (h.delivered p hp).grows hgrows, fun hp => (h.onWay hp).grows hgrows⟩

/-- The next place that a begun path enters is one of those on its way
(`FileSystem.way`). -/
theorem OnWay.mem_way (h : OnWay origin files p place (name :: names)) :
    follow place name ∈ origin.way p := by
  obtain ⟨front, hnames, rfl, -⟩ := h.split
  show _ ∈ passed (origin.origin p) p.parent.names
  rw [hnames, Path.passed_append]
  exact List.mem_append_right _ List.mem_cons_self

/-- One more directory on the way is entered. It may have been made just
before, so the file system may have grown in between (`Grows`). -/
theorem OnWay.follow (h : OnWay origin files p place (name :: names)) (hgrows : Grows files files')
    (hdirectory : files'.isDirectory (follow place name) = true)
    (hsupported : Supported origin files' (Path.follow place name)) :
    OnWay origin files' p (Path.follow place name) names := by
  obtain ⟨front, hnames, hplace, hpassed⟩ := h.split
  refine ⟨h.null, h.fits, ⟨front ++ [name], ?_, ?_, ?_⟩, hsupported⟩
  · rw [hnames, List.append_assoc, List.singleton_append]
  · rw [List.foldl_append, hplace]
    rfl
  · intro x hx
    rw [Path.passed_append, List.mem_append, ← hplace] at hx
    rcases hx with hx | hx
    · exact hgrows.directory (hpassed x hx)
    · rw [List.mem_singleton.mp hx]
      exact hdirectory

/-- At the end of its way a path is in front of its destination, and only
the last name is left to `follow`. -/
theorem OnWay.destination_eq (h : OnWay origin files p place [])
    (hname : p.names.getLast? = some name) : origin.destination p = Path.follow place name := by
  obtain ⟨front, hnames, rfl, -⟩ := h.split
  rw [FileSystem.destination_eq hname, hnames, List.append_nil]

/-- A path at the end of its way is `Delivered` once its file is put
there. -/
theorem OnWay.delivered (h : OnWay origin files p place []) (hname : p.names.getLast? = some name)
    (hallowed : ¬fails p) : Delivered fails origin files p := by
  obtain ⟨front, hnames, -, hpassed⟩ := h.split
  rw [List.append_nil] at hnames
  refine ⟨h.null, h.fits, ?_, hallowed, ?_⟩
  · intro hnone
    rw [hnone] at hname
    cases hname
  · intro x hx
    rw [FileSystem.way, hnames] at hx
    exact hpassed x hx

/-- What one turn does. It leaves the files alone, makes a directory on the
way of a path, or writes a file to the destination of one. The cases of
`Writer.Advance` are put together by what they do to the files. -/
theorem Writer.Advance.effect (hturn : Writer.Advance fails files w files' w')
    (hgrown : Grown origin files) (hsound : w.Sound fails origin files) :
    w'.artifact = w.artifact ∧
      (files' = files ∧ w'.written = w.written ∨
        (∃ x, files' = files.set x .directory ∧ w'.written = w.written ∧ files.entry? x = none ∧
          origin.isDirectory x = false ∧ ∃ p ∈ w.artifact.paths, x ∈ origin.way p) ∨
        ∃ p, files' = files.set (origin.destination p) (.text w.artifact.contents) ∧
          w'.written = w.written ++ [p] ∧ files.isDirectory (origin.destination p) = false) := by
  cases hturn with
  -- Looking at a path, entering and refusing leave everything as it is.
  | enter | pass | refuse => exact ⟨rfl, .inl ⟨rfl, rfl⟩⟩
  | @make a written paths p place names name hmissing hnone =>
    have hway := hsound.onWay rfl
    refine ⟨rfl, .inr (.inl ⟨_, rfl, rfl, hnone, ?_, p, ?_, hway.mem_way⟩)⟩
    · -- It was no directory at first, because directories stay.
      rw [Bool.eq_false_iff]
      intro hdirectory
      rw [hgrown.directory hdirectory] at hmissing
      cases hmissing
    · rw [← hsound.paths]
      exact List.mem_append_right _ List.mem_cons_self
  | @put a written paths p place name hname hfile hallowed =>
    have hdestination := (hsound.onWay rfl).destination_eq hname
    refine ⟨rfl, .inr (.inr ⟨p, ?_, rfl, ?_⟩)⟩
    · rw [hdestination]
    · rw [hdestination]
      exact hfile

/-- A turn keeps the file system growing (`Grown`) and its writer sound
(`Writer.Sound`). There is one case for each kind of turn, and only two of
them change the files. -/
theorem Writer.Advance.sound (hturn : Writer.Advance fails files w files' w')
    (hgrown : Grown origin files) (hsound : w.Sound fails origin files) :
    Grows files files' ∧ Grown origin files' ∧ w'.Sound fails origin files' := by
  cases hturn with
  | @enter a written paths p hnull hfits =>
    refine ⟨Grows.refl files, hgrown, hsound.paths, hsound.delivered, ?_⟩
    rintro _ _ _ _ ⟨⟩
    rw [hgrown.origin_eq]
    exact ⟨hnull, hfits, ⟨[], rfl, rfl, nofun⟩, hgrown.supported_origin p⟩
  | @pass a written paths p place names name hdirectory =>
    refine ⟨Grows.refl files, hgrown, hsound.paths, hsound.delivered, ?_⟩
    rintro _ _ _ _ ⟨⟩
    exact (hsound.onWay rfl).follow (Grows.refl files) hdirectory
      (hgrown.supported_directory hdirectory)
  | @make a written paths p place names name hmissing hnone =>
    -- A directory is added where nothing was, and is entered.
    have hgrows : Grows files (files.set (follow place name) .directory) :=
      FileSystem.grows_set (.inl rfl)
    have hway := hsound.onWay rfl
    have hsound' := hsound.grows hgrows
    refine ⟨hgrows, hgrown.set_follow hway.supported (.inl rfl), hsound'.paths,
      hsound'.delivered, ?_⟩
    rintro _ _ _ _ ⟨⟩
    exact hway.follow hgrows
      (FileSystem.isDirectory_of_entry (FileSystem.entry?_set_self files _ .directory))
      hway.supported.set_follow
  | @put a written paths p place name hname hfile hallowed =>
    -- A file is put where no directory was, and its path counts as written.
    have hgrows : Grows files (files.set (follow place name) (.text a.contents)) :=
      FileSystem.grows_set (.inr hfile)
    have hway := hsound.onWay rfl
    refine ⟨hgrows, hgrown.set_follow hway.supported (.inr hfile), ?_, ?_, nofun⟩
    · rw [← hsound.paths]
      exact List.append_assoc written [p] paths
    · intro q hq
      rcases List.mem_append.mp hq with hq | hq
      · exact (hsound.delivered q hq).grows hgrows
      · rw [List.mem_singleton.mp hq]
        exact (hway.delivered hname hallowed).grows hgrows
  | @refuse a written progress hrefuses =>
    exact ⟨Grows.refl files, hgrown, hsound.paths, hsound.delivered, nofun⟩

end

/-! ## Every place is accounted for -/

/-- One of some writers has written an artifact to a path. -/
def Wrote (ws : List Writer) (a : Artifact) (p : Path) : Prop :=
  ∃ w ∈ ws, w.artifact = a ∧ p ∈ w.written

/-- What can be at a place: what was there, or what a writer has written
there, or a directory that was missing on the way of a path. -/
def Told (origin files : FileSystem) (ws : List Writer) (x : List String) : Prop :=
  files.entry? x = origin.entry? x ∨
    (∃ a p, Wrote ws a p ∧ origin.destination p = x ∧ files.entry? x = some (.text a.contents)) ∨
    origin.entry? x = none ∧ origin.isDirectory x = false ∧ files.entry? x = some .directory ∧
      ∃ w ∈ ws, ∃ p ∈ w.artifact.paths, x ∈ origin.way p

/-- What is at every place is told. And what was written to a path is there,
or else what was written to another path with the same destination. -/
structure Accounted (origin files : FileSystem) (ws : List Writer) : Prop where
  told : ∀ x, Told origin files ws x
  held : ∀ {a p}, Wrote ws a p → ∃ b q, Wrote ws b q ∧
    origin.destination q = origin.destination p ∧
    files.entry? (origin.destination p) = some (.text b.contents)

section

variable {fails : Path → Prop} {origin files files' : FileSystem} {front back : List Writer}
  {w w' : Writer}

/-- A writer has written (`Wrote`) what it had written before its turn, and
what the turn has added. -/
theorem wrote_middle_iff (hartifact : w'.artifact = w.artifact) {added : List Path}
    (hwritten : w'.written = w.written ++ added) {a : Artifact} {q : Path} :
    Wrote (front ++ w' :: back) a q ↔
      Wrote (front ++ w :: back) a q ∨ w.artifact = a ∧ q ∈ added := by
  unfold Wrote
  simp only [List.mem_append, List.mem_cons, or_and_right, exists_or, exists_eq_left, hartifact,
    hwritten]
  grind

/-- What is said of the artifacts of writers is not changed by a turn of one
of them, which stays with its artifact. `Told` speaks of ways in this
form. -/
theorem exists_middle_iff (hartifact : w'.artifact = w.artifact) {P : Artifact → Prop} :
    (∃ v ∈ front ++ w' :: back, P v.artifact) ↔ ∃ v ∈ front ++ w :: back, P v.artifact := by
  simp only [List.mem_append, List.mem_cons, or_and_right, exists_or, exists_eq_left, hartifact]

/-- A turn leaves a place `Told` if it does not change the place, because
what was written stays written. -/
theorem Told.middle {x : List String} (h : Told origin files (front ++ w :: back) x)
    (hartifact : w'.artifact = w.artifact) {added : List Path}
    (hwritten : w'.written = w.written ++ added) (heq : files'.entry? x = files.entry? x) :
    Told origin files' (front ++ w' :: back) x := by
  unfold Told
  rw [heq]
  rcases h with hsame | ⟨a, q, ha, hq⟩ | ⟨hnone, hmissing, hmade, hway⟩
  · exact .inl hsame
  · exact .inr (.inl ⟨a, q, (wrote_middle_iff hartifact hwritten).mpr (.inl ha), hq⟩)
  · have hway' := (exists_middle_iff hartifact
      (P := fun a => ∃ p ∈ a.paths, x ∈ origin.way p)).mpr hway
    exact .inr (.inr ⟨hnone, hmissing, hmade, hway'⟩)

/-- A turn accounts for what it changes. The cases are those of
`Writer.Advance.effect`. -/
theorem Accounted.advance (h : Accounted origin files (front ++ w :: back))
    (hturn : Writer.Advance fails files w files' w') (hgrown : Grown origin files)
    (hsound : w.Sound fails origin files) :
    Accounted origin files' (front ++ w' :: back) := by
  obtain ⟨hartifact, ⟨rfl, hsame⟩ | ⟨x, rfl, hsame, hnone, hmissing, p, hp, hway⟩ |
    ⟨p, rfl, hwritten, hfile⟩⟩ := hturn.effect hgrown hsound
  · -- Neither the files nor what is written has changed.
    have hwritten : w'.written = w.written ++ [] := by rw [hsame, List.append_nil]
    refine ⟨fun x => (h.told x).middle hartifact hwritten rfl, ?_⟩
    intro a q hq
    rw [wrote_middle_iff hartifact hwritten] at hq
    obtain ⟨b, r, hb, hr⟩ := h.held (hq.resolve_right (by simp))
    exact ⟨b, r, (wrote_middle_iff hartifact hwritten).mpr (.inl hb), hr⟩
  · -- A directory is made where nothing was, so not at a destination.
    have hwritten : w'.written = w.written ++ [] := by rw [hsame, List.append_nil]
    refine ⟨?_, ?_⟩
    · intro y
      by_cases hy : y = x
      · have hmiddle : ∃ v ∈ front ++ w' :: back, ∃ p ∈ v.artifact.paths, x ∈ origin.way p :=
          ⟨w', by simp, p, by rw [hartifact]; exact hp, hway⟩
        have horigin : origin.entry? x = none := by
          by_cases horigin : origin.entry? x = none
          · exact horigin
          · exact absurd hnone (hgrown.entry horigin)
        rw [hy]
        exact .inr (.inr ⟨horigin, hmissing, FileSystem.entry?_set_self _ _ _, hmiddle⟩)
      · exact (h.told y).middle hartifact hwritten (FileSystem.entry?_set_of_ne hy)
    · intro a q hq
      rw [wrote_middle_iff hartifact hwritten] at hq
      obtain ⟨b, r, hb, hr, hentry⟩ := h.held (hq.resolve_right (by simp))
      have hne : origin.destination q ≠ x := by
        intro heq
        rw [heq, hnone] at hentry
        cases hentry
      exact ⟨b, r, (wrote_middle_iff hartifact hwritten).mpr (.inl hb), hr,
        (FileSystem.entry?_set_of_ne hne).trans hentry⟩
  · -- A file is written, which is what its destination now holds.
    have hwrote : Wrote (front ++ w' :: back) w.artifact p :=
      (wrote_middle_iff hartifact hwritten).mpr (.inr ⟨rfl, List.mem_singleton_self p⟩)
    have hself :=
      FileSystem.entry?_set_self files (origin.destination p) (.text w.artifact.contents)
    refine ⟨?_, ?_⟩
    · intro y
      by_cases hy : y = origin.destination p
      · rw [hy]
        exact .inr (.inl ⟨w.artifact, p, hwrote, rfl, hself⟩)
      · exact (h.told y).middle hartifact hwritten (FileSystem.entry?_set_of_ne hy)
    · intro a q hq
      by_cases heq : origin.destination q = origin.destination p
      · rw [heq]
        exact ⟨w.artifact, p, hwrote, rfl, hself⟩
      · rcases (wrote_middle_iff hartifact hwritten).mp hq with hq | ⟨-, hq⟩
        · obtain ⟨b, r, hb, hr, hentry⟩ := h.held hq
          exact ⟨b, r, (wrote_middle_iff hartifact hwritten).mpr (.inl hb), hr,
            (FileSystem.entry?_set_of_ne heq).trans hentry⟩
        · exact absurd (by rw [List.mem_singleton.mp hq]) heq

end

/-! ## What holds at every moment of a session -/

/-- The invariants of a file system with writers at work on it. -/
structure Working (fails : Path → Prop) (origin files : FileSystem) (ws : List Writer) : Prop where
  grown : Grown origin files
  sound : ∀ w ∈ ws, w.Sound fails origin files
  accounted : Accounted origin files ws

section

variable {fails : Path → Prop} {origin files files' : FileSystem} {front back : List Writer}
  {w w' : Writer}

/-- A writer that has done nothing yet satisfies `Writer.Sound`. -/
theorem Writer.sound_start (a : Artifact) : (Writer.start a).Sound fails origin files :=
  ⟨rfl, nofun, nofun⟩

/-- The invariants, gathered in `Working`, hold before the first turn. -/
theorem Working.start (fails : Path → Prop) (origin : FileSystem) (artifacts : List Artifact) :
    Working fails origin origin (artifacts.map Writer.start) := by
  refine ⟨Grown.refl origin, ?_, fun x => .inl rfl, ?_⟩
  · intro w hw
    obtain ⟨a, -, rfl⟩ := List.mem_map.mp hw
    exact Writer.sound_start a
  · rintro a p ⟨w, hw, -, hp⟩
    obtain ⟨a, -, rfl⟩ := List.mem_map.mp hw
    cases hp

/-- A turn of any of the writers keeps the invariants: its own by
`Writer.Advance.sound`, those of the others by `Writer.Sound.grows`. -/
theorem Working.advance (h : Working fails origin files (front ++ w :: back))
    (hturn : Writer.Advance fails files w files' w') :
    Working fails origin files' (front ++ w' :: back) := by
  have hw := h.sound w (by simp)
  obtain ⟨hgrows, hgrown, hw'⟩ := hturn.sound h.grown hw
  refine ⟨hgrown, ?_, h.accounted.advance hturn h.grown hw⟩
  intro v hv
  rw [List.mem_append, List.mem_cons] at hv
  rcases hv with hv | rfl | hv
  · exact (h.sound v (by simp [hv])).grows hgrows
  · exact hw'
  · exact (h.sound v (by simp [hv])).grows hgrows

/-- A step of a session keeps the invariants, because it is a turn of one of
all its writers (`Session.Step.exists_turn`). -/
theorem Session.Step.working {s s' : Session} (h : Session.Step fails s s')
    (hs : Working fails origin s.files s.all) : Working fails origin s'.files s'.all := by
  obtain ⟨front, back, w, w', hall, hall', hturn⟩ := h.exists_turn
  rw [hall] at hs
  rw [hall']
  exact hs.advance hturn

/-- The invariants hold at every moment of every session, by induction on
the steps that were taken, with `Session.Step.working` for each. -/
theorem Session.Reaches.working {artifacts barrels : List Artifact} {s : Session}
    (h : Session.Reaches fails (.start origin artifacts barrels) s) :
    Working fails origin s.files s.all := by
  induction h with
  | refl =>
    show Working fails origin origin (artifacts.map Writer.start ++ barrels.map Writer.start)
    rw [← List.map_append]
    exact Working.start fails origin (artifacts ++ barrels)
  | tail _ hstep ih => exact hstep.working ih

end

end SchemaTypes
