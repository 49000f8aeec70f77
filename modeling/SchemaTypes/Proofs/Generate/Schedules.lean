import Mathlib.Data.List.Nodup
import Mathlib.Data.List.Pairwise
import SchemaTypes.Proofs.Generate.Sequence
import SchemaTypes.Proofs.Generate.Writers

/-!
# `SchemaTypes.Proofs.Generate.Schedules`: every schedule has one outcome

Writers that take turns in any order come to the same files. The order of
the turns decides which writer makes a shared directory, and that is all it
decides: if one session ends without a failure, no other one can fail
(`Working.not_refuses`), and what stands at each place in the end is given
by the artifacts and the first file system alone (`Delivery`).
-/

set_option autoImplicit false

namespace SchemaTypes

open SchemaTypes.Path (follow)

/-! ## Barrels come last -/

/-- Writers stay with their artifacts, and as long as one of those of the
plain artifacts has not finished, the barrels have not begun. -/
structure Session.Ordered (artifacts barrels : List Artifact) (s : Session) : Prop where
  ofWriters : s.writers.map Writer.artifact = artifacts
  ofBarrels : s.barrels.map Writer.artifact = barrels
  waiting : (∀ w ∈ s.writers, w.Finished) ∨ s.barrels = barrels.map Writer.start

section

variable {fails : Path → Prop} {origin : FileSystem} {artifacts barrels : List Artifact}
  {s s' : Session}

/-- A step keeps the order. A barrel takes a turn only if all plain writers
have finished, and a plain writer only if it has not
(`Writer.Advance.atWork`). -/
theorem Session.Step.ordered (h : Session.Step fails s s') (hs : s.Ordered artifacts barrels) :
    s'.Ordered artifacts barrels := by
  have hwriters := hs.ofWriters
  have hbarrels := hs.ofBarrels
  cases h with
  | @plain files files' front back _ w w' hturn =>
    refine ⟨?_, hbarrels, .inr ?_⟩
    · rw [← hwriters]
      simp [hturn.artifact_eq]
    · -- The writer is still at work, so the barrels have not begun.
      refine hs.waiting.resolve_left ?_
      intro hall
      exact hturn.atWork.1 (hall w (by simp))
  | @barrel files files' writers front back w w' hall hfront hturn =>
    refine ⟨hwriters, ?_, .inl hall⟩
    rw [← hbarrels]
    simp [hturn.artifact_eq]

/-- The order holds at every moment of every session, by induction on its
steps with `Session.Step.ordered`. -/
theorem Session.Reaches.ordered (h : Session.Reaches fails (.start origin artifacts barrels) s) :
    s.Ordered artifacts barrels := by
  induction h with
  | refl =>
    have hmap : ∀ l : List Artifact, (l.map Writer.start).map Writer.artifact = l := by
      intro l
      rw [List.map_map]
      exact List.map_id l
    exact ⟨hmap artifacts, hmap barrels, .inr rfl⟩
  | tail _ hstep ih => exact hstep.ordered ih

/-- A writer that was refused a path takes no further turn
(`Writer.Advance.atWork`), so it stays among those that have failed. -/
theorem Session.Step.failed (h : Session.Step fails s s') (hfailed : ∃ w ∈ s.writers, w.Failed) :
    ∃ w ∈ s'.writers, w.Failed := by
  obtain ⟨v, hv, hfailed⟩ := hfailed
  cases h with
  | @plain files files' front back _ w w' hturn =>
    refine ⟨v, ?_, hfailed⟩
    have hne : v ≠ w := by
      rintro rfl
      exact hturn.atWork.2 hfailed
    simp only [List.mem_append, List.mem_cons] at hv ⊢
    exact hv.imp id fun hv => .inr (hv.resolve_left hne)
  | barrel => exact ⟨v, hv, hfailed⟩

/-- A failure of a plain writer is never undone, by induction on the steps
with `Session.Step.failed`. -/
theorem Session.Reaches.failed (h : Session.Reaches fails s s')
    (hfailed : ∃ w ∈ s.writers, w.Failed) : ∃ w ∈ s'.writers, w.Failed := by
  induction h with
  | refl => exact hfailed
  | tail _ hstep ih => exact hstep.failed ih

/-- No barrel has begun if a plain artifact could not be written:
`Session.Ordered` lets them begin only when all others have finished. -/
theorem Session.Ordered.barrels_of_failed (hs : s.Ordered artifacts barrels)
    (hfailed : ∃ w ∈ s.writers, w.Failed) : s.barrels = barrels.map Writer.start := by
  refine hs.waiting.resolve_left ?_
  intro hall
  obtain ⟨w, hw, hfailed⟩ := hfailed
  exact (hall w hw).not_failed hfailed

end

/-- A writer that has finished has written all of its paths, so it is the
one that `Writer.done` gives for its artifact. -/
theorem Writer.Sound.eq_done {fails : Path → Prop} {origin files : FileSystem} {w : Writer}
    (h : w.Sound fails origin files) (hfinished : w.Finished) : w = Writer.done w.artifact := by
  obtain ⟨a, written, progress⟩ := w
  obtain rfl : progress = .ready [] := hfinished
  have hpaths : written ++ [] = a.paths := h.paths
  rw [List.append_nil] at hpaths
  rw [hpaths]
  rfl

/-! ## What a complete session has come to -/

/-- The paths of artifacts lead to different places. -/
def SeparateDestinations (files : FileSystem) (artifacts : List Artifact) : Prop :=
  (artifacts.flatMap fun a => a.paths.map files.destination).Nodup

/-- A place on the way of a path, where no directory and nothing else is. -/
def Missing (files : FileSystem) (artifacts : List Artifact) (x : List String) : Prop :=
  files.entry? x = none ∧ files.isDirectory x = false ∧
    ∃ a ∈ artifacts, ∃ p ∈ a.paths, x ∈ files.way p

/-- The files after artifacts were delivered: each path holds its artifact,
the directories on its way are there, and nothing else has changed. -/
structure Delivery (origin : FileSystem) (artifacts : List Artifact) (files : FileSystem) :
    Prop where
  working : files.working = origin.working
  contents : ∀ a ∈ artifacts, ∀ p ∈ a.paths,
    files.entry? (origin.destination p) = some (.text a.contents)
  ways : ∀ a ∈ artifacts, ∀ p ∈ a.paths, ∀ x ∈ origin.way p, files.isDirectory x = true
  made : ∀ x, Missing origin artifacts x → files.entry? x = some .directory
  unchanged : ∀ x, (∀ a ∈ artifacts, ∀ p ∈ a.paths, origin.destination p ≠ x) →
    ¬Missing origin artifacts x → files.entry? x = origin.entry? x

section

variable {fails : Path → Prop} {origin files files' : FileSystem} {artifacts : List Artifact}
  {ws ws' : List Writer} {w : Writer} {a b : Artifact} {p q : Path}

/-- What is anywhere after a `Delivery` is told by the artifacts and the
first file system. Each place was missing on a way, is a destination, or is
unchanged. -/
theorem Delivery.entry?_eq (h : Delivery origin artifacts files)
    (h' : Delivery origin artifacts files') (x : List String) :
    files.entry? x = files'.entry? x := by
  by_cases hmissing : Missing origin artifacts x
  · rw [h.made x hmissing, h'.made x hmissing]
  by_cases hdestination : ∃ a ∈ artifacts, ∃ p ∈ a.paths, origin.destination p = x
  · obtain ⟨a, ha, p, hp, rfl⟩ := hdestination
    rw [h.contents a ha p hp, h'.contents a ha p hp]
  · have hother : ∀ a ∈ artifacts, ∀ p ∈ a.paths, origin.destination p ≠ x :=
      fun a ha p hp heq => hdestination ⟨a, ha, p, hp, heq⟩
    rw [h.unchanged x hother hmissing, h'.unchanged x hother hmissing]

/-- If destinations are separate (`SeparateDestinations`), then paths with
the same destination belong to the same artifact. -/
theorem SeparateDestinations.eq_of_destination (h : SeparateDestinations origin artifacts)
    (ha : a ∈ artifacts) (hb : b ∈ artifacts) (hp : p ∈ a.paths) (hq : q ∈ b.paths)
    (heq : origin.destination q = origin.destination p) : b = a := by
  by_cases hab : b = a
  · exact hab
  · have hsymm : Std.Symm (Function.onFun List.Disjoint fun c : Artifact =>
        c.paths.map origin.destination) := ⟨fun _ _ hdisjoint => List.disjoint_symm hdisjoint⟩
    have hdisjoint := (List.nodup_flatMap.mp h).2.forall hb ha hab
    exact absurd (List.mem_map.mpr ⟨p, hp, heq.symm⟩) (hdisjoint (List.mem_map_of_mem hq))

/-- What was written (`Wrote`) is one of the artifacts, and it was written
to one of its own paths. -/
theorem Working.mem_of_wrote (h : Working fails origin files ws) (hp : Wrote ws a p) :
    a ∈ ws.map Writer.artifact ∧ p ∈ a.paths := by
  obtain ⟨w, hw, rfl, hp⟩ := hp
  refine ⟨List.mem_map_of_mem hw, ?_⟩
  rw [← (h.sound w hw).paths]
  exact List.mem_append_left _ hp

/-- Writers that have finished have written each of their artifacts to all
of its paths, by `Writer.Sound.eq_done`. -/
theorem Working.wrote (h : Working fails origin files ws) (hfinished : ∀ w ∈ ws, w.Finished)
    (ha : a ∈ ws.map Writer.artifact) (hp : p ∈ a.paths) : Wrote ws a p := by
  obtain ⟨w, hw, rfl⟩ := List.mem_map.mp ha
  refine ⟨w, hw, rfl, ?_⟩
  rw [(h.sound w hw).eq_done (hfinished w hw)]
  exact hp

/-- A path that was written is `Delivered`, at that moment and later. -/
theorem Working.delivered (h : Working fails origin files ws) (hp : Wrote ws a p) :
    Delivered fails origin files p := by
  obtain ⟨w, hw, -, hp⟩ := hp
  exact (h.sound w hw).delivered p hp

/-- What was written is a file, even if another path with the same
destination was written after it (`Accounted.held`). -/
theorem Working.isDirectory_destination (h : Working fails origin files ws) (hp : Wrote ws a p) :
    files.isDirectory (origin.destination p) = false := by
  obtain ⟨b, q, -, -, hentry⟩ := h.accounted.held hp
  exact FileSystem.isDirectory_of_text hentry

/-- Writers that have finished have made a `Delivery` of their artifacts, if
no two paths have the same destination. Otherwise the last to write would
decide. -/
theorem Working.delivery (h : Working fails origin files ws) (hfinished : ∀ w ∈ ws, w.Finished)
    (hartifacts : ws.map Writer.artifact = artifacts)
    (hseparate : SeparateDestinations origin artifacts) : Delivery origin artifacts files := by
  subst hartifacts
  have hways : ∀ a ∈ ws.map Writer.artifact, ∀ p ∈ a.paths, ∀ x ∈ origin.way p,
      files.isDirectory x = true :=
    fun a ha p hp => (h.delivered (h.wrote hfinished ha hp)).way
  refine ⟨h.grown.working, ?_, hways, ?_, ?_⟩
  · intro a ha p hp
    -- The destination holds some artifact, and only one has a path that leads there.
    obtain ⟨b, q, hb, heq, hentry⟩ := h.accounted.held (h.wrote hfinished ha hp)
    obtain ⟨hb, hq⟩ := h.mem_of_wrote hb
    rw [hentry, hseparate.eq_of_destination ha hb hp hq heq]
  · -- A directory without an entry was one from the first.
    rintro x ⟨-, hmissing, a, ha, p, hp, hx⟩
    have hdirectory := hways a ha p hp x hx
    refine FileSystem.entry?_eq_directory hdirectory ?_
    intro hnone
    rw [h.grown.isDirectory_of_entry?_eq_none hdirectory hnone] at hmissing
    cases hmissing
  · intro x hother hmissing
    -- What is told of other places leaves no change.
    rcases h.accounted.told x with hsame | ⟨a, p, hp, heq, -⟩ | ⟨hnone, hnot, -, w, hw, p, hp, hx⟩
    · exact hsame
    · obtain ⟨ha, hp⟩ := h.mem_of_wrote hp
      exact absurd heq (hother a ha p hp)
    · exact absurd ⟨hnone, hnot, w.artifact, List.mem_map_of_mem hw, p, hp, hx⟩ hmissing

/-! ## One session without a failure leaves none to the others -/

/-- Where a directory is at the end of one session, no file is at any moment
of another: a writer that put one there would put it there in both, and
`Working.isDirectory_destination` excludes it. -/
theorem Working.isDirectory_of_ne_none (hend : Working fails origin files' ws')
    (hfinished : ∀ w ∈ ws', w.Finished) (h : Working fails origin files ws)
    (hartifacts : ws.map Writer.artifact = ws'.map Writer.artifact) {x : List String}
    (hx : files'.isDirectory x = true) (hne : files.entry? x ≠ none) :
    files.isDirectory x = true := by
  rcases h.accounted.told x with hsame | ⟨a, p, hp, rfl, -⟩ | ⟨-, -, hmade, -⟩
  · -- What was there from the first is a directory in the other session, so it always was.
    refine h.grown.directory ?_
    rw [hsame] at hne
    have hentry := FileSystem.entry?_eq_directory hx (hend.grown.entry hne)
    rcases hend.accounted.told x with hsame' | ⟨a, p, -, -, htext⟩ | ⟨hnone, -⟩
    · exact FileSystem.isDirectory_of_entry (hsame'.symm.trans hentry)
    · exact nomatch hentry.symm.trans htext
    · exact absurd hnone hne
  · obtain ⟨ha, hp⟩ := h.mem_of_wrote hp
    rw [hartifacts] at ha
    rw [hend.isDirectory_destination (hend.wrote hfinished ha hp)] at hx
    cases hx
  · exact FileSystem.isDirectory_of_entry hmade

/-- Where no directory is at the end of one session, none is at any moment
of another: a writer that made one there would find or make it in both, as
`Delivered.way` says. -/
theorem Working.isDirectory_eq_false (hend : Working fails origin files' ws')
    (hfinished : ∀ w ∈ ws', w.Finished) (h : Working fails origin files ws)
    (hartifacts : ws.map Writer.artifact = ws'.map Writer.artifact) {x : List String}
    (hx : files'.isDirectory x = false) : files.isDirectory x = false := by
  rw [Bool.eq_false_iff]
  intro hdirectory
  -- It cannot have been a directory from the first, since those stay.
  have hnot : ¬origin.isDirectory x = true := by
    intro horigin
    rw [hend.grown.directory horigin] at hx
    cases hx
  by_cases hnone : files.entry? x = none
  · exact hnot (h.grown.isDirectory_of_entry?_eq_none hdirectory hnone)
  have hentry := FileSystem.entry?_eq_directory hdirectory hnone
  rcases h.accounted.told x with hsame | ⟨a, p, -, -, htext⟩ | ⟨-, -, -, w, hw, p, hp, hway⟩
  · exact hnot (FileSystem.isDirectory_of_entry (hsame.symm.trans hentry))
  · exact nomatch hentry.symm.trans htext
  · have ha : w.artifact ∈ ws'.map Writer.artifact := by
      rw [← hartifacts]
      exact List.mem_map_of_mem hw
    rw [(hend.delivered (hend.wrote hfinished ha hp)).way x hway] at hx
    cases hx

/-- If the writers of some artifacts could all finish, they are never
refused a path, in whatever order they take turns. Other writers can put
nothing in the way of one (`Working.isDirectory_of_ne_none`,
`Working.isDirectory_eq_false`). -/
theorem Working.not_refuses (hend : Working fails origin files' ws')
    (hfinished : ∀ w ∈ ws', w.Finished) (h : Working fails origin files ws)
    (hartifacts : ws.map Writer.artifact = ws'.map Writer.artifact) (hw : w ∈ ws) :
    ¬Writer.Refuses fails files w.progress := by
  obtain ⟨a, written, progress⟩ := w
  have hsound := h.sound _ hw
  have ha : a ∈ ws'.map Writer.artifact := by
    rw [← hartifacts]
    exact List.mem_map_of_mem (f := Writer.artifact) hw
  have hwrote : ∀ p ∈ progress.rest, Wrote ws' a p := by
    intro p hp
    refine hend.wrote hfinished ha ?_
    rw [← hsound.paths]
    exact List.mem_append_right _ hp
  -- For each kind of turn, what would be refused here was not refused there.
  match progress with
  | .ready [] | .stopped _ => exact id
  | .ready (p :: paths) =>
    have hp := hend.delivered (hwrote p List.mem_cons_self)
    rintro (hnull | hfits | hfails)
    · exact nomatch hnull.symm.trans hp.null
    · exact nomatch hfits.symm.trans hp.fits
    · exact hp.allowed hfails
  | .inside p place (name :: names) paths =>
    have hp := hend.delivered (hwrote p List.mem_cons_self)
    have hx := hp.way _ (hsound.onWay rfl).mem_way
    rintro (⟨hfile, hne⟩ | hfails)
    · rw [hend.isDirectory_of_ne_none hfinished h hartifacts hx hne] at hfile
      cases hfile
    · exact hp.allowed hfails
  | .inside p place [] paths =>
    have hp := hend.delivered (hwrote p List.mem_cons_self)
    rintro (hdirectory | hfails)
    · obtain ⟨name, hname⟩ := Option.ne_none_iff_exists'.mp
        (mt List.getLast?_eq_none_iff.mp hp.named)
      have hx := hend.isDirectory_destination (hwrote p List.mem_cons_self)
      rw [(hsound.onWay rfl).destination_eq hname] at hx
      have hfile := hend.isDirectory_eq_false hfinished h hartifacts hx
      exact nomatch hfile.symm.trans (hdirectory name hname)
    · exact hp.allowed hfails

/-- All writers of a session together, `Session.all`, have the plain
artifacts and then the barrels. -/
theorem Session.Ordered.all {artifacts barrels : List Artifact} {s : Session}
    (h : s.Ordered artifacts barrels) : s.all.map Writer.artifact = artifacts ++ barrels := by
  rw [Session.all, List.map_append, h.ofWriters, h.ofBarrels]

/-- If the writers of one session could all finish, no other session with
the same artifacts ever fails. The induction is on its steps, and each step
is a turn to which `Working.not_refuses` applies. -/
theorem Session.Reaches.unfailing {artifacts barrels : List Artifact} {s : Session}
    (hend : Working fails origin files' ws') (hfinished : ∀ w ∈ ws', w.Finished)
    (hartifacts : ws'.map Writer.artifact = artifacts ++ barrels)
    (h : Session.Reaches fails (.start origin artifacts barrels) s) : s.Unfailing := by
  induction h with
  | refl =>
    intro w hw
    rw [Session.start, Session.all, ← List.map_append] at hw
    obtain ⟨a, -, rfl⟩ := List.mem_map.mp hw
    rintro ⟨paths, ⟨⟩⟩
  | @tail s s' hreaches hstep ih =>
    obtain ⟨front, back, w, w', hall, hall', hturn⟩ := hstep.exists_turn
    have hordered := Session.Reaches.ordered hreaches
    -- The writer whose turn it is cannot be refused, and the others stay as they were.
    have hw : ¬Writer.Refuses fails s.files w.progress :=
      hend.not_refuses hfinished (Session.Reaches.working hreaches)
        (hordered.all.trans hartifacts.symm) (by rw [hall]; simp)
    have hold : ∀ v ∈ front ++ w :: back, ¬v.Failed := hall ▸ ih
    intro v hv
    rw [hall', List.mem_append, List.mem_cons] at hv
    rcases hv with hv | rfl | hv
    · exact hold v (by simp [hv])
    · exact fun hfailed => hw (hturn.refuses hfailed)
    · exact hold v (by simp [hv])

end

/-! ## The outcome -/

/-- Artifacts are written side by side, in any order of turns and with any
paths failing. No barrel begins before every other artifact has been written
to all of its paths, and none ever begins once one of them has failed. If
nothing fails and the paths lead to different places, then the files are
those of a delivery, no other order of turns leads to a failure, and every
other one ends with the same files. The run that writes one artifact after
the other is such a session, unless one of its paths is to fail. -/
theorem Session.one_outcome (fails : Path → Prop) (files : FileSystem)
    (artifacts barrels : List Artifact) :
    (∀ s, Session.Reaches fails (.start files artifacts barrels) s →
      (s.barrels ≠ barrels.map Writer.start → s.writers = artifacts.map Writer.done) ∧
      ((∃ w ∈ s.writers, w.Failed) →
        ∀ s', Session.Reaches fails s s' → s'.barrels = barrels.map Writer.start) ∧
      (s.Over fails → s.Unfailing → SeparateDestinations files (artifacts ++ barrels) →
        Delivery files (artifacts ++ barrels) s.files ∧
        ∀ s', Session.Reaches fails (.start files artifacts barrels) s' →
          s'.Unfailing ∧ (s'.Over fails → ∀ x, s'.files.entry? x = s.files.entry? x))) ∧
    ((∀ a ∈ artifacts ++ barrels, ∀ p ∈ a.paths, ¬fails p) →
      ∃ s, Session.Reaches fails (.start files artifacts barrels) s ∧ s.Over fails ∧
        s.files = (writeRun files artifacts barrels).files ∧
        ((writeRun files artifacts barrels).failed = none ↔ s.Unfailing)) := by
  refine ⟨?_, exists_session_writeRun files⟩
  intro s hreaches
  have hworking := hreaches.working
  have hordered := hreaches.ordered
  refine ⟨?_, ?_, ?_⟩
  · -- A barrel has begun, so the writers have finished, each with all of its paths.
    intro hbegun
    have hall := hordered.waiting.resolve_right hbegun
    rw [← hordered.ofWriters, List.map_map]
    refine ((List.map_congr_left ?_).trans (List.map_id _)).symm
    intro w hw
    exact ((hworking.sound w (List.mem_append_left _ hw)).eq_done (hall w hw)).symm
  · -- A writer that has failed stays so, and holds the barrels back.
    intro hfailed s' hreaches'
    have hlater : Session.Reaches fails (.start files artifacts barrels) s' :=
      hreaches.trans hreaches'
    exact hlater.ordered.barrels_of_failed (hreaches'.failed hfailed)
  · -- Both sessions end with a delivery, and a delivery is told by the artifacts.
    intro hover hunfailing hseparate
    have hcomplete := hover.complete hunfailing
    have hdelivery := hworking.delivery hcomplete hordered.all hseparate
    refine ⟨hdelivery, ?_⟩
    intro s' hreaches'
    have hunfailing' := hreaches'.unfailing hworking hcomplete hordered.all
    refine ⟨hunfailing', ?_⟩
    intro hover' x
    have hdelivery' := hreaches'.working.delivery (hover'.complete hunfailing')
      hreaches'.ordered.all hseparate
    exact hdelivery'.entry?_eq hdelivery x

/-- A file system with one file in the working directory. -/
def oneFile : FileSystem :=
  { entries := [(["w", "a.ts"], .text "old")], working := ["w"] }

/-- An artifact for a new directory, and to replace that file. -/
def firstArtifact : Artifact :=
  ⟨.typeScript, [⟨"", ["out", "a.ts"]⟩, ⟨"", ["a.ts"]⟩], "a"⟩

/-- An artifact for the same directory. -/
def secondArtifact : Artifact :=
  ⟨.zod, [⟨"", ["out", "b.ts"]⟩], "b"⟩

/-- A barrel beside them. -/
def lastArtifact : Artifact :=
  ⟨.barrel, [⟨"", ["out", "index.ts"]⟩], "c"⟩

/-- Three artifacts, two of which share a directory that is to be made.
Whatever the order of turns, both of their files are in it at the end. And
if the path of one is to fail, the barrel is never begun. -/
theorem Session.one_outcome_sharedDirectory :
    (∀ s, Session.Reaches (fun _ => False)
        (.start oneFile [firstArtifact, secondArtifact] [lastArtifact]) s →
      s.Over (fun _ => False) →
        s.files.entry? ["w", "out"] = some .directory ∧
        s.files.entry? ["w", "a.ts"] = some (.text "a") ∧
        s.files.entry? ["w", "out", "b.ts"] = some (.text "b") ∧
        s.files.entry? ["w", "out", "index.ts"] = some (.text "c") ∧
        s.files.entry? ["w", "c.ts"] = none) ∧
    ∃ s, Session.Reaches (fun p => p.names = ["out", "b.ts"])
        (.start oneFile [firstArtifact, secondArtifact] [lastArtifact]) s ∧
      (∃ w ∈ s.writers, w.Failed) ∧
      ∀ s', Session.Reaches (fun p => p.names = ["out", "b.ts"]) s s' →
        s'.barrels = [Writer.start lastArtifact] := by
  refine ⟨?_, ?_⟩
  · have houtcome := Session.one_outcome (fun _ => False) oneFile [firstArtifact, secondArtifact]
      [lastArtifact]
    obtain ⟨s, hreaches, hover, hfiles, hfailed⟩ := houtcome.2 fun _ _ _ _ => id
    have hseparate :
        SeparateDestinations oneFile ([firstArtifact, secondArtifact] ++ [lastArtifact]) := by
      unfold SeparateDestinations
      decide
    obtain ⟨-, hsame⟩ :=
      (houtcome.1 s hreaches).2.2 hover (hfailed.mp (by decide)) hseparate
    intro s' hreaches' hover'
    simp only [(hsame s' hreaches').2 hover', hfiles]
    decide
  · -- The second writer is refused its path before the first has begun.
    let fails : Path → Prop := fun p => p.names = ["out", "b.ts"]
    let stopped : Writer := ⟨secondArtifact, [], .stopped secondArtifact.paths⟩
    have hturn : Writer.Advance fails oneFile (.start secondArtifact) oneFile stopped :=
      .refuse (Or.inr (Or.inr rfl))
    have hstep : Session.Step fails
        ⟨oneFile, [.start firstArtifact] ++ .start secondArtifact :: [], [.start lastArtifact]⟩
        ⟨oneFile, [.start firstArtifact] ++ stopped :: [], [.start lastArtifact]⟩ := .plain hturn
    have hreaches : Session.Reaches fails
        (.start oneFile [firstArtifact, secondArtifact] [lastArtifact]) _ :=
      Relation.ReflTransGen.single hstep
    have hfailed : ∃ w ∈ [Writer.start firstArtifact] ++ stopped :: [], w.Failed :=
      ⟨stopped, by simp, _, rfl⟩
    exact ⟨_, hreaches, hfailed, ((Session.one_outcome fails oneFile
      [firstArtifact, secondArtifact] [lastArtifact]).1 _ hreaches).2.1 hfailed⟩

end SchemaTypes
