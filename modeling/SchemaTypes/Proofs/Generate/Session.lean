import Mathlib.Data.List.Induction
import Mathlib.Logic.Relation
import SchemaTypes.Generate.Run

/-!
# `SchemaTypes.Proofs.Generate.Session`: artifacts written side by side

`writeRun` writes one artifact after the other. Here each artifact has a
writer of its own, and the writers take turns in any order. A turn is as
small as it can be: a writer looks at one path, enters or makes one
directory, or writes one file (`Writer.Advance`). Any path of a given set
may be refused at any of these turns, and a writer stops at the first path
that is refused. The barrels wait until every writer has finished, and then
follow one another (`Session.Step`).

A writer that has not finished and was not refused a path can always take a
turn (`Writer.exists_advance`), so a session that is over without a failure
has written everything (`Session.Over.complete`).
-/

set_option autoImplicit false

namespace SchemaTypes

open FileSystem (holdsNull fits)
open SchemaTypes.Path (follow)

/-! ## Writers and their turns -/

/-- How far a writer is. -/
inductive Progress where
  /-- The first of these paths is the next to be begun. -/
  | ready (paths : List Path)
  /-- A path is begun, and its directories are entered up to a place. The
  names lead on from there to the directory of the file. -/
  | inside (path : Path) (place names : List String) (paths : List Path)
  /-- The first of these paths was refused. -/
  | stopped (paths : List Path)

/-- The paths that are not written yet. -/
def Progress.rest : Progress → List Path
  | .ready paths => paths
  | .inside path _ _ paths => path :: paths
  | .stopped paths => paths

/-- An artifact with the paths it has been written to so far. -/
structure Writer where
  artifact : Artifact
  written : List Path
  progress : Progress

namespace Writer

/-- A writer that has done nothing yet. -/
def start (a : Artifact) : Writer :=
  ⟨a, [], .ready a.paths⟩

/-- A writer that has written all of its paths. -/
def done (a : Artifact) : Writer :=
  ⟨a, a.paths, .ready []⟩

/-- A writer has nothing left to write. -/
def Finished (w : Writer) : Prop :=
  w.progress = .ready []

/-- A writer was refused a path. -/
def Failed (w : Writer) : Prop :=
  ∃ paths, w.progress = .stopped paths

/-- Whether the next turn of a writer may end with a refusal: because the
file system does not allow it, or because its path is one that fails. -/
def Refuses (fails : Path → Prop) (files : FileSystem) : Progress → Prop
  | .ready [] => False
  | .ready (p :: _) => holdsNull p = true ∨ fits p = false ∨ fails p
  | .inside p place [] _ =>
    (∀ name, p.names.getLast? = some name → files.isDirectory (follow place name) = true) ∨ fails p
  | .inside p place (name :: _) _ =>
    files.isDirectory (follow place name) = false ∧ files.entry? (follow place name) ≠ none ∨
      fails p
  | .stopped _ => False

/-- One turn of a writer, with the files before and after it. -/
inductive Advance (fails : Path → Prop) : FileSystem → Writer → FileSystem → Writer → Prop
  /-- A path is begun. -/
  | enter {files : FileSystem} {a : Artifact} {written paths : List Path} {p : Path}
      (hnull : holdsNull p = false) (hfits : fits p = true) :
      Advance fails files ⟨a, written, .ready (p :: paths)⟩
        files ⟨a, written, .inside p (files.origin p) p.parent.names paths⟩
  /-- A directory that is there is entered. -/
  | pass {files : FileSystem} {a : Artifact} {written paths : List Path} {p : Path}
      {place names : List String} {name : String}
      (hdirectory : files.isDirectory (follow place name) = true) :
      Advance fails files ⟨a, written, .inside p place (name :: names) paths⟩
        files ⟨a, written, .inside p (follow place name) names paths⟩
  /-- A directory that is missing is made. -/
  | make {files : FileSystem} {a : Artifact} {written paths : List Path} {p : Path}
      {place names : List String} {name : String}
      (hmissing : files.isDirectory (follow place name) = false)
      (hnone : files.entry? (follow place name) = none) :
      Advance fails files ⟨a, written, .inside p place (name :: names) paths⟩
        (files.set (follow place name) .directory)
        ⟨a, written, .inside p (follow place name) names paths⟩
  /-- The file is written. -/
  | put {files : FileSystem} {a : Artifact} {written paths : List Path} {p : Path}
      {place : List String} {name : String} (hname : p.names.getLast? = some name)
      (hfile : files.isDirectory (follow place name) = false) (hallowed : ¬fails p) :
      Advance fails files ⟨a, written, .inside p place [] paths⟩
        (files.set (follow place name) (.text a.contents)) ⟨a, written ++ [p], .ready paths⟩
  /-- A path is refused. -/
  | refuse {files : FileSystem} {a : Artifact} {written : List Path} {progress : Progress}
      (hrefuses : Refuses fails files progress) :
      Advance fails files ⟨a, written, progress⟩ files ⟨a, written, .stopped progress.rest⟩

end Writer

/-- Writers at work: those of the plain artifacts, and those of the barrels,
which wait for them. -/
structure Session where
  files : FileSystem
  writers : List Writer
  barrels : List Writer

namespace Session

/-- All writers of a session. -/
def all (s : Session) : List Writer :=
  s.writers ++ s.barrels

/-- A session in which nothing is done yet. -/
def start (files : FileSystem) (artifacts barrels : List Artifact) : Session :=
  ⟨files, artifacts.map Writer.start, barrels.map Writer.start⟩

/-- One writer takes a turn. A barrel takes one only if all plain artifacts
and the barrels before it are written. -/
inductive Step (fails : Path → Prop) : Session → Session → Prop
  | plain {files files' : FileSystem} {front back barrels : List Writer} {w w' : Writer}
      (hturn : Writer.Advance fails files w files' w') :
      Step fails ⟨files, front ++ w :: back, barrels⟩ ⟨files', front ++ w' :: back, barrels⟩
  | barrel {files files' : FileSystem} {writers front back : List Writer} {w w' : Writer}
      (hwriters : ∀ v ∈ writers, v.Finished) (hfront : ∀ b ∈ front, b.Finished)
      (hturn : Writer.Advance fails files w files' w') :
      Step fails ⟨files, writers, front ++ w :: back⟩ ⟨files', writers, front ++ w' :: back⟩

/-- A session comes to another by turns. -/
def Reaches (fails : Path → Prop) : Session → Session → Prop :=
  Relation.ReflTransGen (Step fails)

/-- No writer was refused a path. -/
def Unfailing (s : Session) : Prop :=
  ∀ w ∈ s.all, ¬w.Failed

/-- Every writer has nothing left to write. -/
def Complete (s : Session) : Prop :=
  ∀ w ∈ s.all, w.Finished

end Session

/-! ## Turns that can be taken -/

section

variable {fails : Path → Prop} {files files' : FileSystem} {w w' : Writer}

/-- A writer stays with its artifact, whatever its turn is: no case of
`Writer.Advance` changes it. -/
theorem Writer.Advance.artifact_eq (h : Writer.Advance fails files w files' w') :
    w'.artifact = w.artifact := by
  cases h <;> rfl

/-- A writer that has finished was not refused a path, since
`Writer.Finished` and `Writer.Failed` are about its progress. -/
theorem Writer.Finished.not_failed (h : w.Finished) : ¬w.Failed := by
  rintro ⟨paths, hstopped⟩
  exact nomatch h.symm.trans hstopped

/-- Only a writer that has something left, and was not refused a path, takes
a turn. A refusal is such a turn as well, because `Writer.Refuses` needs a
path to refuse. -/
theorem Writer.Advance.atWork (h : Writer.Advance fails files w files' w') :
    ¬w.Finished ∧ ¬w.Failed := by
  unfold Writer.Finished Writer.Failed
  cases h with
  | enter | pass | make | put => simp
  | @refuse a written progress hrefuses =>
    constructor
    · rintro ⟨⟩
      exact hrefuses
    · rintro ⟨paths, ⟨⟩⟩
      exact hrefuses

/-- A turn that fails its writer is a refusal, and `Writer.Refuses` gave a
reason for it. -/
theorem Writer.Advance.refuses (h : Writer.Advance fails files w files' w') (hfailed : w'.Failed) :
    Writer.Refuses fails files w.progress := by
  cases h with
  | enter | pass | make | put => exact nomatch hfailed
  | refuse hrefuses => exact hrefuses

/-- A writer that is at work can take a turn, whatever the files are: what
`Writer.Refuses` does not exclude is one of the other turns. -/
theorem Writer.exists_advance (fails : Path → Prop) (files : FileSystem) (w : Writer)
    (hfinished : ¬w.Finished) (hfailed : ¬w.Failed) :
    ∃ files' w', Writer.Advance fails files w files' w' := by
  obtain ⟨a, written, progress⟩ := w
  by_cases hrefuses : Writer.Refuses fails files progress
  · exact ⟨_, _, .refuse hrefuses⟩
  -- If the turn is not refused, each progress has one kind of turn.
  match progress with
  | .ready [] => exact absurd rfl hfinished
  | .stopped paths => exact absurd ⟨paths, rfl⟩ hfailed
  | .ready (p :: paths) =>
    simp only [Writer.Refuses, not_or, Bool.not_eq_true, Bool.not_eq_false] at hrefuses
    exact ⟨_, _, .enter hrefuses.1 hrefuses.2.1⟩
  | .inside p place (name :: names) paths =>
    by_cases hdirectory : files.isDirectory (follow place name) = true
    · exact ⟨_, _, .pass hdirectory⟩
    · simp only [Writer.Refuses, not_or, not_and, not_not] at hrefuses
      have hmissing := Bool.eq_false_iff.mpr hdirectory
      exact ⟨_, _, .make hmissing (hrefuses.1 hmissing)⟩
  | .inside p place [] paths =>
    simp only [Writer.Refuses, not_or, not_forall, Bool.not_eq_true] at hrefuses
    obtain ⟨⟨name, hname, hfile⟩, hallowed⟩ := hrefuses
    exact ⟨_, _, .put hname hfile hallowed⟩

end

/-- In a step one of all writers takes a turn, be it a plain one or a
barrel. What is known of `Writer.Advance` is thereby known of sessions. -/
theorem Session.Step.exists_turn {fails : Path → Prop} {s s' : Session}
    (h : Session.Step fails s s') :
    ∃ front back w w', s.all = front ++ w :: back ∧ s'.all = front ++ w' :: back ∧
      Writer.Advance fails s.files w s'.files w' := by
  unfold Session.all
  cases h with
  | @plain files files' front back barrels w w' hturn =>
    exact ⟨front, back ++ barrels, w, w', by simp, by simp, hturn⟩
  | @barrel files files' writers front back w w' _ _ hturn =>
    exact ⟨writers ++ front, back, w, w', by simp, by simp, hturn⟩

/-- No writer of a session can take a turn. -/
def Session.Over (fails : Path → Prop) (s : Session) : Prop :=
  ∀ s', ¬Session.Step fails s s'

/-- A session that is over without a failure is complete. A writer that has
not finished could take a turn by `Writer.exists_advance`. -/
theorem Session.Over.complete {fails : Path → Prop} {s : Session} (h : s.Over fails)
    (hunfailing : s.Unfailing) : s.Complete := by
  obtain ⟨files, writers, barrels⟩ := s
  have hwriters : ∀ w ∈ writers, w.Finished := by
    intro w hw
    rcases Classical.em w.Finished with hfinished | hfinished
    · exact hfinished
    · obtain ⟨files', w', hturn⟩ := w.exists_advance fails files hfinished
        (hunfailing w (List.mem_append_left _ hw))
      obtain ⟨front, back, rfl⟩ := List.append_of_mem hw
      exact absurd (.plain hturn) (h _)
  -- Of the barrels that are not finished the first could take a turn.
  have hbarrels : ∀ front back, barrels = front ++ back → ∀ b ∈ front, b.Finished := by
    intro front
    induction front using List.reverseRecOn with
    | nil => exact fun _ _ => nofun
    | append_singleton front b ih =>
      intro back hsplit
      rw [List.append_assoc, List.singleton_append] at hsplit
      have hfront := ih (b :: back) hsplit
      have hb : b.Finished := by
        rcases Classical.em b.Finished with hfinished | hfinished
        · exact hfinished
        · obtain ⟨files', b', hturn⟩ := b.exists_advance fails files hfinished
            (hunfailing b (List.mem_append_right _ (by simp [hsplit])))
          rw [hsplit] at h
          exact absurd (.barrel hwriters hfront hturn) (h _)
      intro v hv
      rcases List.mem_append.mp hv with hv | hv
      · exact hfront v hv
      · rw [List.mem_singleton.mp hv]
        exact hb
  intro w hw
  rcases List.mem_append.mp hw with hw | hw
  · exact hwriters w hw
  · exact hbarrels barrels [] (List.append_nil _).symm w hw

end SchemaTypes
