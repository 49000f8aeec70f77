import SchemaTypes.Proofs.Generate.Session

/-!
# `SchemaTypes.Proofs.Generate.Sequence`: a run is a session

`writeRun` gives each writer all of its turns at once, one writer after the
other. Entering directories, writing a path, writing all paths of an
artifact and writing a list of artifacts are followed in turn, each as a
sequence of turns that ends with the same files and fails if and only if it
does. So `writeRun` is one session among all those that there are
(`exists_session_writeRun`).
-/

set_option autoImplicit false

namespace SchemaTypes

open FileSystem (holdsNull fits)
open SchemaTypes.Path (follow)

/-- A writer takes turns, and no other does. -/
def Writer.Runs (fails : Path → Prop) (files : FileSystem) (w : Writer) (files' : FileSystem)
    (w' : Writer) : Prop :=
  Relation.ReflTransGen (fun before after : FileSystem × Writer =>
    Writer.Advance fails before.1 before.2 after.1 after.2) (files, w) (files', w')

/-- What became of writers: all have finished, or one was refused a path. -/
def Ended (ws : List Writer) : Option Failure → Prop
  | none => ∀ w ∈ ws, w.Finished
  | some _ => ∃ w ∈ ws, w.Failed

/-- Barrels of which none has a turn: the first that has not finished was
refused a path. -/
def Halted (bs : List Writer) : Prop :=
  ∀ front b back, bs = front ++ b :: back → (∀ v ∈ front, v.Finished) → b.Finished ∨ b.Failed

/-- A path whose directories were entered, or could not be. -/
def Progress.entered (p : Path) (paths : List Path) : Option (List String) → Progress
  | some place => .inside p place [] paths
  | none => .stopped (p :: paths)

section

variable {fails : Path → Prop} {files files₁ files' : FileSystem} {w w₁ w' : Writer} {a : Artifact}
  {p : Path} {paths : List Path}

/-- A turn and then a run are a run, so `Writer.Runs` can be built from the
front. -/
theorem Writer.Runs.head (hturn : Writer.Advance fails files w files₁ w₁)
    (hruns : Writer.Runs fails files₁ w₁ files' w') : Writer.Runs fails files w files' w' :=
  Relation.ReflTransGen.head hturn hruns

/-- One turn, an `Advance`, is a run. -/
theorem Writer.Runs.single (hturn : Writer.Advance fails files w files' w') :
    Writer.Runs fails files w files' w' :=
  Relation.ReflTransGen.single hturn

/-- Two runs, the second from where the first has ended, are one in
`Writer.Runs`. -/
theorem Writer.Runs.trans (hruns : Writer.Runs fails files w files₁ w₁)
    (hruns' : Writer.Runs fails files₁ w₁ files' w') : Writer.Runs fails files w files' w' :=
  Relation.ReflTransGen.trans hruns hruns'

/-- Entering directories, as `FileSystem.enter` does, is a run of a writer,
by induction on the names that lead to them: each is a directory that is
entered, is missing and made, or is something else, for which the path is
refused. -/
theorem Writer.runs_enter (files : FileSystem) (written : List Path) (place names : List String) :
    Writer.Runs fails files ⟨a, written, .inside p place names paths⟩
      (files.enter place names).1 ⟨a, written, .entered p paths (files.enter place names).2⟩ := by
  induction names generalizing files place with
  | nil => exact Relation.ReflTransGen.refl
  | cons name names ih =>
    -- One name is one turn: to enter, to make, or to be refused.
    by_cases hdirectory : files.isDirectory (follow place name) = true
    · rw [FileSystem.enter, if_pos hdirectory]
      exact .head (.pass hdirectory) (ih files _)
    · rw [FileSystem.enter, if_neg hdirectory]
      have hmissing := Bool.eq_false_iff.mpr hdirectory
      cases hentry : files.entry? (follow place name) with
      | none => exact .head (.make hmissing hentry) (ih _ _)
      | some entry =>
        have hne : files.entry? (follow place name) ≠ none := by
          rw [hentry]
          exact nofun
        exact .single (.refuse (Or.inl ⟨hmissing, hne⟩))

/-- Writing a path is a run of its writer, which ends ready for the next
path or, if the path cannot be written, stopped at it. The cases are those
that `FileSystem.write` tells apart. -/
theorem Writer.exists_runs_write (files : FileSystem) (a : Artifact) (written paths : List Path)
    (hallowed : ¬fails p) :
    ∃ w, Writer.Runs fails files ⟨a, written, .ready (p :: paths)⟩
        (files.write p a.contents).1 w ∧
      match (files.write p a.contents).2 with
      | none => w = ⟨a, written ++ [p], .ready paths⟩
      | some _ => w.Failed := by
  have hstopped : Writer.Failed ⟨a, written, .stopped (p :: paths)⟩ := ⟨_, rfl⟩
  unfold FileSystem.write
  by_cases hnull : holdsNull p = true
  · rw [if_pos hnull]
    -- A path with a null character is refused at once.
    exact ⟨_, .single (.refuse (Or.inl hnull)), hstopped⟩
  by_cases hfits : fits p = true
  · rw [if_neg hnull, if_neg (by simp [hfits])]
    -- The directories are entered by a run of its own.
    have hentered : Writer.Runs fails files
        ⟨a, written, .inside p (files.origin p) p.parent.names paths⟩ _ _ :=
      Writer.runs_enter files written (files.origin p) p.parent.names
    have hruns := hentered.head (.enter (Bool.eq_false_iff.mpr hnull) hfits)
    generalize files.enter (files.origin p) p.parent.names = entered at hruns ⊢
    obtain ⟨files', place | place⟩ := entered
    · exact ⟨_, hruns, hstopped⟩
    cases hname : p.names.getLast? with
    | none =>
      -- A path without names has nothing to write to.
      have hrefuses : Writer.Refuses fails files' (.inside p place [] paths) :=
        Or.inl fun name hsome => nomatch hname.symm.trans hsome
      exact ⟨_, hruns.trans (.single (.refuse hrefuses)), hstopped⟩
    | some name =>
      -- A directory at the destination is not replaced.
      by_cases hdirectory : files'.isDirectory (follow place name) = true
      · have hrefuses : Writer.Refuses fails files' (.inside p place [] paths) := by
          refine Or.inl ?_
          intro other hother
          obtain rfl : name = other := Option.some.inj (hname.symm.trans hother)
          exact hdirectory
        simp only [if_pos hdirectory]
        exact ⟨_, hruns.trans (.single (.refuse hrefuses)), hstopped⟩
      · simp only [if_neg hdirectory]
        exact ⟨_, hruns.trans (.single (.put hname (Bool.eq_false_iff.mpr hdirectory) hallowed)),
          rfl⟩
  · rw [if_neg hnull, if_pos (by simp [hfits])]
    exact ⟨_, .single (.refuse (Or.inr (Or.inl (Bool.eq_false_iff.mpr hfits)))), hstopped⟩

/-- Writing all paths of an artifact is a run of its writer, by induction on
the paths: the first that is refused ends the run. Each path is one run by
`Writer.exists_runs_write`. -/
theorem Writer.exists_runs_writePaths (files : FileSystem) (a : Artifact) (written : List Path)
    (hallowed : ∀ p ∈ paths, ¬fails p) :
    ∃ w, Writer.Runs fails files ⟨a, written, .ready paths⟩
        (writePaths files a.contents paths).1 w ∧
      Ended [w] (writePaths files a.contents paths).2 := by
  induction paths generalizing files written with
  | nil => exact ⟨_, Relation.ReflTransGen.refl, List.forall_mem_singleton.mpr rfl⟩
  | cons p paths ih =>
    obtain ⟨w, hruns, hw⟩ :=
      Writer.exists_runs_write files a written paths (hallowed p List.mem_cons_self)
    unfold writePaths
    generalize files.write p a.contents = result at hruns hw ⊢
    obtain ⟨files', fault | fault⟩ := result
    · obtain ⟨w', hruns', hw'⟩ :=
        ih files' (written ++ [p]) fun q hq => hallowed q (List.mem_cons_of_mem p hq)
      rw [hw] at hruns
      exact ⟨w', hruns.trans hruns', hw'⟩
    · exact ⟨w, hruns, w, List.mem_singleton_self w, hw⟩

/-- A run of one of the plain writers is a part of a session, in which the
others wait. Each turn is a `Session.Step`. -/
theorem Writer.Runs.plain (hruns : Writer.Runs fails files w files' w')
    (front back barrels : List Writer) :
    Session.Reaches fails ⟨files, front ++ w :: back, barrels⟩
      ⟨files', front ++ w' :: back, barrels⟩ :=
  Relation.ReflTransGen.lift
    (fun now : FileSystem × Writer => Session.mk now.1 (front ++ now.2 :: back) barrels)
    (fun _ _ hturn => Session.Step.plain hturn) _ _ hruns

/-- A run of a barrel is a part of a session if all plain writers and the
barrels before it have finished, which every `Session.Step` of a barrel
asks. -/
theorem Writer.Runs.barrel (hruns : Writer.Runs fails files w files' w')
    {writers front : List Writer} (hwriters : ∀ v ∈ writers, v.Finished)
    (hfront : ∀ b ∈ front, b.Finished) (back : List Writer) :
    Session.Reaches fails ⟨files, writers, front ++ w :: back⟩
      ⟨files', writers, front ++ w' :: back⟩ :=
  Relation.ReflTransGen.lift
    (fun now : FileSystem × Writer => Session.mk now.1 writers (front ++ now.2 :: back))
    (fun _ _ hturn => Session.Step.barrel hwriters hfront hturn) _ _ hruns

/-- A single writer that has `Ended` has finished or was refused a path. -/
theorem Ended.over {failed : Option Failure} (h : Ended [w] failed) : w.Finished ∨ w.Failed := by
  cases failed with
  | none => exact .inl (List.forall_mem_singleton.mp h)
  | some failure =>
    obtain ⟨v, hv, hfailed⟩ := h
    rw [List.mem_singleton.mp hv] at hfailed
    exact .inr hfailed

/-- One writer has `Ended`, and then others. Together they have ended with
the first failure that there was. -/
theorem Ended.cons {ws : List Writer} {failed failed' : Option Failure} (hw : Ended [w] failed)
    (hws : Ended ws failed') : Ended (w :: ws) (failed <|> failed') := by
  cases failed with
  | none =>
    have hfinished : w.Finished := List.forall_mem_singleton.mp hw
    cases failed' with
    | none => exact List.forall_mem_cons.mpr ⟨hfinished, hws⟩
    | some failure =>
      obtain ⟨v, hv, hfailed⟩ := hws
      exact ⟨v, List.mem_cons_of_mem w hv, hfailed⟩
  | some failure =>
    obtain ⟨v, hv, hfailed⟩ := hw
    exact ⟨v, List.mem_cons.mpr (.inl (List.mem_singleton.mp hv)), hfailed⟩

/-- Barrels are `Halted` if the first one was refused a path, or has
finished and those behind it are halted. -/
theorem Halted.cons {bs : List Writer} (hw : w.Finished ∨ w.Failed)
    (hbs : w.Finished → Halted bs) : Halted (w :: bs) := by
  intro front b back hsplit hfront
  cases front with
  | nil =>
    obtain ⟨rfl, -⟩ := List.cons.inj hsplit
    exact hw
  | cons v front =>
    obtain ⟨rfl, htail⟩ := List.cons.inj hsplit
    exact hbs (hfront w List.mem_cons_self) front b back htail
      fun u hu => hfront u (List.mem_cons_of_mem w hu)

variable {artifacts barrels : List Artifact}

/-- Writing plain artifacts one after the other, as `writeAll` does, is a
session in which each writer has all of its turns at once. A failure of one
does not keep the others from being written. -/
theorem Session.exists_reaches_writeAll (files : FileSystem) (front waiting : List Writer)
    (hallowed : ∀ a ∈ artifacts, ∀ p ∈ a.paths, ¬fails p) :
    ∃ ws, Session.Reaches fails ⟨files, front ++ artifacts.map Writer.start, waiting⟩
        ⟨(writeAll files artifacts).files, front ++ ws, waiting⟩ ∧
      (∀ w ∈ ws, w.Finished ∨ w.Failed) ∧ Ended ws (writeAll files artifacts).failed := by
  induction artifacts generalizing files front with
  | nil => exact ⟨[], Relation.ReflTransGen.refl, nofun, nofun⟩
  | cons a artifacts ih =>
    obtain ⟨w, hruns, hw⟩ :=
      Writer.exists_runs_writePaths files a [] (hallowed a List.mem_cons_self)
    -- The first writer has ended and joins those that are left alone.
    obtain ⟨ws, hreaches, hover, hws⟩ := ih (a.write files).1 (front ++ [w])
      fun b hb => hallowed b (List.mem_cons_of_mem a hb)
    rw [List.append_assoc, List.append_assoc, List.singleton_append, List.singleton_append]
      at hreaches
    exact ⟨w :: ws, (hruns.plain front (artifacts.map Writer.start) waiting).trans hreaches,
      List.forall_mem_cons.mpr ⟨hw.over, hover⟩, hw.cons hws⟩

/-- Writing barrels in order, as `writeInOrder` does, is what a session ends
with, once its plain writers have finished. The barrels behind one that
fails never begin. -/
theorem Session.exists_reaches_writeInOrder (files : FileSystem) (front : List Writer)
    {writers : List Writer} (hwriters : ∀ w ∈ writers, w.Finished)
    (hfront : ∀ b ∈ front, b.Finished) (hallowed : ∀ a ∈ barrels, ∀ p ∈ a.paths, ¬fails p) :
    ∃ bs, Session.Reaches fails ⟨files, writers, front ++ barrels.map Writer.start⟩
        ⟨(writeInOrder files barrels).files, writers, front ++ bs⟩ ∧
      Halted bs ∧ Ended bs (writeInOrder files barrels).failed := by
  induction barrels generalizing files front with
  | nil => exact ⟨[], Relation.ReflTransGen.refl, by simp [Halted], nofun⟩
  | cons a barrels ih =>
    obtain ⟨w, hruns, hw⟩ :=
      Writer.exists_runs_writePaths files a [] (hallowed a List.mem_cons_self)
    have hreaches := hruns.barrel hwriters hfront (barrels.map Writer.start)
    unfold writeInOrder Artifact.write
    generalize writePaths files a.contents a.paths = result at hreaches hw ⊢
    obtain ⟨files', failed | failure⟩ := result
    · -- The first barrel is written, so the next one may begin.
      have hfinished : w.Finished := List.forall_mem_singleton.mp hw
      obtain ⟨bs, hreaches', hhalted, hbs⟩ := ih files' (front ++ [w])
        (List.forall_mem_append.mpr ⟨hfront, hw⟩)
        fun b hb => hallowed b (List.mem_cons_of_mem a hb)
      rw [List.append_assoc, List.append_assoc, List.singleton_append, List.singleton_append]
        at hreaches'
      exact ⟨w :: bs, hreaches.trans hreaches', .cons (.inl hfinished) fun _ => hhalted,
        hw.cons hbs⟩
    · -- The first barrel is refused a path, and the others stay where they were.
      obtain ⟨v, hv, hfailed⟩ := hw
      obtain rfl := List.mem_singleton.mp hv
      exact ⟨v :: barrels.map Writer.start, hreaches,
        .cons (.inr hfailed) fun hfinished => absurd hfailed hfinished.not_failed,
        v, List.mem_cons_self, hfailed⟩

/-- A session is over once none of its plain writers is at work, and none of
its barrels has a turn (`Halted`). -/
theorem Session.over_of_halted {writers bs : List Writer}
    (hwriters : ∀ w ∈ writers, w.Finished ∨ w.Failed)
    (hbarrels : (∀ w ∈ writers, w.Finished) → Halted bs) :
    Session.Over fails ⟨files, writers, bs⟩ := by
  intro s' hstep
  cases hstep with
  -- Whoever takes a turn is at work, by `Writer.Advance.atWork`.
  | @plain _ files' front back _ w w' hturn =>
    rcases hwriters w (by simp) with hfinished | hfailed
    · exact hturn.atWork.1 hfinished
    · exact hturn.atWork.2 hfailed
  | @barrel _ files' _ front back w w' hall hfront hturn =>
    rcases hbarrels hall front w back rfl hfront with hfinished | hfailed
    · exact hturn.atWork.1 hfinished
    · exact hturn.atWork.2 hfailed

/-- A run that writes one artifact after the other, as `writeRun` does, is a
session, if none of its paths is to fail. Both end with the same files, and
the run has failed exactly if a writer was refused a path. -/
theorem exists_session_writeRun (files : FileSystem)
    (hallowed : ∀ a ∈ artifacts ++ barrels, ∀ p ∈ a.paths, ¬fails p) :
    ∃ s, Session.Reaches fails (.start files artifacts barrels) s ∧ s.Over fails ∧
      s.files = (writeRun files artifacts barrels).files ∧
      ((writeRun files artifacts barrels).failed = none ↔ s.Unfailing) := by
  obtain ⟨hplain, hbarrels⟩ := List.forall_mem_append.mp hallowed
  obtain ⟨ws, hreaches, hover, hws⟩ :=
    Session.exists_reaches_writeAll files [] (barrels.map Writer.start) hplain
  cases hfailed : (writeAll files artifacts).failed with
  | some failure =>
    -- A plain artifact has failed, and no barrel is begun.
    have hrun : writeRun files artifacts barrels = writeAll files artifacts := by
      simp only [writeRun, hfailed]
    rw [hfailed] at hws
    obtain ⟨w, hw, hstopped⟩ := hws
    rw [hrun, hfailed]
    refine ⟨_, hreaches, Session.over_of_halted hover ?_, rfl, nofun, ?_⟩
    · intro hall
      exact absurd hstopped (hall w hw).not_failed
    · intro hunfailing
      exact absurd hstopped (hunfailing w (List.mem_append_left _ hw))
  | none =>
    rw [hfailed] at hws
    obtain ⟨bs, hreaches', hhalted, hbs⟩ :=
      Session.exists_reaches_writeInOrder (writeAll files artifacts).files [] hws nofun hbarrels
    -- All plain artifacts are written, and the barrels decide.
    have hrun : (writeRun files artifacts barrels).files =
          (writeInOrder (writeAll files artifacts).files barrels).files ∧
        (writeRun files artifacts barrels).failed =
          (writeInOrder (writeAll files artifacts).files barrels).failed := by
      simp [writeRun, hfailed]
    rw [hrun.1, hrun.2]
    refine ⟨_, hreaches.trans hreaches', Session.over_of_halted hover fun _ => hhalted, rfl, ?_⟩
    cases hlast : (writeInOrder (writeAll files artifacts).files barrels).failed with
    | none =>
      rw [hlast] at hbs
      refine ⟨fun _ w hw => ?_, fun _ => rfl⟩
      exact (List.forall_mem_append.mpr ⟨hws, hbs⟩ w hw).not_failed
    | some failure =>
      rw [hlast] at hbs
      obtain ⟨b, hb, hstopped⟩ := hbs
      exact ⟨nofun, fun hunfailing => absurd hstopped (hunfailing b (List.mem_append_right _ hb))⟩

end

end SchemaTypes
