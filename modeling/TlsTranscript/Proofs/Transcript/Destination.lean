import TlsTranscript.Proofs.Session.Frames
import TlsTranscript.Proofs.Settings.Load
import TlsTranscript.Proofs.Transcript.Append

/-!
# Where lines go

A call that adds lines first finds its path: it may ask the settings for a directory and the
clock for a name, and it makes the directories on the way. Whatever comes of that, the files
have at most new directories by then. Then the file is opened, or the call fails. So a call
is told by the file that it opens: none, and then no file changes, or one, and then the texts
in front of the first line that cannot be written stand at the end of it.
-/

namespace TlsTranscript

open Changing Framing

/-- No file changes where a tree only gets new directories. -/
theorem FileTree.Grows.contentAt {before after : FileTree} (h : Grows before after)
    (names : List Bytes) : after.contentAt names = before.contentAt names := by
  rcases h names with hs | ⟨hnone, hd⟩
  · rw [FileTree.contentAt, FileTree.contentAt, hs]
  · simp only [FileTree.contentAt, hnone, hd]

/-- The frame of actions that do no more to the files than make directories. -/
def World.growing : Framing World where
  Passes before after := FileTree.Grows before.files after.files
  refl world := .refl world.files
  trans := FileTree.Grows.trans

/-- A load of settings is covered by every frame that new variables pass. -/
theorem Settings.covers_loadFrom {frame : Framing World}
    (h : ∀ (w : World) (environment : Environment), environment.Extends w.environment →
      frame.Passes w { w with environment := environment })
    (path : Except Failure (Option GivenPath)) : frame.Covers (loadFrom path) := by
  intro w
  obtain ⟨environment, hext, hafter⟩ := exists_runIn_loadFrom path w
  have hlast : (runIn (loadFrom path) w).2 = { w with environment := environment } := hafter
  rw [hlast]
  exact h w environment hext

/-- A load of settings leaves the files alone. -/
theorem Settings.growing_loadFrom (path : Except Failure (Option GivenPath)) :
    World.growing.Covers (loadFrom path) :=
  covers_loadFrom (fun w _ _ => FileTree.Grows.refl w.files) path

namespace Transcript

variable {frame : Framing World}

/-- A known result is covered by every frame. -/
theorem covers_ofResult {α : Type} (result : Except Failure α) :
    frame.Covers (Action.ofResult result) := frame.refl

/-- A result on files is covered by every frame. -/
theorem covers_onFiles {α : Type} (result : Except FileFailure α) :
    frame.Covers (onFiles result) := by
  cases result with
  | ok value => exact covers_pure _
  | error failure => exact covers_throw _

/-- Finding the directory for transcripts is covered if a load of settings is. -/
theorem covers_directoryFor (hload : frame.Covers Settings.load) (directory : Datum) :
    frame.Covers (directoryFor directory) := by
  unfold directoryFor
  split
  · exact covers_pure _
  · exact covers_bind hload fun _ => covers_pure _

/-- Finding the name for a transcript is covered by every frame. -/
theorem covers_nameFor (name : Datum) : frame.Covers (nameFor name) := by
  unfold nameFor
  split
  · exact covers_pure _
  · exact covers_get_bind fun _ =>
      covers_bind (covers_ofResult _) (fun _ => covers_pure _) _

/-- Making directories does no more to the files. -/
theorem growing_makeDirectories (welcome : Bool) (path : GivenPath) :
    World.growing.Covers (makeDirectories welcome path) := by
  intro w
  have hafter : (runIn (makeDirectories welcome path) w).2 = _ :=
    congrArg Prod.snd (runIn_makeDirectories welcome path w)
  rw [hafter]
  exact FileTree.provideDirectories_grows welcome w.files path

/-- The path that lines are added at; the directories on the way are made. -/
def destination (name directory : Datum) : Action GivenPath := do
  let directory ← directoryFor directory
  let name ← nameFor name
  let directory ← Action.ofResult directory.pathOperand
  makeDirectories true directory
  Action.ofResult (joinPath directory name)

/-- Finding the path does no more to the files than make directories. -/
theorem growing_destination (name directory : Datum) :
    World.growing.Covers (destination name directory) :=
  covers_bind (covers_directoryFor (Settings.growing_loadFrom _) directory) fun _ =>
    covers_bind (covers_nameFor name) fun _ =>
      covers_bind (covers_ofResult _) fun _ =>
        covers_bind (growing_makeDirectories _ _) fun _ => covers_ofResult _

/-- Lines are added at the path that is found. -/
theorem appendRow_eq_destination_bind (row : Except Failure (List Line))
    (name directory : Datum) :
    appendRow row name directory =
      destination name directory >>= fun path => appendTo path row := by
  simp only [appendRow, destination, bind_assoc]

/-- The path at which a call to add lines opens its file, if it comes to that. -/
def opened? (name directory : Datum) (w : World) : Option GivenPath :=
  match (destination name directory).runIn w with
  | (.ok path, after) => (after.files.open? path).toOption.map fun _ => path
  | (.error _, _) => none

/-- A call that opens a file has found its path, and the file can be opened there. -/
theorem exists_of_opened? {name directory : Datum} {w : World} {path : GivenPath}
    (h : opened? name directory w = some path) :
    ∃ made found, (destination name directory).runIn w = (.ok path, made) ∧
      made.files.open? path = .ok found := by
  unfold opened? at h
  rcases hd : (destination name directory).runIn w with ⟨failure | joined, made⟩
  · rw [hd] at h
    cases h
  · rw [hd] at h
    dsimp only at h
    cases ho : made.files.open? joined with
    | error failure =>
      rw [ho] at h
      cases h
    | ok found =>
      rw [ho] at h
      obtain rfl : joined = path := Option.some.inj h
      exact ⟨made, found, rfl, ho⟩

/-- A call with a directory and a name of its own whose file can be opened opens it. -/
theorem Call.Opens.opened? {call : Call} {w : World} (h : call.Opens w.files) :
    ∃ path, Transcript.opened? call.name call.directory w = some path := by
  obtain ⟨directory, path, found, hd, hj, hmade, hopen⟩ := h.opened
  have hmake := runIn_makeDirectories true directory w
  rw [hmade] at hmake
  have hdestination : (destination call.name call.directory).runIn w =
      (.ok path, { w with files := (w.files.provideDirectories true directory).1 }) := by
    unfold destination
    rw [Action.runIn_bind_of_ok (runIn_directoryFor h.directoryGiven w),
      Action.runIn_bind_of_ok (runIn_nameFor h.nameGiven w), hd,
      Action.runIn_bind_of_ok (Action.runIn_ofResult _ w), Action.runIn_bind_of_ok hmake, hj,
      Action.runIn_ofResult]
  refine ⟨path, ?_⟩
  simp only [Transcript.opened?, hdestination, hopen]
  rfl

/-- No file changes where none can be opened. -/
theorem runIn_appendTo_of_error {path : GivenPath} {w : World} {failure : FileFailure}
    (row : Except Failure (List Line)) (h : w.files.open? path = .error failure) :
    (appendTo path row).runIn w = (.error (.file failure), w) := by
  have happend : ∀ more, w.files.append path more = .error failure := by
    intro more
    simp only [FileTree.append, h]
  unfold appendTo
  rw [Action.runIn_bind_of_ok (Action.runIn_get w)]
  simp only [happend]
  rfl

/-- What a call to add lines does to the files. If it opens none, there are at most new
directories; if it opens one, the texts that it writes stand at the end of that one. -/
theorem files_appendRow (row : Except Failure (List Line)) (name directory : Datum)
    (w : World) :
    match opened? name directory w with
    | none => w.files.Grows ((appendRow row name directory).runIn w).2.files
    | some path => w.files.Appended ((appendRow row name directory).runIn w).2.files path
        (octetsOfLines (textsOf row)) := by
  have hgrows : w.files.Grows ((destination name directory).runIn w).2.files :=
    growing_destination name directory w
  rw [appendRow_eq_destination_bind]
  unfold opened?
  rcases hd : (destination name directory).runIn w with ⟨failure | path, made⟩
  · rw [hd] at hgrows
    rw [Action.runIn_bind_of_error hd]
    exact hgrows
  · rw [hd] at hgrows
    rw [Action.runIn_bind_of_ok hd]
    dsimp only
    cases ho : made.files.open? path with
    | error failure =>
      rw [runIn_appendTo_of_error row ho]
      exact hgrows
    | ok found =>
      obtain ⟨files, ha, happended⟩ :=
        FileTree.appended_of_grows hgrows ho (octetsOfLines (textsOf row))
      have hfiles : ((appendTo path row).runIn made).2.files = files := by
        rw [runIn_appendTo made row ha]
        cases (linesOfRow row).2 <;> rfl
      rw [hfiles]
      exact happended

/-- Adding lines at a path answers that path if it succeeds, and has opened its file. -/
theorem open?_of_appendTo {path answered : GivenPath} {row : Except Failure (List Line)}
    {w after : World} (h : (appendTo path row).runIn w = (.ok answered, after)) :
    answered = path ∧ ∃ found, w.files.open? path = .ok found := by
  cases ho : w.files.open? path with
  | error failure =>
    rw [runIn_appendTo_of_error row ho] at h
    cases h
  | ok found =>
    obtain ⟨files, ha, -⟩ :=
      FileTree.appended_of_grows (.refl w.files) ho (octetsOfLines (textsOf row))
    rw [runIn_appendTo w row ha] at h
    refine ⟨?_, found, rfl⟩
    cases hl : (linesOfRow row).2 with
    | none =>
      rw [hl] at h
      exact (Except.ok.inj (Prod.mk.inj h).1).symm
    | some failure =>
      rw [hl] at h
      cases h

/-- A call to add lines that succeeds has opened the file at the path that it answers. -/
theorem opened?_of_appendRow {row : Except Failure (List Line)} {name directory : Datum}
    {w after : World} {path : GivenPath}
    (h : (appendRow row name directory).runIn w = (.ok path, after)) :
    opened? name directory w = some path := by
  rw [appendRow_eq_destination_bind] at h
  obtain ⟨joined, made, hd, hwrite⟩ := Action.runIn_bind_eq_ok h
  obtain ⟨rfl, found, ho⟩ := open?_of_appendTo hwrite
  simp only [opened?, hd, ho]
  rfl

/-- A call to add lines that succeeds has added them at the path that it answers. -/
theorem appended_of_appendRow {row : Except Failure (List Line)} {name directory : Datum}
    {w after : World} {path : GivenPath}
    (h : (appendRow row name directory).runIn w = (.ok path, after)) :
    w.files.Appended after.files path (octetsOfLines (textsOf row)) := by
  have hfiles := files_appendRow row name directory w
  rw [opened?_of_appendRow h, h] at hfiles
  exact hfiles

end Transcript

end TlsTranscript
