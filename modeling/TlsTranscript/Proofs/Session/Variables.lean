import TlsTranscript.Proofs.Session.Calls
import TlsTranscript.Proofs.Transcript.Destination

/-!
# Variables stay

In a session in which no variable is set or removed on request, only loads of settings
change the environment, and a load gives values to names that have none. So every name
keeps the value that it once has, whatever the steps are and whether or not they fail.
-/

namespace TlsTranscript

open Changing Framing

/-- The frame of actions under which every variable keeps its value. -/
def World.extending : Framing World where
  Passes before after := after.environment.Extends before.environment
  refl world := .refl world.environment
  trans := Environment.Extends.trans

/-- What is quiet leaves the variables alone. -/
theorem World.extends_of_quiet {α : Type} {action : Action α} (h : action.Quiet) :
    World.extending.Covers action := by
  intro w
  obtain ⟨told, htold⟩ := h
  have hafter : (runIn action w).2 = _ := congrArg Prod.snd (htold w)
  rw [hafter]
  exact .refl w.environment

/-- A load of settings leaves alone what is set. -/
theorem Settings.extends_loadFrom (path : Except Failure (Option GivenPath)) :
    World.extending.Covers (loadFrom path) :=
  covers_loadFrom (fun _ _ hext => hext) path

namespace Transcript

/-- Other files in a world leave the variables alone. -/
theorem extends_files (w : World) (files : FileTree) :
    World.extending.Passes w (runIn (set { w with files := files } : Action PUnit) w).2 :=
  .refl w.environment

/-- Writing a file leaves the variables alone. -/
theorem extends_overwrite (path : GivenPath) (content : Bytes) :
    World.extending.Covers (overwrite path content) := by
  refine covers_get_bind fun w => ?_
  cases w.files.write path content with
  | error failure => exact .refl w.environment
  | ok files => exact extends_files w files

/-- Making directories leaves the variables alone. -/
theorem extends_makeDirectories (welcome : Bool) (path : GivenPath) :
    World.extending.Covers (makeDirectories welcome path) := by
  refine covers_get_bind fun w => ?_
  rcases w.files.provideDirectories welcome path with ⟨files, _ | failure⟩
  · exact extends_files w files
  · exact extends_files w files

/-- Adding lines to a file leaves the variables alone. -/
theorem extends_appendTo (path : GivenPath) (row : Except Failure (List Line)) :
    World.extending.Covers (appendTo path row) := by
  refine covers_get_bind fun w => ?_
  rcases linesOfRow row with ⟨written, failure⟩
  dsimp only
  cases w.files.append path (encode written) with
  | error failure => exact .refl w.environment
  | ok files =>
    have hfiles : runIn (onFiles (.ok files)) w = (.ok files, w) := rfl
    rw [runIn_bind_of_ok hfiles]
    refine passes_bind (extends_files w files) fun _ after _ => ?_
    cases failure with
    | some failure => exact covers_throw failure after
    | none =>
      exact covers_bind (World.extends_of_quiet (Action.quiet_note _))
        (fun _ => covers_pure _) after

/-- Adding lines to a transcript leaves alone what is set. -/
theorem extends_appendRow (row : Except Failure (List Line)) (name directory : Datum) :
    World.extending.Covers (appendRow row name directory) :=
  covers_bind (covers_directoryFor (Settings.extends_loadFrom _) directory) fun _ =>
    covers_bind (covers_nameFor name) fun _ =>
      covers_bind (covers_ofResult _) fun _ =>
        covers_bind (extends_makeDirectories _ _) fun _ =>
          covers_bind (covers_ofResult _) fun _ => extends_appendTo _ _

/-- Reading a file leaves the variables alone. -/
theorem extends_contentOf (path : Datum) : World.extending.Covers (contentOf path) :=
  covers_bind (covers_ofResult _) fun _ =>
    covers_get_bind fun _ => covers_onFiles _ _

/-- Taking the digest of a file leaves the variables alone. -/
theorem extends_digestOf (path : Datum) : World.extending.Covers (digestOf path) :=
  covers_bind (extends_contentOf path) fun _ => covers_pure _

/-- Reading the lines of a file leaves the variables alone. -/
theorem extends_read (path : Datum) : World.extending.Covers (read path) :=
  covers_bind (extends_contentOf path) fun _ => covers_ofResult _

/-- Comparing a file with lines leaves the variables alone. -/
theorem extends_compareRow (path : Datum) (row : Except Failure (List Line)) :
    World.extending.Covers (compareRow path row) :=
  covers_bind (extends_read path) fun _ =>
    covers_bind (covers_ofResult _) fun _ => covers_pure _

end Transcript

open Transcript

namespace CommandLine

/-- Rendering the lines of a run is quiet. -/
theorem quiet_render (source : Source) : (render source).Quiet := by
  refine Action.quiet_bind (Action.quiet_ofResult _) fun structures => ?_
  obtain ⟨messages, extensions⟩ := structures
  exact Action.quiet_bind (Datum.quiet_renderLines messages) fun _ =>
    Action.quiet_bind (Datum.quiet_renderExtensions extensions) fun _ =>
      Action.quiet_bind (Action.quiet_note _) fun _ => Action.quiet_pure _

/-- Storing lines leaves alone what is set. -/
theorem extends_store (settings : Settings) (name : String) (lines : List String) :
    World.extending.Covers (store settings name lines) :=
  covers_bind (extends_appendRow _ _ _) fun _ => covers_bind (extends_digestOf _) fun _ =>
    covers_pure _

/-- A run leaves alone what is set. -/
theorem extends_perform (source : Source) (transcript : Option String) :
    World.extending.Covers (perform source transcript) := by
  refine covers_bind (Settings.extends_loadFrom _) fun settings => ?_
  refine covers_bind (World.extends_of_quiet (quiet_render source)) fun lines => ?_
  dsimp only
  split
  · exact covers_pure _
  · exact covers_bind (extends_store settings _ lines) fun _ => covers_pure _

/-- A command line leaves alone what is set. -/
theorem extends_execute (arguments : List String) (source : Source) :
    World.extending.Covers (execute arguments source) := by
  unfold execute
  split
  · exact covers_pure _
  · exact covers_pure _
  · exact extends_perform source _

end CommandLine

namespace Operation

/-- A load of settings as an operation answers what is loaded. -/
theorem run_loadSettings (file : Datum) :
    loadSettings.run [file] =
      (do return .model (.settings (← Settings.loadFrom (settingsPath file)))) := rfl

/-- Every operation leaves alone what is set. -/
theorem extends_run (operation : Operation) (arguments : List Datum) :
    World.extending.Covers (operation.run arguments) := by
  rcases operation.quiet_or_looksFurther arguments with hquiet | hfurther
  · exact World.extends_of_quiet hquiet
  · cases hfurther with
    | loadSettings file =>
      rw [run_loadSettings]
      exact covers_bind (Settings.extends_loadFrom _) fun _ => covers_pure _
    | append data name directory =>
      exact covers_bind (extends_appendRow _ _ _) fun _ => covers_pure _
    | appendRow given name directory =>
      exact covers_bind (extends_appendRow _ _ _) fun _ => covers_pure _
    | fileDigest path => exact covers_bind (extends_digestOf _) fun _ => covers_pure _
    | readLines path => exact covers_bind (extends_read _) fun _ => covers_pure _
    | compareLines path expected =>
      exact covers_bind (extends_compareRow _ _) fun _ => covers_pure _
    | compareRow given path =>
      exact covers_bind (extends_compareRow _ _) fun _ => covers_pure _

end Operation

/-- Setting up logging may load the settings. -/
theorem Step.extends_levelFor (settings : Datum) :
    World.extending.Covers (levelFor settings) := by
  unfold levelFor
  split
  · exact covers_ofResult _
  · exact covers_bind (Settings.extends_loadFrom _) fun _ => covers_pure _

/-- Nothing that a step does to the world touches what is set. -/
theorem World.extending_coversActions : World.extending.CoversActions where
  operation := Operation.extends_run
  overwrite := extends_overwrite
  makeDirectories := extends_makeDirectories
  contentOf := extends_contentOf
  levelFor := Step.extends_levelFor
  execute := CommandLine.extends_execute

/-- What a load of settings as an operation does to a world. -/
theorem Operation.runIn_loadSettings (file : Datum) (w : World) :
    (loadSettings.run [file]).runIn w =
      (((Settings.loadFrom (settingsPath file)).runIn w).1.map fun settings =>
          .model (.settings settings),
        ((Settings.loadFrom (settingsPath file)).runIn w).2) := by
  rw [run_loadSettings, Action.runIn_bind]
  rcases (Settings.loadFrom (settingsPath file)).runIn w with ⟨_ | settings, after⟩ <;> rfl

namespace Session

/-- Configuration stays in a session in which no variable is set or removed on request.
Every name keeps the value that it has. A load of settings that is done again, with the
files as they were, changes nothing and has the same result, provided that the environment
took the values of the file. If the log level and the directory are both set, every later
load that gets past its file has the settings that they make, whatever file it reads. -/
theorem variables_stay (session : Session) (requests : List Request)
    (h : ∀ request ∈ requests, request.step.KeepsVariables) :
    let later := (session.run requests).2.world
    later.environment.Extends session.world.environment ∧
    (∀ (file : Datum) (again : World),
      Settings.Takes later.environment later.files (Operation.settingsPath file) →
      again.files = later.files →
      again.environment = ((Operation.loadSettings.run [file]).runIn later).2.environment →
        (Operation.loadSettings.run [file]).runIn again =
          (((Operation.loadSettings.run [file]).runIn later).1, again)) ∧
    (Settings.Bound session.world.environment → ∀ file : Datum,
      ((Settings.applyFile (Operation.settingsPath file)).runIn later).1 = .ok () →
        ((Operation.loadSettings.run [file]).runIn later).1 =
          (Settings.ofEnvironment session.world.environment).map fun settings =>
            .model (.settings settings)) := by
  intro later
  have hext : later.environment.Extends session.world.environment :=
    worldly_run World.extending_coversActions
      (fun session _ => .refl session.world.environment) h
  refine ⟨hext, fun file again htakes hfiles henv => ?_, fun hbound file hpast => ?_⟩
  · rw [Operation.runIn_loadSettings] at henv ⊢
    rw [Operation.runIn_loadSettings, Settings.runIn_loadFrom_again htakes hfiles henv]
  · rw [Operation.runIn_loadSettings, Settings.runIn_loadFrom_of_bound (hbound.mono hext) hpast,
      Settings.ofEnvironment_of_extends hbound hext]

/-- A request to load the settings from the usual file. -/
def loading : Request where
  step := .call
    { operation := .loadSettings
      callable := .fixed { operation := "load_settings", required := [], optional := ["env_file"] }
      positional := []
      named := [] }
  listening := false

/-- A request to write the usual file. -/
def writing (text : String) : Request where
  step := .overwrite Settings.defaultFile (.constant (.octets (Utf8.encode text)))
  listening := false

/-- A session in which a level and a directory are set. -/
def configured : Session where
  world :=
    { environment := [(Settings.levelName, "info"), (Settings.directoryName, "kept")] }

/-- A file that names another level is written and loaded. -/
def reconfiguring : List Request := [writing "A=1\nTLSDEBUG_LOG_LEVEL=none\n", loading]

/-- The level and the directory that are set stay, next to what is new in the file, and a
load that is done twice then changes nothing. -/
theorem variables_stay_info :
    let later := (configured.run reconfiguring).2.world
    let load := Operation.loadSettings.run [.absent]
    Keyed.get? Settings.levelName later.environment = some "info" ∧
      Keyed.get? "A" later.environment = some "1" ∧
      (load.runIn later).1 = .ok (.model (.settings ⟨"INFO", "kept"⟩)) ∧
      load.runIn (load.runIn later).2 = ((load.runIn later).1, (load.runIn later).2) := by
  have hkeeps : ∀ request ∈ reconfiguring, request.step.KeepsVariables := by
    simp [reconfiguring, writing, loading, Step.KeepsVariables]
  obtain ⟨hext, hagain, hpast⟩ := variables_stay configured reconfiguring hkeeps
  -- the later world is opened only where something is asked of it
  generalize hlater : (configured.run reconfiguring).2.world = later at hext hagain hpast
  have henv : later.environment =
      [(Settings.levelName, "info"), (Settings.directoryName, "kept"), ("A", "1")] := by
    rw [← hlater]
    rfl
  have hvalues : Settings.fileValues later.environment later.files
      (Operation.settingsPath .absent) =
        .ok [("A", some "1"), (Settings.levelName, some "none")] := by
    rw [henv, ← hlater]
    rfl
  have htakes : Settings.Takes later.environment later.files
      (Operation.settingsPath .absent) := by
    intro values hv
    rw [hvalues] at hv
    obtain rfl := Except.ok.inj hv
    rw [henv]
    rfl
  have hpasses :
      ((Settings.applyFile (Operation.settingsPath .absent)).runIn later).1 = .ok () := by
    rw [Settings.runIn_applyFile, hvalues, henv]
    rfl
  have hfiles : ((Operation.loadSettings.run [.absent]).runIn later).2.files = later.files := by
    rw [Operation.runIn_loadSettings]
    obtain ⟨_, -, hafter⟩ := Settings.exists_runIn_loadFrom (Operation.settingsPath .absent) later
    rw [hafter]
  exact ⟨hext _ _ rfl, by rw [henv]; rfl, hpast ⟨rfl, rfl⟩ .absent hpasses,
    hagain .absent _ htakes hfiles rfl⟩

/-- A file whose values can only be set once one of them is set: a name stands for another
one, which is bound first to a text that no variable takes and then to one that can be
set. -/
def lateFile : String := "A=\x00\nB=$\x7bA\x7d\nA=2\n"

/-- A load that fails while it sets the names of its file has set some of them, and done
again it finds others: now it succeeds, and sets one more. -/
theorem variables_differ_again :
    let failed := (run {} [writing lateFile, loading]).2
    (run {} [writing lateFile, loading]).1.map Answer.outcome =
        [.ok (.datum .absent), .error (.refused .embeddedNul)] ∧
      (failed.answer loading).1.outcome =
        .ok (.datum (.model (.settings ⟨"WARNING", "transcripts"⟩))) ∧
      Keyed.get? "B" failed.world.environment = none ∧
      Keyed.get? "B" (failed.answer loading).2.world.environment = some "2" :=
  ⟨rfl, rfl, rfl, rfl⟩

end Session

end TlsTranscript
