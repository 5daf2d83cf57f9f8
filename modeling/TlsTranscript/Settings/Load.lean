import TlsTranscript.EnvFile.Expansion
import TlsTranscript.Settings.Basic
import TlsTranscript.Text.Lines
import TlsTranscript.Text.UpperCase
import TlsTranscript.World

/-!
# Loading of settings

Settings come from the environment. Before they are read, the bindings of an
environment file are added to it: a name that is already in the environment keeps
its value, so the environment comes before the file and the file before the
defaults. Added names stay, even if the settings are then refused.

Reading the file and adding its bindings is what the environment-file library does
when it is asked not to override. How it reads a file is a parameter of the loading;
`fileValues` follows its documented format.
-/

namespace TlsTranscript

/-- The name under which the log level is set. -/
def Settings.levelName : String := "TLSDEBUG_LOG_LEVEL"

/-- The name under which the directory of the transcripts is set. -/
def Settings.directoryName : String := "TLSDEBUG_TRANSCRIPT_DIR"

/-- The environment file that is read if no other one is named. -/
def Settings.defaultFile : String := ".env"

/-- The levels that can be set. -/
def Settings.levels : List String :=
  ["CRITICAL", "FATAL", "ERROR", "WARN", "WARNING", "INFO", "DEBUG", "NOTSET"]

namespace Environment

/-- A character with the case of letters left aside, as far as letters of ASCII
come out. -/
def foldCase (c : Char) : Char :=
  if c = Char.ofNat 0x17F then 's'
  else if 65 ≤ c.toNat ∧ c.toNat ≤ 90 then Char.ofNat (c.toNat + 32)
  else c

/-- The name under which reading of environment files is forbidden. -/
def forbiddingName : String := "PYTHON_DOTENV_DISABLED"

/-- Whether the environment forbids to read environment files. -/
def forbidsFiles (environment : Environment) : Bool :=
  match Keyed.get? forbiddingName environment with
  | some value =>
    ["1", "true", "t", "yes", "y"].contains (String.ofList (value.toList.map foldCase))
  | none => false

/-- The environment with a variable set. -/
def set (environment : Environment) (name value : String) : Except Failure Environment :=
  if name.toList.contains (Char.ofNat 0) || value.toList.contains (Char.ofNat 0) then
    .error (.refused .embeddedNul)
  else if name.toList.contains '=' then .error (.refused .illegalName)
  else if name = "" then .error (.machine .unusableValue)
  else .ok (Keyed.put name value environment)

/-- The environment with a value for a name that it lacks. A name without a
value and a name that is there already change nothing. -/
def provide (environment : Environment) (name : String) (value : Option String) :
    Except Failure Environment :=
  match Keyed.get? name environment, value with
  | none, some value => environment.set name value
  | _, _ => .ok environment

/-- The environment with values for the names that it lacks, up to the first
that is refused. -/
def provideAll (environment : Environment) :
    List (String × Option String) → Environment × Option Failure
  | [] => (environment, none)
  | (name, value) :: rest =>
    match environment.provide name value with
    | .ok more => provideAll more rest
    | .error failure => (environment, some failure)

end Environment

/-- The text of an environment file, without a mark at its start. -/
def EnvFile.textOf (content : Bytes) : Except Failure (List Char) :=
  match Utf8.decode content with
  | .error fault => .error (.undecodable fault)
  | .ok text =>
    match Text.unifyLineEnds text.toList with
    | c :: rest => .ok (if c = Char.ofNat 0xFEFF then rest else c :: rest)
    | [] => .ok []

namespace Settings

/-- A way to read environment files: the values that the file at a path gives to names. -/
abbrev Reader := Environment → FileTree → Except Failure (Option GivenPath) →
  Except Failure (Keyed String (Option String))

/-- The values that the environment file at a path gives to names. -/
def valuesAt (environment : Environment) (files : FileTree) (path : GivenPath) :
    Except Failure (Keyed String (Option String)) :=
  match files.find path.toOctets with
  | .ok (.file content) =>
    (EnvFile.textOf content).map fun text =>
      EnvFile.resolve environment (EnvFile.bindings text)
  | _ => .ok []

/-- The values that an environment file gives to names. Its path is not looked
at where files are forbidden. -/
def fileValues (environment : Environment) (files : FileTree)
    (path : Except Failure (Option GivenPath)) :
    Except Failure (Keyed String (Option String)) :=
  if environment.forbidsFiles then .ok []
  else match path with
    | .ok (some path) => valuesAt environment files path
    | .ok none => .ok []
    | .error failure => .error failure

/-- The bindings that a reader finds in an environment file added to the
environment. -/
def applyBy (read : Reader) (path : Except Failure (Option GivenPath)) : Action Unit := do
  let world ← get
  let values ← Action.ofResult (read world.environment world.files path)
  let (environment, failure) := world.environment.provideAll values
  set { world with environment := environment }
  match failure with
  | none => return ()
  | some failure => throw failure

/-- The bindings of an environment file added to the environment. -/
def applyFile (path : Except Failure (Option GivenPath)) : Action Unit :=
  applyBy fileValues path

/-- The level that a setting names: the blanks around it and the case of its
letters do not count. -/
def levelOf (value : String) : String :=
  String.ofList (Text.upper (Text.trim Text.isBlank value.toList))

/-- The settings of an environment. -/
def ofEnvironment (environment : Environment) : Except Failure Settings :=
  let level := levelOf ((Keyed.get? levelName environment).getD "WARNING")
  if levels.contains level then
    .ok ⟨level, (Keyed.get? directoryName environment).getD "transcripts"⟩
  else .error (.unknownLevel level)

/-- The settings of a world, the environment file at a path read first. -/
def loadBy (read : Reader) (path : Except Failure (Option GivenPath)) : Action Settings := do
  applyBy read path
  let world ← get
  Action.ofResult (ofEnvironment world.environment)

/-- The settings of a world, the environment file at a path read first as
environment files are. -/
def loadFrom (path : Except Failure (Option GivenPath)) : Action Settings :=
  loadBy fileValues path

/-- The settings of a world, its own environment file read first. -/
def load : Action Settings := loadFrom (.ok (some (.text defaultFile)))

/-- The form of a line of the log. -/
def logFormat : String := "%(asctime)s %(levelname)s %(name)s: %(message)s"

end Settings

end TlsTranscript
