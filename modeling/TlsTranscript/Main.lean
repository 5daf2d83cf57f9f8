import TlsTranscript.CommandLine.Run

/-!
# The command line

Reads what a run needs from the machine, lets the run do its work on it, and
brings the result back: what was printed, the log, the transcript and the exit
code. The key material is drawn at random: the certificate and the signature of
a sample are octets of the usual length that nobody checks.
-/

namespace TlsTranscript.CommandLine

/-- The log levels at which a record is shown. -/
def levelsShowing (record : LogRecord) : List String :=
  match record.level with
  | .debug => ["NOTSET", "DEBUG"]
  | .info => ["NOTSET", "DEBUG", "INFO"]

/-- A record as one line. -/
def lineOf (record : LogRecord) : String :=
  record.level.name ++ " " ++ record.source ++ ": " ++ record.message

/-- The lines of the records that are shown at one of the levels. -/
def shownLines (levels : List String) (records : List LogRecord) : List String :=
  (records.filter fun record => (levelsShowing record).any levels.contains).map lineOf

/-- The path of the transcript that a run has written. -/
def writtenPath? (records : List LogRecord) : Option String :=
  records.findSome? fun record =>
    match record with
    | .transcriptWritten path => some path
    | _ => none

/-- What stands before the last slash of a path text. -/
def directoryOf (path : String) : String :=
  String.ofList (Path.beforeLast '/' path.toList)

/-- A tree with a file in it, and with the directories above the file. -/
def withFile (path : String) (content : Bytes) (files : FileTree) : FileTree :=
  let directory := directoryOf path
  let above := if directory = "" then files
    else (files.provideDirectories true (.text directory)).1
  match above.write (.text path) content with
  | .ok changed => changed
  | .error _ => files

/-- The variables that a run may look at, those of an environment file among
them. -/
def variablesOf (envFile : Option Bytes) : List String :=
  let known := [Settings.levelName, Settings.directoryName, Environment.forbiddingName]
  match envFile.map EnvFile.textOf with
  | some (.ok text) => known ++ EnvFile.namesOf (EnvFile.bindings text)
  | _ => known

/-- Key material made of random octets. -/
def materialOf (octets : Bytes) : KeyMaterial where
  random := octets.take 88
  share := (octets.drop 88).take 32
  certificate := (octets.drop 120).take 320
  dhOffset := BigEndian.value ((octets.drop 440).take 255) - Sample.prime
  signature := (octets.drop 695).take 40

/-- How many random octets key material takes. -/
def materialSize : Nat := 735

/-- The content of a file, none if it cannot be read. -/
def contentAt? (path : String) : IO (Option Bytes) := do
  try
    return some (← IO.FS.readBinFile path).toList
  catch _ =>
    return none

/-- A tree with a file of the machine in it, if the machine has it. -/
def fetch (path : String) (files : FileTree) : IO FileTree := do
  match ← contentAt? path with
  | some content => return withFile path content files
  | none => return files

/-- The values of the variables that are set. -/
def readVariables (names : List String) : IO Environment := do
  let mut environment : Environment := []
  for name in names do
    if let some value ← IO.getEnv name then
      environment := Keyed.put name value environment
  return environment

/-- Brings the transcript of a run to the machine. -/
def deliver (world : World) (path : String) : IO Unit := do
  if let .ok content := world.files.read (.text path) then
    let directory := directoryOf path
    if directory ≠ "" then IO.FS.createDirAll directory
    IO.FS.writeBinFile path ⟨content.toArray⟩

/-- Shows what a run leaves behind; answers the exit code. -/
def present (outcome : Except Failure Report) (records : List LogRecord) : IO UInt32 := do
  match outcome with
  | .ok report =>
    for line in shownLines report.levels records do
      IO.eprintln line
    IO.print report.output
    IO.eprint report.errors
    return UInt32.ofNat report.exit
  | .error failure =>
    IO.eprintln failure.message
    return 1

end TlsTranscript.CommandLine

open TlsTranscript TlsTranscript.CommandLine in
/-- Runs the command line. A first run on the environment file alone shows which
transcript is written, and the run that counts finds that transcript as it is on
the machine. -/
def main (arguments : List String) : IO UInt32 := do
  let random ← IO.getRandomBytes materialSize.toUSize
  let envFile ← contentAt? Settings.defaultFile
  let environment ← readVariables (variablesOf envFile)
  let files ← fetch Settings.defaultFile []
  let action := execute arguments (.generated (materialOf random.toList))
  let (_, trial) := action.runIn { files, environment }
  let path? := writtenPath? trial.log
  let files ← match path? with
    | some path => fetch path files
    | none => pure files
  let (outcome, world) := action.runIn { files, environment }
  if let some path := path? then deliver world path
  present outcome world.log.reverse
