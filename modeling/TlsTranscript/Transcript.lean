import TlsTranscript.Datum.Line
import TlsTranscript.Settings.Load

/-!
# Transcripts

Lines kept in files. Lines are only ever added at the end of a file, each with
one line feed behind it. Reading takes every line end for a line feed, and a
comparison asks whether a file holds exactly the given lines.
-/

namespace TlsTranscript

namespace Transcript

/-- The octets of lines that are written one after the other. -/
def encode (lines : List String) : Bytes :=
  lines.flatMap fun line => Utf8.encode line ++ [0x0A]

/-- What is written of lines, up to the first that cannot be written, and its failure. -/
def linesOf : List Line → List String × Option Failure
  | [] => ([], none)
  | line :: rest =>
    match line.written with
    | .error failure => ([], some failure)
    | .ok text =>
      let (more, failure) := linesOf rest
      (text :: more, failure)

/-- What is written of a row of lines, and the failure of whatever gives none. -/
def linesOfRow : Except Failure (List Line) → List String × Option Failure
  | .ok lines => linesOf lines
  | .error failure => ([], some failure)

/-- The lines that a datum gives item by item. -/
def rowOf (lines : Datum) : Except Failure (List Line) := lines.items.map (·.map Line.ofDatum)

/-- The name of a file for a time. -/
def fileName (seconds : Int) : String := "transcript_" ++ Text.decimal seconds ++ ".log"

/-- The directory for transcripts: the given one, or that of the settings. -/
def directoryFor (directory : Datum) : Action Datum := do
  if directory.isSomething then return directory
  let settings ← Settings.load
  return .text settings.transcriptDir

/-- The name for a transcript: the given one, or one made of the time. -/
def nameFor (name : Datum) : Action Datum := do
  if name.isSomething then return name
  let seconds ← Action.ofResult (← get).now.seconds
  return .text (fileName seconds)

/-- A result on files. -/
def onFiles {α : Type} (result : Except FileFailure α) : Action α :=
  match result with
  | .ok value => return value
  | .error failure => throw (.file failure)

/-- A file written over. -/
def overwrite (path : GivenPath) (content : Bytes) : Action Unit := do
  let world ← get
  let files ← onFiles (world.files.write path content)
  set { world with files := files }

/-- A new directory and the directories above it. A directory that is there
already is taken if it is welcome. -/
def makeDirectories (welcome : Bool) (path : GivenPath) : Action Unit := do
  let world ← get
  let (files, failure) := world.files.provideDirectories welcome path
  set { world with files := files }
  match failure with
  | none => return ()
  | some failure => throw (failure.inCall "mkdir")

/-- The path of a name inside a directory. Both are given in the same way. -/
def joinPath (directory : GivenPath) (name : Datum) : Except Failure GivenPath :=
  match name.pathOperand with
  | .error _ => .error (.misfit (.notAName name.typeName))
  | .ok name =>
    match directory.join? name with
    | some path => .ok path
    | none => .error (.misfit .mixedForms)

/-- Lines added at the end of a file. The file is there afterwards, and holds
the lines before the first one that fails. -/
def appendTo (path : GivenPath) (row : Except Failure (List Line)) : Action GivenPath := do
  let world ← get
  let (written, failure) := linesOfRow row
  let files ← onFiles (world.files.append path (encode written))
  set { world with files := files }
  match failure with
  | some failure => throw failure
  | none =>
    Action.note [.transcriptWritten path.display]
    return path

/-- A row of lines added at the end of a transcript; answers its path. -/
def appendRow (row : Except Failure (List Line)) (name directory : Datum) :
    Action GivenPath := do
  let directory ← directoryFor directory
  let name ← nameFor name
  let directory ← Action.ofResult directory.pathOperand
  makeDirectories true directory
  let path ← Action.ofResult (joinPath directory name)
  appendTo path row

/-- The items of a datum added at the end of a transcript; answers its path. -/
def append (lines name directory : Datum) : Action GivenPath :=
  appendRow (rowOf lines) name directory

/-- The content of a file. -/
def contentOf (path : Datum) : Action Bytes := do
  let path ← Action.ofResult path.openOperand
  onFiles ((← get).files.read path)

/-- The digest of a file. -/
def digestOf (path : Datum) : Action String := do
  return Sha256.hexDigest (← contentOf path)

/-- The lines of octets. -/
def decode (content : Bytes) : Except Failure (List String) :=
  match Utf8.decodeStream content with
  | .error fault => .error (.undecodable fault)
  | .ok text => .ok ((Text.splitLines (Text.unifyLineEnds text.toList)).map String.ofList)

/-- The lines of a file. -/
def read (path : Datum) : Action (List String) := do
  Action.ofResult (decode (← contentOf path))

/-- Lines as they are looked for in a file. -/
def expected (row : Except Failure (List Line)) : Except Failure (List WideText) := do
  (← row).mapM Line.operand

/-- Whether a file holds exactly the lines of a row. -/
def compareRow (path : Datum) (row : Except Failure (List Line)) : Action Bool := do
  let found ← read path
  let expected ← Action.ofResult (expected row)
  return found.map WideText.ofString == expected

/-- Whether a file holds exactly the items of a datum. -/
def compare (path lines : Datum) : Action Bool := compareRow path (rowOf lines)

end Transcript

end TlsTranscript
