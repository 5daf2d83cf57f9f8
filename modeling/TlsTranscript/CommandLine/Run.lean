import TlsTranscript.CommandLine.Arguments
import TlsTranscript.Rendering
import TlsTranscript.Sample
import TlsTranscript.Transcript

/-!
# Runs of the command line

A run renders messages and extensions line by line, prints the lines and, if a
transcript is named, adds them to it. Everything that can be refused is refused
before anything is written.
-/

namespace TlsTranscript

namespace CommandLine

/-- What a run leaves behind for its caller. -/
structure Report where
  /-- The exit code. -/
  exit : Nat
  /-- What was printed. -/
  output : String
  /-- What was printed about errors. -/
  errors : String
  /-- The levels at which logging was set up. -/
  levels : List String

/-- Where a run takes its messages and extensions from. -/
inductive Source where
  /-- From a sample handshake with this key material. -/
  | generated (material : KeyMaterial)
  /-- From these data. -/
  | given (messages extensions : Datum)

/-- The messages and extensions of a source. -/
def Source.structures : Source → Except Failure (Datum × Datum)
  | .generated material =>
    (Sample.handshake material).map fun (messages, extensions) =>
      (.list (messages.map fun content => .model (.message content)),
        .list (extensions.map fun content => .model (.extension content)))
  | .given messages extensions => .ok (messages, extensions)

/-- The lines of a run: the extensions stand behind the first two messages. -/
def linesOf (messages : List String) (extensions : String) : List String :=
  messages.take 2 ++ ("extensions: " ++ extensions) :: messages.drop 2

/-- Lines as they are printed. -/
def printed (lines : List String) : String :=
  String.join (lines.map fun line => line ++ "\n")

/-- The lines of a run, their count noted in the log. -/
def render (source : Source) : Action (List String) := do
  let (messages, extensions) ← Action.ofResult source.structures
  let messageLines ← messages.renderLines (.ok .assigned)
  let extensionLine ← extensions.renderExtensions (.ok .assigned)
  let lines := linesOf messageLines extensionLine
  Action.note [.linesRendered lines.length]
  return lines

/-- Lines added to a transcript, and the line that says so. -/
def store (settings : Settings) (name : String) (lines : List String) : Action String := do
  let path ← Transcript.append (.list (lines.map .text)) (.text name)
    (.text settings.transcriptDir)
  let digest ← Transcript.digestOf (.ofPath path)
  return "transcript " ++ path.display ++ " sha256=" ++ digest

/-- A run with or without a transcript. An empty name is no name. -/
def perform (source : Source) (transcript : Option String) : Action Report := do
  let settings ← Settings.load
  let lines ← render source
  let name := transcript.getD ""
  if name = "" then return ⟨0, printed lines, "", [settings.logLevel]⟩
  let stored ← store settings name lines
  return ⟨0, printed (lines ++ [stored]), "", [settings.logLevel]⟩

/-- What a command line does. -/
def execute (arguments : List String) (source : Source) : Action Report :=
  match requestOf arguments with
  | .error fault => return ⟨2, "", errorText fault, []⟩
  | .ok .help => return ⟨0, helpText, "", []⟩
  | .ok (.run transcript) => perform source transcript

end CommandLine

end TlsTranscript
