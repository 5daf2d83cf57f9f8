import TlsTranscript.Registry.Basic
import TlsTranscript.Text.Hex

/-!
# Log records

What is worth a note while structures are rendered and transcripts are written.
A record names the part of the program that wrote it and its level, and has a
wording of its own.
-/

namespace TlsTranscript

/-- The levels in use. -/
inductive LogLevel where
  /-- For those who look for a fault. -/
  | debug
  /-- For those who want to follow a run. -/
  | info
  deriving DecidableEq

/-- The written name of a level. -/
def LogLevel.name : LogLevel → String
  | .debug => "DEBUG"
  | .info => "INFO"

/-- One log record. -/
inductive LogRecord where
  /-- A code has no name in the table of its kind. -/
  | unlistedCode (kind : RegistryKind) (code : Int)
  /-- A text field is not UTF-8; its content is given as a literal. -/
  | undecodableText (literal : String)
  /-- A transcript was written to this path. -/
  | transcriptWritten (path : String)
  /-- So many lines were rendered. -/
  | linesRendered (count : Nat)
  deriving DecidableEq

namespace LogRecord

/-- The part of the program that writes such records. -/
def source : LogRecord → String
  | .unlistedCode _ _ => "tlsdebug.registry.resolve"
  | .undecodableText _ => "tlsdebug.common.utils"
  | .transcriptWritten _ => "tlsdebug.storage.transcript"
  | .linesRendered _ => "render_sample"

/-- The level of a record. -/
def level : LogRecord → LogLevel
  | .unlistedCode _ _ => .debug
  | .undecodableText _ => .debug
  | .transcriptWritten _ => .info
  | .linesRendered _ => .info

/-- The wording of a record. -/
def message : LogRecord → String
  | .unlistedCode kind code => "no " ++ kind.name ++ " entry for " ++ Text.hexSigned code
  | .undecodableText literal => "invalid utf-8 in text field: " ++ literal
  | .transcriptWritten path => "wrote transcript " ++ path
  | .linesRendered count => "rendered " ++ Text.decimal count ++ " structures"

end LogRecord

end TlsTranscript
