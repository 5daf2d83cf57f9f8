import TlsTranscript.Check.Extension
import TlsTranscript.Check.Message

/-!
# Checks of models

How a model of any kind is built from named data, and from a table whose entries are
taken for arguments by name.
-/

namespace TlsTranscript

open Check

/-- Settings. -/
def Settings.ofEntries (entries : Keyed String Datum) : Checked Settings :=
  Settings.mk <$> withDefault entries "log_level" "WARNING" text
    <*> withDefault entries "transcript_dir" "transcripts" text

/-- A model of a kind. -/
def ModelKind.ofEntries (entries : Keyed String Datum) : ModelKind → Checked Model
  | .parsed => pure .parsed
  | .bareExtension => pure .bareExtension
  | .message kind => .message <$> kind.ofEntries entries
  | .extension kind => .extension <$> kind.ofEntries entries
  | .settings => .settings <$> Settings.ofEntries entries

/-- The model of a kind whose fields are given just as they are kept: the declared ones and no
others, each with a value of its type. -/
def ModelKind.ofContents? (kind : ModelKind) (entries : Keyed String Datum) : Option Model :=
  let isKept (field : Declared) : Bool := (Keyed.get? field.name entries).any field.type.isOf
  if entries.length == kind.declared.length && kind.declared.all isKept then
    match kind.ofEntries entries with
    | .valid model => some model
    | .invalid _ => none
  else none

/-- The entries of a table as arguments by name. Every key must be a text. -/
def Datum.keywords : List (Datum × Datum) → Except Failure (Keyed String Datum)
  | [] => .ok []
  | (.text name, value) :: rest => return (name, value) :: (← keywords rest)
  | _ :: _ => .error (.call .nameNotText)

/-- A model of a kind that is made with the entries of a table as arguments. -/
def ModelKind.construct (kind : ModelKind) (entries : List (Datum × Datum)) :
    Except Failure Model := do
  Failure.ofChecked kind.name (kind.ofEntries (← Datum.keywords entries))

end TlsTranscript
