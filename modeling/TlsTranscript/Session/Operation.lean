import TlsTranscript.Check.Extension
import TlsTranscript.CommandLine.Run

/-!
# Operations

What a session can call: the writers of numbers, octets and codes, the renderers,
the reading of extensions, the registries, the settings and the transcripts. An
operation takes one datum for each of its parameters; nothing stands for a
parameter that is left out.
-/

namespace TlsTranscript

/-- The operations. -/
inductive Operation where
  /-- An integer as one octet in base sixteen. -/
  | hex8
  /-- An integer as two octets in base sixteen. -/
  | hex16
  /-- The listing of octets. -/
  | listing
  /-- The listing of octets that may be missing. -/
  | listingOrNone
  /-- The text of octets. -/
  | decodedText
  /-- The digest of octets or a text. -/
  | digest
  /-- A code of a fixed kind as it is written. -/
  | codeOf (kind : RegistryKind)
  /-- A code as it is written, its kind given. -/
  | code
  /-- The rendering of an extension. -/
  | extension
  /-- The rendering of a row of extensions. -/
  | extensions
  /-- The rendering of a record given by its fields. -/
  | record
  /-- The rendering of a message or extension. -/
  | message
  /-- The rendering of a datum in the layout of a kind of message. -/
  | messageAs (kind : MessageKind)
  /-- The renderings of a row of messages and extensions. -/
  | lines
  /-- An extension from a record with a tag. -/
  | readExtension
  /-- The octets of an integer. -/
  | integerOctets
  /-- A datum as it is. -/
  | identity
  /-- The group size of parameters. -/
  | groupSize
  /-- The name of a code in registries. -/
  | nameOf
  /-- A table of registries. -/
  | tableOf
  /-- An attempt to change a table of registries. -/
  | changeTable
  /-- Whether the assigned registries are the same wherever they are used. -/
  | assignedIsShared
  /-- The settings. -/
  | loadSettings
  /-- Lines added to a transcript. -/
  | append
  /-- Given lines added to a transcript. -/
  | appendRow (given : List Line)
  /-- The digest of a file. -/
  | fileDigest
  /-- The lines of a file. -/
  | readLines
  /-- Whether a file holds given lines. -/
  | compareLines
  /-- Whether a file holds a given row of lines. -/
  | compareRow (given : List Line)

namespace Operation

/-- A text as a datum. -/
def answerText (action : Action String) : Action Datum := do
  return .text (← action)

/-- A row of texts as a datum. -/
def answerTexts (action : Action (List String)) : Action Datum := do
  return .list ((← action).map .text)

/-- The naming that an argument stands for. -/
def naming (registries : Datum) : Except Failure Naming :=
  registries.namingOperand "resolve"

/-- The octets of a datum that is an integer. -/
def octetsOf (datum : Datum) : Except Failure Datum :=
  match datum.toInt? with
  | some value => (octetsOfInteger value).map .octets
  | none =>
    match datum.property? "to_bytes" with
    | some _ => .error (datum.unable "bit_length")
    | none => .error (datum.lacking "to_bytes")

/-- What stands under a code in registries. -/
def nameIn (registries kind code : Datum) : Except Failure Datum := do
  let naming ← naming registries
  naming.nameOf (← kind.kindOperand) code

/-- The table for a kind in registries. -/
def tableIn (registries kind : Datum) : Except Failure Datum := do
  let naming ← registries.namingOperand "table"
  return naming.table (← kind.kindOperand)

/-- Why a table of registries takes no value under a key. What stands in the place
of a table refuses as it does anywhere. -/
def refuseEntry (key : Datum) : Datum → Failure
  | .table _ => key.refusedEntry .readOnlyTable
  | other => other.refuseItem key

/-- The answer of an operation that looks at one datum only. -/
def answerPlain (datum : Datum) : Operation → Option (Except Failure Datum)
  | .hex8 => some (datum.hexOperand.map fun value => .text (Text.hex8 value))
  | .hex16 => some (datum.hexOperand.map fun value => .text (Text.hex16 value))
  | .listing => some (datum.hexListing.map .text)
  | .listingOrNone => some (datum.hexListingOrNone.map .text)
  | .digest => some (datum.digestOperand.map fun data => .text (Sha256.hexDigest data))
  | .readExtension =>
    some ((Failure.ofChecked "Extension" (Extension.ofDatum datum)).map fun value =>
      .model (.extension value))
  | .integerOctets => some (octetsOf datum)
  | .identity => some (.ok datum)
  | .groupSize => some (datum.propertyOperand "group_size")
  | _ => none

/-- The path of the environment file that is read first; nothing stands for the
usual one. -/
def settingsPath (file : Datum) : Except Failure (Option GivenPath) :=
  if file.isSomething then file.settingsFileOperand else .ok (some (.text Settings.defaultFile))

/-- The settings, an environment file read first by a reader. -/
def answerSettingsBy (read : Settings.Reader) (file : Datum) : Action Datum := do
  return .model (.settings (← Settings.loadBy read (settingsPath file)))

/-- The settings, an environment file read first. -/
def answerSettings (file : Datum) : Action Datum := answerSettingsBy Settings.fileValues file

/-- The answer of an operation. -/
def run : Operation → List Datum → Action Datum
  | .decodedText, [datum] => answerText datum.decodedText
  | .codeOf kind, [datum, registries] => datum.writeCode kind (naming registries)
  | .code, [kind, datum, registries] => do
    datum.writeCode (← Action.ofResult kind.kindOperand) (naming registries)
  | .extension, [datum, registries] =>
    answerText (datum.renderExtension (naming registries))
  | .message, [datum, registries] => answerText (datum.render (naming registries))
  | .messageAs kind, [datum, registries] =>
    answerText (datum.renderAs kind (naming registries))
  | .extensions, [data, registries] =>
    answerText (data.renderExtensions (naming registries))
  | .lines, [data, registries] => answerTexts (data.renderLines (naming registries))
  | .record, [name, fields] => answerText (Action.ofResult (name.renderRecord fields))
  | .nameOf, [registries, kind, datum] => Action.ofResult (nameIn registries kind datum)
  | .tableOf, [registries, kind] => Action.ofResult (tableIn registries kind)
  | .changeTable, [registries, kind, key, _] => do
    throw (refuseEntry key (← Action.ofResult (tableIn registries kind)))
  | .assignedIsShared, [] => return .flag true
  | .loadSettings, [file] => answerSettings file
  | .append, [data, name, directory] => do
    return .ofPath (← Transcript.append data name directory)
  | .appendRow given, [name, directory] => do
    return .ofPath (← Transcript.appendRow (.ok given) name directory)
  | .fileDigest, [path] => answerText (Transcript.digestOf path)
  | .readLines, [path] => answerTexts (Transcript.read path)
  | .compareLines, [path, expected] => do
    return .flag (← Transcript.compare path expected)
  | .compareRow given, [path] => do
    return .flag (← Transcript.compareRow path (.ok given))
  | operation, [datum] =>
    match operation.answerPlain datum with
    | some result => Action.ofResult result
    | none => throw (.misfit .wrongArguments)
  | _, _ => throw (.misfit .wrongArguments)

end Operation

end TlsTranscript
