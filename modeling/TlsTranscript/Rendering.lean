import TlsTranscript.Extension.Written
import TlsTranscript.Message.Written
import TlsTranscript.Rendering.Record

/-!
# Rendering of data

Which data are rendered and how. A message and an extension are written as
structures; any other datum is refused under the name of its type. Where the names
of codes are no texts, the codes of a structure are written one by one, since each
of them may then fail. The layout of one kind of message can also be asked for,
which any datum with its properties has.
-/

namespace TlsTranscript

namespace Extension

/-- Writes an extension code by code. -/
def writeCodes (naming : Except Failure Naming) : Extension → Action String
  | .ellipticCurves groups => do
    let items ← groups.mapM fun group => (Datum.ofPair group).displayCode .namedGroup naming
    return "EllipticCurves(" ++ bracketed "[" "]" items ++ ")"
  | .signatureAlgorithms algorithms => do
    let items ← algorithms.mapM fun pair => do
      let hash ← (Datum.ofOctet pair.1).displayCode .hashAlgorithm naming
      let sign ← (Datum.ofOctet pair.2).displayCode .signatureAlgorithm naming
      return "(" ++ hash ++ "," ++ sign ++ ")"
    return "SignatureAlgorithms(" ++ bracketed "[" "]" items ++ ")"
  | other => Action.emit (other.write {})

end Extension

namespace Datum

/-- A datum that nothing renders. -/
def refuse (datum : Datum) : Failure := .misfit (.notRenderable datum.typeName)

/-- A text with codes in it, which is written with registries of texts or else in
another way. A text without codes needs no naming. -/
def emitNamed (naming : Except Failure Naming) (codes : List (RegistryKind × Int))
    (write : Registries → Rendered) (otherwise : Action String) : Action String := do
  if codes.isEmpty then Action.emit (write {})
  else
    match (← Action.ofResult naming).registries? with
    | some known => Action.emit (write known)
    | none => otherwise

/-- The rendering of a message. -/
def renderMessage (naming : Except Failure Naming) (content : Message) : Action String :=
  let laid := writeLaid content.kind naming (.model (.message content))
  if content.isWritable then emitNamed naming content.codes content.write laid else laid

/-- The rendering of a datum that must be an extension. -/
def renderExtension (naming : Except Failure Naming) : Datum → Action String
  | .model (.extension content) =>
    emitNamed naming content.codes content.write (content.writeCodes naming)
  | other => throw other.refuse

/-- The rendering of a datum. -/
def render (naming : Except Failure Naming) : Datum → Action String
  | .model (.message content) => renderMessage naming content
  | other => other.renderExtension naming

/-- The rendering of a datum in the layout of a kind of message. A message of the
kind is rendered as it is. -/
def renderAs (kind : MessageKind) (naming : Except Failure Naming) (datum : Datum) :
    Action String :=
  match datum with
  | .model (.message content) =>
    if content.kind = kind then renderMessage naming content else datum.writeLaid kind naming
  | other => other.writeLaid kind naming

/-- The rendering of a row of extensions as a list. -/
def renderExtensions (naming : Except Failure Naming) (extensions : Datum) :
    Action String := do
  let items ← Action.ofResult extensions.items
  return bracketed "[" "]" (← items.mapM (renderExtension naming))

/-- The renderings of a row of data, one line each. -/
def renderLines (naming : Except Failure Naming) (data : Datum) : Action (List String) := do
  let items ← Action.ofResult data.items
  items.mapM (render naming)

/-- The text of a datum that is read as an octet string. A datum without a literal
is refused where somebody listens to what is noted of it. -/
def decodedText (datum : Datum) : Action String := do
  match Utf8.decode (← Action.ofResult datum.octetsOperand) with
  | .ok decoded => return decoded
  | .error _ =>
    if !datum.isWritable && (← get).listening then throw (.refused .tooManyDigits)
    Action.note [.undecodableText datum.literal]
    return Rendered.undecodable

end Datum

end TlsTranscript
