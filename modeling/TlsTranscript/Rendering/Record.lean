import TlsTranscript.Message.Layout
import TlsTranscript.Rendering.Code

/-!
# Records of any data

A record is a name with labelled values between braces. Its labels and values can
be given as data, and so can the values of the layout of a kind of message: any
datum that has all the properties of the layout is then written, field after
field, and the first property that is missing is reported. Values are displayed
when the record is put together, which is when all of them are known.
-/

namespace TlsTranscript

namespace Datum

/-- The listing of a datum that is read as a list of integers. -/
def hexListing (datum : Datum) : Except Failure String := do
  let parts ← datum.items
  let values ← parts.mapM hexOperand
  return Text.hexListing values

/-- The listing of a datum that may be missing. -/
def hexListingOrNone : Datum → Except Failure String
  | .absent => .ok "None"
  | other => other.hexListing

/-- The text of a record. -/
def recordText (name : String) (fields : List (String × String)) : String :=
  (Rendered.record name (fields.map fun field => (field.1, .plain field.2))).text

/-- A label and a value that are given as a pair. -/
def fieldOperand (pair : Datum) : Except Failure (String × String) := do
  let (label, value) ← pair.halves
  return (← label.displayOperand, ← value.displayOperand)

/-- A record with a name and with fields that are given as pairs of data. -/
def renderRecord (name fields : Datum) : Except Failure String := do
  let fields ← (← fields.items).mapM fieldOperand
  return recordText (← name.displayOperand) fields

/-- The items of a datum, all of them written. -/
def writeItems (write : Datum → Action String) (data : Datum) : Action Datum := do
  let items ← Action.ofResult data.items
  return .text (bracketed "[" "]" (← items.mapM write))

/-- A text that is known without a world. -/
def writtenText (result : Except Failure String) : Action Datum := do
  return .text (← Action.ofResult result)

/-- The value of a field in a form, a pair of algorithms by a way of its own. Only
the name of a code may be no text. -/
def writeValueWith (algorithm : Datum → Action String) (naming : Except Failure Naming)
    (form : FieldForm) (value : Datum) : Action Datum :=
  match form with
  | .octet => writtenText (octet value)
  | .twoOctets => writtenText (value.hexOperand.map Text.hex16)
  | .display => writtenText value.displayOperand
  | .listing => writtenText value.hexListing
  | .listingOrNone => writtenText value.hexListingOrNone
  | .octets => writeItems (fun item => Action.ofResult (octet item)) value
  | .code kind => value.writeCode kind naming
  | .codes kind => writeItems (displayCode kind naming) value
  | .algorithm => do return .text (← algorithm value)
where
  octet (value : Datum) : Except Failure String := value.hexOperand.map Text.hex8

/-- Writes a datum in the layout of a kind of message, pairs of algorithms by a
way of their own. Each property is looked up when its field is reached. -/
def writeLaidWith (algorithm : Datum → Action String) (naming : Except Failure Naming)
    (kind : MessageKind) (datum : Datum) : Action String := do
  let fields ← kind.layout.mapM fun field => do
    let value ← Action.ofResult (datum.propertyOperand field.property)
    return (field.label, ← writeValueWith algorithm naming field.form value)
  let texts ← fields.mapM fun field => do
    return (field.1, ← Action.ofResult field.2.displayOperand)
  return recordText kind.name texts

/-- Writes a datum as a pair of algorithms, in which there is no other pair. -/
def writeAlgorithm (naming : Except Failure Naming) (datum : Datum) : Action String :=
  datum.writeLaidWith (fun _ => return "") naming .hashSignAlgorithm

/-- Writes a datum in the layout of a kind of message. -/
def writeLaid (kind : MessageKind) (naming : Except Failure Naming) (datum : Datum) :
    Action String :=
  datum.writeLaidWith (writeAlgorithm naming) naming kind

end Datum

end TlsTranscript
