import TlsTranscript.Datum.Literal
import TlsTranscript.Datum.Naming
import TlsTranscript.Digest.Sha256
import TlsTranscript.Text.Lines

/-!
# Data as operands

What an operation makes of a datum that nobody has checked: its items, its
number, its octets, its entries or its path. Each reading says which data it
refuses and why.
-/

namespace TlsTranscript

namespace Datum

/-- The literal of a datum, if it has one. -/
def literalOperand (datum : Datum) : Except Failure String :=
  if datum.isWritable then .ok datum.literal else .error (.refused .tooManyDigits)

/-- The display of a datum, if it has one. -/
def displayOperand (datum : Datum) : Except Failure String :=
  if datum.isWritable then .ok datum.display else .error (.refused .tooManyDigits)

/-- The items of a datum. A text has its characters, an octet string its octets,
a table its keys, and a model its fields with their names. -/
def items : Datum → Except Failure (List Datum)
  | .text value => .ok (value.toList.map fun c => .text (String.ofList [c]))
  | .octets value => .ok (value.map ofOctet)
  | .list content => .ok content
  | .tuple content => .ok content
  | .table entries => .ok (entries.map Prod.fst)
  | .model value => .ok value.pairs
  | other => .error (.misfit (.notIterable other.typeName))

/-- The two parts of a datum. -/
def halves (datum : Datum) : Except Failure (Datum × Datum) :=
  match datum.items with
  | .error _ => .error (.misfit (.notDivisible datum.typeName))
  | .ok [first, second] => .ok (first, second)
  | .ok parts =>
    if parts.length < 2 then .error (.refused (.tooFewParts parts.length))
    else .error (.refused .tooManyParts)

/-- An integer to be written in base sixteen. -/
def digitsOperand (datum : Datum) : Except Failure Int :=
  match datum.toInt? with
  | some value => .ok value
  | none => .error (.misfit (.notWritable datum.typeName))

/-- What is written in base sixteen: an integer, or the only item of a tuple. -/
def hexOperand : Datum → Except Failure Int
  | .tuple [] => .error (.misfit .nothingToWrite)
  | .tuple (item :: rest) =>
    match digitsOperand item with
    | .ok value => if rest.isEmpty then .ok value else .error (.misfit .tooMuchToWrite)
    | .error failure => .error failure
  | other => digitsOperand other

/-- An integer that is asked to show itself in base sixteen. Texts and other
numbers have forms of their own, but not this one. -/
def formOperand (datum : Datum) : Except Failure Int :=
  match datum.toInt?, datum with
  | some value, _ => .ok value
  | none, .float _ => .error (.refused (.unknownForm datum.typeName))
  | none, .text _ => .error (.refused (.unknownForm datum.typeName))
  | none, _ => .error (.misfit (.noForms datum.typeName))

/-- An item of an octet string. -/
def octetOperand (datum : Datum) : Except Failure UInt8 :=
  match datum.toInt? with
  | some (.ofNat n) => if n < 256 then .ok (UInt8.ofNat n) else .error (.refused .octetOutOfRange)
  | some (.negSucc _) => .error (.refused .octetOutOfRange)
  | none => .error (.misfit (.notAnOctet datum.typeName))

/-- The least count that is larger than any memory. -/
def hugeCount : Nat := 1 <<< 63

/-- How many octets an octet string takes besides its own. -/
def octetsOverhead : Nat := 33

/-- How many items the memory holds. -/
def mostItems : Nat := 1 <<< 28

/-- So many zero octets. -/
def zeroOctets : Int → Except Failure Bytes
  | .ofNat n =>
    if n ≥ hugeCount then .error (.overflow .hugeCount)
    else if n + octetsOverhead ≥ hugeCount then .error (.overflow .hugeOctets)
    else if n > mostItems then .error .outOfMemory
    else .ok (List.replicate n 0)
  | .negSucc n =>
    if n < hugeCount then .error (.refused .negativeCount) else .error (.overflow .hugeCount)

/-- An octet string made of a datum: an integer is a count of zeros, and any
datum with items is read item by item. -/
def octetsOperand (datum : Datum) : Except Failure Bytes :=
  match datum with
  | .octets value => .ok value
  | .text _ => .error (.misfit .textForOctets)
  | _ =>
    match datum.toInt?, datum.items with
    | some count, _ => zeroOctets count
    | none, .ok parts => parts.mapM octetOperand
    | none, .error _ => .error (.misfit (.notOctets datum.typeName))

/-- The octets whose digest is taken; a text is encoded first. -/
def digestOperand : Datum → Except Failure Bytes
  | .octets value => .ok value
  | .text value => .ok (Utf8.encode value)
  | _ => .error (.misfit .notDigestible)

/-- The octets that are written to a file. -/
def contentOperand : Datum → Except Failure Bytes
  | .octets value => .ok value
  | other => .error (.misfit (.notContent other.typeName))

/-- Whether no list is so long that an index leads into it. -/
def isBeyondAnyEnd (index : Int) : Bool :=
  index.natAbs > hugeCount || index.toNat == hugeCount

/-- Why a datum takes no value under a key. An integer among the keys is first
looked at as an index. -/
def refusedEntry (key : Datum) (cause : Misfit) : Failure :=
  if key.toInt?.any isBeyondAnyEnd then .outOfRange .beyondAnyEnd else .misfit cause

/-- Why a datum that is no list and no table takes no value under a key. Only
what might have items looks at the key. -/
def refuseItem (datum key : Datum) : Failure :=
  let cause := Misfit.notATable datum.typeName
  match datum with
  | .absent | .flag _ | .integer _ | .float _ => .misfit cause
  | _ => refusedEntry key cause

/-- A kind of registry by its name. -/
def kindOperand (datum : Datum) : Except Failure RegistryKind := do
  let kind? := match datum with
    | .text name => RegistryKind.ofName? name
    | _ => none
  match kind? with
  | some kind => return kind
  | none => .error (.refused (.unknownKind (← datum.literalOperand)))

/-- A path that is given by its text or by its octets. -/
def pathOperand : Datum → Except Failure GivenPath
  | .text value => .ok (.text value)
  | .octets value => .ok (.octets value)
  | other => .error (.misfit (.notAPath other.typeName))

/-- The path of a file to be opened. An integer stands for a file that is open
already, and there is none. -/
def openOperand (datum : Datum) : Except Failure GivenPath :=
  match datum.toInt? with
  | none => datum.pathOperand
  | some (.ofNat n) =>
    if n < 1 <<< 31 then .error (.machine .noOpenFile) else datum.pathOperand
  | some (.negSucc n) =>
    if n < 1 <<< 31 then .error (.refused .negativeHandle) else datum.pathOperand

/-- The path of an environment file, none for the number of an open file. -/
def settingsFileOperand (datum : Datum) : Except Failure (Option GivenPath) :=
  match datum.toInt?, datum.pathOperand with
  | some (.ofNat n), _ => if n < 1 <<< 31 then .ok none else .error (.overflow .handleTooLarge)
  | some (.negSucc n), _ => if n < 1 <<< 31 then .ok none else .error (.overflow .handleTooSmall)
  | none, .error _ => .error (.misfit (.notASettingsFile datum.typeName))
  | none, .ok path =>
    if path.toOctets.contains 0 then .error (.refused (path.nulRefusal "stat"))
    else .ok (some path)

/-- A path as it was given. -/
def ofPath : GivenPath → Datum
  | .text path => .text path
  | .octets path => .octets path

/-- A line without the line feeds at its end. -/
def lineOperand : Datum → Except Failure String
  | .text value => .ok (Text.chomp value)
  | .octets _ => .error (.misfit .octetsForLine)
  | other => .error (other.unable "rstrip")

end Datum

end TlsTranscript
