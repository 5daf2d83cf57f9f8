import TlsTranscript.Check.Declared
import TlsTranscript.Check.Message
import TlsTranscript.Datum.Table

/-!
# Members of the union of extensions

A record with a tag is checked by the declaration of the member whose declared tag it has.
The declared fields are looked up in the table by their names, one after the other, what is
under other keys is passed over, and all problems are gathered. What the checks make of the
fields is then put together as an extension. The members are tried in the order of their
declaration, as the documentation of the validation library says of a union that is told
by one field.
-/

namespace TlsTranscript

/-- What a datum is read as in a field of a type. -/
def FieldType.check : FieldType → Datum → Checked Datum
  | .number none, datum => (Check.natural datum).map fun (n : Nat) => .integer n
  | .number (some limit), datum => (Check.naturalUpTo limit datum).map fun (n : Nat) => .integer n
  | .octets, datum => (Check.octets datum).map .octets
  | .text, datum => (Check.text datum).map .text
  | .tag expected, .text value =>
    if value = expected then .valid (.text expected) else .fail (.wrongTag expected)
  | .tag expected, _ => .fail (.wrongTag expected)
  | .algorithm, datum =>
    (Check.algorithm datum).map fun pair => .model (.message (.hashSignAlgorithm pair))
  | .optional _, .absent => .valid .absent
  | .optional content, datum => content.check datum
  | .list item, datum => (Check.list item.check datum).map .list
  | .pair first second, datum =>
    (Check.pair first.check second.check datum).map fun both => .tuple [both.1, both.2]

namespace Declared

/-- A declared field as it is taken from a table. -/
def take (entries : Table Datum) (field : Declared) : Checked (String × Datum) :=
  match Table.get? (.text field.name) entries, field.preset with
  | some datum, _ =>
    ((field.type.check datum).within (.field field.name)).map fun value => (field.name, value)
  | none, some preset => .valid (field.name, preset)
  | none, none => .invalid [⟨[.field field.name], .missing⟩]

/-- Declared fields as they are taken from a table. -/
def takeAll (entries : Table Datum) : List Declared → Checked (Keyed String Datum)
  | [] => .valid []
  | field :: rest => List.cons <$> field.take entries <*> takeAll entries rest

end Declared

namespace Datum

/-- The octet that a checked number is. -/
def asOctet : Datum → UInt8
  | .integer value => UInt8.ofNat value.toNat
  | _ => 0

/-- The two octets that a checked number is. -/
def asTwoOctets : Datum → UInt16
  | .integer value => UInt16.ofNat value.toNat
  | _ => 0

/-- The octets that a checked octet string is; nothing stands for none. -/
def asOctets? : Datum → Option Bytes
  | .octets value => some value
  | _ => none

/-- The octets that a checked octet string is. -/
def asOctets (datum : Datum) : Bytes := datum.asOctets?.getD []

/-- The items of a checked list. -/
def asList {α : Type} (item : Datum → α) : Datum → List α
  | .list items => items.map item
  | _ => []

/-- The two items of a checked pair. -/
def asPair {α β : Type} (first : Datum → α) (second : Datum → β) : Datum → α × β
  | .tuple [a, b] => (first a, second b)
  | other => (first other, second other)

end Datum

namespace ExtensionKind

/-- The extension of a kind that has checked fields. -/
def ofFields (fields : Keyed String Datum) : ExtensionKind → Extension
  | .sni => .sni ((value "names").asList (Datum.asPair Datum.asOctet Datum.asOctets))
  | .maxFragmentLength => .maxFragmentLength (value "length").asOctet
  | .statusRequest => .statusRequest (value "data").asOctets?
  | .ellipticCurves => .ellipticCurves ((value "groups").asList Datum.asTwoOctets)
  | .ecPointFormats => .ecPointFormats (value "formats").asOctets
  | .signatureAlgorithms =>
    .signatureAlgorithms
      ((value "algorithms").asList (Datum.asPair Datum.asOctet Datum.asOctet))
  | .sessionTicket => .sessionTicket (value "data").asOctets
  | .keyShare => .keyShare (value "data").asOctets
  | .preSharedKey => .preSharedKey (value "data").asOctets
  | .earlyData => .earlyData
  | .supportedVersions => .supportedVersions ((value "versions").asList Datum.asTwoOctets)
  | .cookie => .cookie (value "data").asOctets
  | .pskExchangeModes => .pskExchangeModes ((value "modes").asList Datum.asOctet)
  | .heartbeat => .heartbeat (value "mode").asOctet
  | .alpn => .alpn ((value "protocols").asList Datum.asOctets)
  | .signedCertificateTimestamp => .signedCertificateTimestamp (value "data").asOctets?
  | .padding => .padding (value "data").asOctets
  | .encryptThenMac => .encryptThenMac
  | .extendedMasterSecret => .extendedMasterSecret
  | .nextProtocolNegotiation => .nextProtocolNegotiation
  | .renegotiationInfo => .renegotiationInfo (value "data").asOctets
  | .unknown => .unknown (value "id").asTwoOctets (value "data").asOctets
where
  /-- A field; all are there once they are checked. -/
  value (name : String) : Datum := (Keyed.get? name fields).getD .absent

/-- The tag that a kind declares. -/
def declaredTag? (kind : ExtensionKind) : Option String :=
  kind.declared.findSome? fun field =>
    match field.type with
    | .tag value => if field.name = "type" then some value else none
    | _ => none

/-- The member that declares a tag. -/
def ofDeclaredTag? (tag : String) : Option ExtensionKind :=
  all.find? fun kind => kind.declaredTag? == some tag

/-- An extension as the declaration of its kind checks it. -/
def ofTable (entries : Table Datum) (kind : ExtensionKind) : Checked Extension :=
  (Declared.takeAll entries kind.declared).map fun fields => kind.ofFields fields

end ExtensionKind

end TlsTranscript
