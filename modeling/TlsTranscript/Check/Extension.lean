import TlsTranscript.Check.Union
import TlsTranscript.Datum.Literal
import TlsTranscript.Datum.Property

/-!
# Checks of extensions

An extension of a known kind is built from named data; a tag among them must be
the tag of the kind. An extension of any kind is read from a record whose tag
says the member of the union, and the problems that its declaration finds are then
reported under the tag. The record must be a table or an extension: anything else
that has a tag is no record of the kind that the tag says.
-/

namespace TlsTranscript

open Check

namespace ExtensionKind

/-- The tag of a kind. -/
def checkTag (kind : ExtensionKind) : Datum → Checked Unit
  | .text value => if value = kind.tag then .valid () else .fail (.wrongTag kind.tag)
  | _ => .fail (.wrongTag kind.tag)

/-- What an extension of a kind holds besides its tag. -/
def ofPayload (entries : Keyed String Datum) : ExtensionKind → Checked Extension
  | .sni => .sni <$> withDefault entries "names" [] (list (pair octet octets))
  | .maxFragmentLength => .maxFragmentLength <$> required entries "length" octet
  | .statusRequest => .statusRequest <$> withDefault entries "data" none (optional octets)
  | .ellipticCurves => .ellipticCurves <$> withDefault entries "groups" [] (list twoOctets)
  | .ecPointFormats => .ecPointFormats <$> withDefault entries "formats" [] octets
  | .signatureAlgorithms =>
    .signatureAlgorithms <$> withDefault entries "algorithms" [] (list (pair octet octet))
  | .sessionTicket => .sessionTicket <$> withDefault entries "data" [] octets
  | .keyShare => .keyShare <$> required entries "data" octets
  | .preSharedKey => .preSharedKey <$> required entries "data" octets
  | .earlyData => pure .earlyData
  | .supportedVersions =>
    .supportedVersions <$> withDefault entries "versions" [] (list twoOctets)
  | .cookie => .cookie <$> required entries "data" octets
  | .pskExchangeModes => .pskExchangeModes <$> withDefault entries "modes" [] (list octet)
  | .heartbeat => .heartbeat <$> required entries "mode" octet
  | .alpn => .alpn <$> withDefault entries "protocols" [] (list octets)
  | .signedCertificateTimestamp =>
    .signedCertificateTimestamp <$> withDefault entries "data" none (optional octets)
  | .padding => .padding <$> withDefault entries "data" [] octets
  | .encryptThenMac => pure .encryptThenMac
  | .extendedMasterSecret => pure .extendedMasterSecret
  | .nextProtocolNegotiation => pure .nextProtocolNegotiation
  | .renegotiationInfo => .renegotiationInfo <$> withDefault entries "data" [] octets
  | .unknown =>
    .unknown <$> required entries "id" twoOctets <*> withDefault entries "data" [] octets

/-- An extension of a kind. -/
def ofEntries (entries : Keyed String Datum) (kind : ExtensionKind) : Checked Extension :=
  (fun _ extension => extension) <$> withDefault entries "type" () kind.checkTag
    <*> kind.ofPayload entries

end ExtensionKind

namespace Extension

/-- How a tag is shown. One that cannot be shown is told by its type. -/
def shownTag (tag : Datum) : String :=
  if tag.isWritable then tag.display else "<unprintable " ++ tag.typeName ++ " object>"

/-- The tag that a record gives names no kind. -/
def unknownTag (tag : Datum) : Checked Extension :=
  .fail (.unknownTag (shownTag tag) (ExtensionKind.all.map ExtensionKind.tag))

/-- An extension of the kind that a tag says. -/
def ofTagged (build : ExtensionKind → Checked Extension) : Option Datum → Checked Extension
  | some (.text tag) =>
    match ExtensionKind.ofDeclaredTag? tag with
    | some kind => (build kind).within (.field tag)
    | none => unknownTag (.text tag)
  | some tag => unknownTag tag
  | none => .fail .noTag

/-- The refusal of a datum that has a tag and is no record of its kind. -/
def notOfKind (kind : ExtensionKind) : Checked Extension := .fail (.notModel kind.name)

/-- An extension from a record whose tag says the kind. An extension is taken as
it is. A model or registries have a tag if they have a property of its name, and
a pair of them and a table has the tag of the table before theirs. -/
def ofDatum : Datum → Checked Extension
  | .table entries =>
    ofTagged (ExtensionKind.ofTable entries) (Table.get? (.text "type") entries)
  | .model (.extension value) => .valid value
  | .tuple [datum, .table entries] =>
    if datum.isRecord then
      ofTagged notOfKind ((Table.get? (.text "type") entries).or (datum.property? "type"))
    else .fail .notRecord
  | datum =>
    if datum.isRecord then ofTagged notOfKind (datum.property? "type") else .fail .notRecord

end Extension

end TlsTranscript
