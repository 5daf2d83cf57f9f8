import TlsTranscript.Proofs.Check.Tagged

/-!
# Checked models are accepted

What a check makes of a value is no longer changed by it: octets, texts and natural numbers
are taken as they are, lists and pairs item by item, and a pair of algorithms as the model
that it is. So a model is built again from its own fields, and an extension is read again
from the table of its fields, the tag among them.
-/

namespace TlsTranscript

open Check

namespace Check

variable {α β : Type} {check : Datum → Checked α} {other : Datum → Checked β}
  {shown : α → Datum} {display : β → Datum}

/-- A check accepts each value as it is shown, and makes of it the value. -/
def Accepts (check : Datum → Checked α) (shown : α → Datum) : Prop :=
  ∀ value, check (shown value) = .valid value

/-- Natural numbers. -/
theorem accepts_natural : Accepts natural fun n : Nat => .integer n := fun _ => rfl

/-- Numbers up to a limit. -/
theorem naturalUpTo_integer {limit n : Nat} (h : n ≤ limit) :
    naturalUpTo limit (.integer n) = .valid n := by
  rw [naturalUpTo, accepts_natural n, Checked.andThen, if_pos h]

/-- Octets as numbers. -/
theorem accepts_octet : Accepts octet .ofOctet := fun value => by
  have hn : naturalUpTo 0xFF (.ofOctet value) = .valid value.toNat :=
    naturalUpTo_integer (Nat.le_of_lt_succ value.toNat_lt)
  rw [octet, hn, Checked.map, UInt8.ofNat_toNat]

/-- Numbers of two octets. -/
theorem accepts_twoOctets : Accepts twoOctets .ofPair := fun value => by
  have hn : naturalUpTo 0xFFFF (.ofPair value) = .valid value.toNat :=
    naturalUpTo_integer (Nat.le_of_lt_succ value.toNat_lt)
  rw [twoOctets, hn, Checked.map, UInt16.ofNat_toNat]

/-- Numbers of four octets. -/
theorem accepts_fourOctets : Accepts fourOctets fun value => .integer value.toNat := fun value => by
  have hn : naturalUpTo 0xFFFFFFFF (.integer value.toNat) = .valid value.toNat :=
    naturalUpTo_integer (Nat.le_of_lt_succ value.toNat_lt)
  rw [fourOctets, hn, Checked.map, UInt32.ofNat_toNat]

/-- Octet strings. -/
theorem accepts_octets : Accepts octets .octets := fun _ => rfl

/-- Texts. -/
theorem accepts_text : Accepts text .text := fun _ => rfl

/-- Octet strings that may be missing. -/
theorem accepts_optional : Accepts (optional octets) .ofOctets? := fun value => by
  cases value <;> rfl

/-- Items, from any index on. -/
theorem itemsFrom_map (h : Accepts check shown) (index : Nat) (values : List α) :
    itemsFrom check index (values.map shown) = .valid values := by
  induction values generalizing index with
  | nil => rfl
  | cons value rest ih =>
    rw [List.map_cons, itemsFrom, h value, ih]
    rfl

/-- Lists of what is accepted. -/
theorem accepts_list (h : Accepts check shown) :
    Accepts (list check) fun values => .list (values.map shown) :=
  itemsFrom_map h 0

/-- Pairs of what is accepted. -/
theorem accepts_pair (hf : Accepts check shown) (hs : Accepts other display) :
    Accepts (pair check other) fun value => .tuple [shown value.1, display value.2] := by
  intro value
  simp only [pair, pairItems, hf value.1, hs value.2]
  rfl

/-- Pairs of algorithms as models. -/
theorem accepts_algorithm :
    Accepts algorithm fun value => .model (.message (.hashSignAlgorithm value)) := fun _ => rfl

/-- The tag of a kind. -/
theorem checkTag_tag (kind : ExtensionKind) : kind.checkTag (.text kind.tag) = .valid () := by
  simp [ExtensionKind.checkTag]

variable {entries : Keyed String Datum} {name : String} {value : α}

/-- A required field that is given as its value is shown has the value. -/
theorem required_of_given (hc : Accepts check shown)
    (h : Keyed.get? name entries = some (shown value)) :
    required entries name check = .valid value := by
  rw [required, h]
  exact congrArg (Checked.within _) (hc value)

/-- So has a field with a default. -/
theorem withDefault_of_given {preset : α} (hc : Accepts check shown)
    (h : Keyed.get? name entries = some (shown value)) :
    withDefault entries name preset check = .valid value := by
  rw [withDefault, h]
  exact congrArg (Checked.within _) (hc value)

end Check

/-- Named data that give fields: under the name of each stands its value. Further names and
the order make no difference. -/
def Keyed.Gives (entries : Keyed String Datum) : List (String × Datum) → Prop
  | [] => True
  | field :: rest => get? field.1 entries = some field.2 ∧ Gives entries rest

/-- Named data give the fields that they have under their names. -/
theorem Keyed.gives_of_forall {entries : Keyed String Datum} {fields : List (String × Datum)}
    (h : ∀ field ∈ fields, get? field.1 entries = some field.2) : Gives entries fields := by
  induction fields with
  | nil => trivial
  | cons field rest ih =>
    obtain ⟨hfield, hrest⟩ := List.forall_mem_cons.mp h
    exact ⟨hfield, ih hrest⟩

/-- The fields of a model give themselves. -/
theorem Model.gives_fields (model : Model) : Keyed.Gives model.fields model.fields :=
  Keyed.gives_of_forall fun _ => Model.get?_field

variable {entries : Keyed String Datum}

/-- A message is built from data that give its fields. -/
theorem Message.ofEntries_of_gives {content : Message} (h : entries.Gives content.fields) :
    content.kind.ofEntries entries = .valid content := by
  cases content with
  | recordHeader header =>
    obtain ⟨h1, h2, h3, -⟩ := h
    simp only [kind, MessageKind.ofEntries, RecordHeader.ofEntries,
      required_of_given accepts_octet h1, required_of_given accepts_twoOctets h2,
      required_of_given accepts_natural h3]
    rfl
  | alert notice =>
    obtain ⟨h1, h2, -⟩ := h
    simp only [kind, MessageKind.ofEntries, Alert.ofEntries, required_of_given accepts_octet h1,
      required_of_given accepts_octet h2]
    rfl
  | clientHello hello =>
    obtain ⟨h1, h2, h3, h4, h5, h6, h7, -⟩ := h
    simp only [kind, MessageKind.ofEntries, ClientHello.ofEntries,
      required_of_given accepts_twoOctets h1, required_of_given accepts_fourOctets h2,
      required_of_given accepts_octets h3, withDefault_of_given accepts_optional h4,
      withDefault_of_given (accepts_list accepts_twoOctets) h5,
      withDefault_of_given (accepts_list accepts_octet) h6,
      withDefault_of_given accepts_optional h7]
    rfl
  | serverHello hello =>
    obtain ⟨h1, h2, h3, h4, h5, h6, h7, -⟩ := h
    simp only [kind, MessageKind.ofEntries, ServerHello.ofEntries,
      required_of_given accepts_twoOctets h1, required_of_given accepts_fourOctets h2,
      required_of_given accepts_octets h3, withDefault_of_given accepts_optional h4,
      required_of_given accepts_twoOctets h5, required_of_given accepts_octet h6,
      withDefault_of_given accepts_optional h7]
    rfl
  | serverHelloV13 hello =>
    obtain ⟨h1, h2, h3, h4, -⟩ := h
    simp only [kind, MessageKind.ofEntries, ServerHelloV13.ofEntries,
      required_of_given accepts_twoOctets h1, required_of_given accepts_octets h2,
      required_of_given accepts_twoOctets h3, withDefault_of_given accepts_optional h4]
    rfl
  | helloRetryRequest request =>
    obtain ⟨h1, h2, -⟩ := h
    simp only [kind, MessageKind.ofEntries, HelloRetryRequest.ofEntries,
      required_of_given accepts_twoOctets h1, withDefault_of_given accepts_optional h2]
    rfl
  | rawCertificate certificate =>
    obtain ⟨h1, -⟩ := h
    simp only [kind, MessageKind.ofEntries, required_of_given accepts_octets h1]
    rfl
  | serverKeyExchange exchange =>
    obtain ⟨h1, -⟩ := h
    simp only [kind, MessageKind.ofEntries, required_of_given accepts_octets h1]
    rfl
  | clientKeyExchange exchange =>
    obtain ⟨h1, -⟩ := h
    simp only [kind, MessageKind.ofEntries, required_of_given accepts_octets h1]
    rfl
  | serverDHParams params =>
    obtain ⟨h1, h2, h3, -⟩ := h
    simp only [kind, MessageKind.ofEntries, ServerDHParams.ofEntries,
      required_of_given accepts_octets h1, required_of_given accepts_octets h2,
      required_of_given accepts_octets h3]
    rfl
  | hashSignAlgorithm pair =>
    obtain ⟨h1, h2, -⟩ := h
    simp only [kind, MessageKind.ofEntries, HashSignAlgorithm.ofEntries,
      required_of_given accepts_octet h1, required_of_given accepts_octet h2]
    rfl
  | digitallySigned signed =>
    obtain ⟨h1, h2, -⟩ := h
    simp only [kind, MessageKind.ofEntries, DigitallySigned.ofEntries,
      required_of_given accepts_algorithm h1, required_of_given accepts_octets h2]
    rfl

/-- What an extension holds besides its tag is built from data that give it. -/
theorem Extension.ofPayload_of_gives {content : Extension} (h : entries.Gives content.payload) :
    content.kind.ofPayload entries = .valid content := by
  cases content with
  | sni names =>
    obtain ⟨h1, -⟩ := h
    rw [kind, ExtensionKind.ofPayload,
      withDefault_of_given (accepts_list (accepts_pair accepts_octet accepts_octets)) h1]
    rfl
  | maxFragmentLength length =>
    obtain ⟨h1, -⟩ := h
    rw [kind, ExtensionKind.ofPayload, required_of_given accepts_octet h1]
    rfl
  | statusRequest data =>
    obtain ⟨h1, -⟩ := h
    rw [kind, ExtensionKind.ofPayload, withDefault_of_given accepts_optional h1]
    rfl
  | ellipticCurves groups =>
    obtain ⟨h1, -⟩ := h
    rw [kind, ExtensionKind.ofPayload, withDefault_of_given (accepts_list accepts_twoOctets) h1]
    rfl
  | ecPointFormats formats =>
    obtain ⟨h1, -⟩ := h
    rw [kind, ExtensionKind.ofPayload, withDefault_of_given accepts_octets h1]
    rfl
  | signatureAlgorithms algorithms =>
    obtain ⟨h1, -⟩ := h
    rw [kind, ExtensionKind.ofPayload,
      withDefault_of_given (accepts_list (accepts_pair accepts_octet accepts_octet)) h1]
    rfl
  | sessionTicket data =>
    obtain ⟨h1, -⟩ := h
    rw [kind, ExtensionKind.ofPayload, withDefault_of_given accepts_octets h1]
    rfl
  | keyShare data =>
    obtain ⟨h1, -⟩ := h
    rw [kind, ExtensionKind.ofPayload, required_of_given accepts_octets h1]
    rfl
  | preSharedKey data =>
    obtain ⟨h1, -⟩ := h
    rw [kind, ExtensionKind.ofPayload, required_of_given accepts_octets h1]
    rfl
  | earlyData => rfl
  | supportedVersions versions =>
    obtain ⟨h1, -⟩ := h
    rw [kind, ExtensionKind.ofPayload, withDefault_of_given (accepts_list accepts_twoOctets) h1]
    rfl
  | cookie data =>
    obtain ⟨h1, -⟩ := h
    rw [kind, ExtensionKind.ofPayload, required_of_given accepts_octets h1]
    rfl
  | pskExchangeModes modes =>
    obtain ⟨h1, -⟩ := h
    rw [kind, ExtensionKind.ofPayload, withDefault_of_given (accepts_list accepts_octet) h1]
    rfl
  | heartbeat mode =>
    obtain ⟨h1, -⟩ := h
    rw [kind, ExtensionKind.ofPayload, required_of_given accepts_octet h1]
    rfl
  | alpn protocols =>
    obtain ⟨h1, -⟩ := h
    rw [kind, ExtensionKind.ofPayload, withDefault_of_given (accepts_list accepts_octets) h1]
    rfl
  | signedCertificateTimestamp data =>
    obtain ⟨h1, -⟩ := h
    rw [kind, ExtensionKind.ofPayload, withDefault_of_given accepts_optional h1]
    rfl
  | padding data =>
    obtain ⟨h1, -⟩ := h
    rw [kind, ExtensionKind.ofPayload, withDefault_of_given accepts_octets h1]
    rfl
  | encryptThenMac => rfl
  | extendedMasterSecret => rfl
  | nextProtocolNegotiation => rfl
  | renegotiationInfo data =>
    obtain ⟨h1, -⟩ := h
    rw [kind, ExtensionKind.ofPayload, withDefault_of_given accepts_octets h1]
    rfl
  | unknown id data =>
    obtain ⟨h1, h2, -⟩ := h
    rw [kind, ExtensionKind.ofPayload,
      required_of_given accepts_twoOctets h1, withDefault_of_given accepts_octets h2]
    rfl

/-- An extension is built from data that give its fields, its tag among them. -/
theorem Extension.ofEntries_of_gives {content : Extension} (h : entries.Gives content.fields) :
    content.kind.ofEntries entries = .valid content := by
  obtain ⟨htag, hpayload⟩ := h
  have hchecked : withDefault entries "type" () content.kind.checkTag = .valid () := by
    rw [withDefault, htag]
    exact congrArg (Checked.within _) (checkTag_tag content.kind)
  rw [ExtensionKind.ofEntries, hchecked, ofPayload_of_gives hpayload]
  rfl

/-- Settings are built from data that give their fields. -/
theorem Settings.ofEntries_of_gives {settings : Settings} (h : entries.Gives settings.fields) :
    ofEntries entries = .valid settings := by
  obtain ⟨h1, h2, -⟩ := h
  rw [ofEntries, withDefault_of_given accepts_text h1, withDefault_of_given accepts_text h2]
  rfl

/-- A model is built from data that give its fields. -/
theorem Model.ofEntries_of_gives {model : Model} (h : entries.Gives model.fields) :
    model.kind.ofEntries entries = .valid model := by
  cases model with
  | parsed => rfl
  | bareExtension => rfl
  | message content => exact congrArg (Checked.map Model.message) (Message.ofEntries_of_gives h)
  | extension content =>
    exact congrArg (Checked.map Model.extension) (Extension.ofEntries_of_gives h)
  | settings content =>
    exact congrArg (Checked.map Model.settings) (Settings.ofEntries_of_gives h)

/-- An extension is read from a table that gives its fields, its tag among them. -/
theorem Extension.ofDatum_of_gives {content : Extension} {rows : List (Datum × Datum)}
    (h : (Datum.words rows).Gives content.fields) :
    ofDatum (.table rows) = .valid content := by
  rw [ofDatum_of_tag h.1, ofEntries_of_gives h]
  rfl

/-- Checks leave alone what they have made. Whatever data a kind builds a model from, it
builds the same model again from the fields of the model, and from all data that give these
fields, in any order and among others. Every extension is read again from the table of its
fields, its tag included, and from every table that gives them. -/
theorem ModelKind.ofEntries_again :
    (∀ (kind : ModelKind) (entries : Keyed String Datum) (model : Model),
      kind.ofEntries entries = .valid model →
        kind.ofEntries model.fields = .valid model ∧
        ∀ others : Keyed String Datum, others.Gives model.fields →
          kind.ofEntries others = .valid model) ∧
    ∀ content : Extension,
      Extension.ofDatum (.ofWords content.fields) = .valid content ∧
      ∀ rows, (Datum.words rows).Gives content.fields →
        Extension.ofDatum (.table rows) = .valid content := by
  refine ⟨fun kind entries model h => ?_, fun content => ⟨?_, fun rows => ?_⟩⟩
  · obtain rfl := (madeOf_of_ofEntries h).ofKind
    exact ⟨Model.ofEntries_of_gives model.gives_fields, fun _ => Model.ofEntries_of_gives⟩
  · refine Extension.ofDatum_of_gives ?_
    rw [Datum.words_map_text]
    exact (Model.extension content).gives_fields
  · exact Extension.ofDatum_of_gives

/-- A signature is built from an algorithm given by its fields, of which one is a text and
one a truth value, and from a text; and it is built again from its own fields. Names of a
server are read again, also with the fields in another order. -/
theorem ModelKind.ofEntries_again_signed :
    let entries : Keyed String Datum := [("data", .text "ab"), ("note", .absent),
      ("alg", .table [(.text "sign", .flag true), (.text "hash", .text "4")])]
    let signed : Model := .message (.digitallySigned ⟨⟨4, 1⟩, [0x61, 0x62]⟩)
    let names : Extension := .sni [(0, [0x61]), (1, [])]
    (message .digitallySigned).ofEntries entries = .valid signed ∧
      (message .digitallySigned).ofEntries signed.fields = .valid signed ∧
      Extension.ofDatum (.ofWords names.fields) = .valid names ∧
      Extension.ofDatum (.ofWords names.fields.reverse) = .valid names := by
  intro entries signed names
  have hbuilt : (message .digitallySigned).ofEntries entries = .valid signed := rfl
  obtain ⟨hread, hgiven⟩ := ofEntries_again.2 names
  exact ⟨hbuilt, (ofEntries_again.1 _ entries signed hbuilt).1, hread,
    hgiven _ ⟨rfl, rfl, trivial⟩⟩

end TlsTranscript
