import Mathlib.Data.List.Forall2
import TlsTranscript.Check.Model

/-!
# Models as they are declared

Every model has the fields that its kind declares, in the order of their declaration, with
values of their types.
-/

namespace TlsTranscript

namespace FieldType

/-- A value of a type. -/
def Holds : FieldType → Datum → Prop
  | .number limit, value => ∃ n : Nat, value = .integer n ∧ ∀ most ∈ limit, n ≤ most
  | .octets, value => ∃ data, value = .octets data
  | .text, value => ∃ content, value = .text content
  | .tag expected, value => value = .text expected
  | .algorithm, value => ∃ hash sign : Nat, hash ≤ 0xFF ∧ sign ≤ 0xFF ∧
      ∃ pair : HashSignAlgorithm, value = .model (.message (.hashSignAlgorithm pair)) ∧
        pair.fields = [("hash", .integer hash), ("sign", .integer sign)]
  | .optional content, value => value = .absent ∨ content.Holds value
  | .list item, value => ∃ items, value = .list items ∧ ∀ entry ∈ items, item.Holds entry
  | .pair first second, value =>
      ∃ a b, value = .tuple [a, b] ∧ first.Holds a ∧ second.Holds b

end FieldType

/-- A field is as it is declared: it has the name and a value of the type. -/
structure Declared.Fits (declared : Declared) (field : String × Datum) : Prop where
  /-- The field has the declared name. -/
  name : field.1 = declared.name
  /-- Its value is of the declared type. -/
  holds : declared.type.Holds field.2

/-- A model is well-formed if it has the fields that its kind declares, with values of
their types. -/
def Model.WellFormed (model : Model) : Prop :=
  List.Forall₂ Declared.Fits model.kind.declared model.fields

namespace FieldType

/-- Octets are numbers of one octet. -/
theorem holds_ofOctet (value : UInt8) : octet.Holds (.ofOctet value) :=
  ⟨value.toNat, rfl, by simpa using Nat.le_of_lt_succ value.toNat_lt⟩

/-- Pairs of octets are numbers of two octets. -/
theorem holds_ofPair (value : UInt16) : twoOctets.Holds (.ofPair value) :=
  ⟨value.toNat, rfl, by simpa using Nat.le_of_lt_succ value.toNat_lt⟩

/-- Words are numbers of four octets. -/
theorem holds_word (value : UInt32) : fourOctets.Holds (.integer value.toNat) :=
  ⟨value.toNat, rfl, by simpa using Nat.le_of_lt_succ value.toNat_lt⟩

/-- A number without a limit. -/
theorem holds_integer (value : Nat) : (number none).Holds (.integer value) :=
  ⟨value, rfl, by simp⟩

/-- Octets. -/
theorem holds_octets (data : Bytes) : octets.Holds (.octets data) := ⟨data, rfl⟩

/-- Octets that may be missing. -/
theorem holds_ofOctets? (data : Option Bytes) : (optional octets).Holds (.ofOctets? data) := by
  cases data with
  | none => exact .inl rfl
  | some found => exact .inr (holds_octets found)

/-- A list of items of a type. -/
theorem holds_list {α : Type} {item : FieldType} {make : α → Datum}
    (h : ∀ value, item.Holds (make value)) (values : List α) :
    (list item).Holds (.list (values.map make)) :=
  ⟨_, rfl, List.forall_mem_map.mpr fun value _ => h value⟩

/-- A pair of items of two types. -/
theorem holds_pair {first second : FieldType} {a b : Datum} (ha : first.Holds a)
    (hb : second.Holds b) : (pair first second).Holds (.tuple [a, b]) :=
  ⟨a, b, rfl, ha, hb⟩

/-- A pair of algorithms. -/
theorem holds_algorithm (value : HashSignAlgorithm) :
    algorithm.Holds (.model (.message (.hashSignAlgorithm value))) :=
  ⟨value.hash.toNat, value.sign.toNat, Nat.le_of_lt_succ value.hash.toNat_lt,
    Nat.le_of_lt_succ value.sign.toNat_lt, value, rfl, rfl⟩

end FieldType

namespace Message

open FieldType

/-- Every message has the fields that its kind declares, with values of their types. -/
theorem fits (m : Message) : List.Forall₂ Declared.Fits m.kind.declared m.fields := by
  cases m with
  | recordHeader header =>
    exact .cons ⟨rfl, holds_ofOctet _⟩ (.cons ⟨rfl, holds_ofPair _⟩
      (.cons ⟨rfl, holds_integer _⟩ .nil))
  | alert notice => exact .cons ⟨rfl, holds_ofOctet _⟩ (.cons ⟨rfl, holds_ofOctet _⟩ .nil)
  | clientHello hello =>
    exact .cons ⟨rfl, holds_ofPair _⟩ (.cons ⟨rfl, holds_word _⟩ (.cons ⟨rfl, holds_octets _⟩
      (.cons ⟨rfl, holds_ofOctets? _⟩ (.cons ⟨rfl, holds_list holds_ofPair _⟩
      (.cons ⟨rfl, holds_list holds_ofOctet _⟩ (.cons ⟨rfl, holds_ofOctets? _⟩ .nil))))))
  | serverHello hello =>
    exact .cons ⟨rfl, holds_ofPair _⟩ (.cons ⟨rfl, holds_word _⟩ (.cons ⟨rfl, holds_octets _⟩
      (.cons ⟨rfl, holds_ofOctets? _⟩ (.cons ⟨rfl, holds_ofPair _⟩
      (.cons ⟨rfl, holds_ofOctet _⟩ (.cons ⟨rfl, holds_ofOctets? _⟩ .nil))))))
  | serverHelloV13 hello =>
    exact .cons ⟨rfl, holds_ofPair _⟩ (.cons ⟨rfl, holds_octets _⟩ (.cons ⟨rfl, holds_ofPair _⟩
      (.cons ⟨rfl, holds_ofOctets? _⟩ .nil)))
  | helloRetryRequest request =>
    exact .cons ⟨rfl, holds_ofPair _⟩ (.cons ⟨rfl, holds_ofOctets? _⟩ .nil)
  | rawCertificate certificate => exact .cons ⟨rfl, holds_octets _⟩ .nil
  | serverKeyExchange exchange => exact .cons ⟨rfl, holds_octets _⟩ .nil
  | clientKeyExchange exchange => exact .cons ⟨rfl, holds_octets _⟩ .nil
  | serverDHParams params =>
    exact .cons ⟨rfl, holds_octets _⟩ (.cons ⟨rfl, holds_octets _⟩
      (.cons ⟨rfl, holds_octets _⟩ .nil))
  | hashSignAlgorithm pair =>
    exact .cons ⟨rfl, holds_ofOctet _⟩ (.cons ⟨rfl, holds_ofOctet _⟩ .nil)
  | digitallySigned signed =>
    exact .cons ⟨rfl, holds_algorithm _⟩ (.cons ⟨rfl, holds_octets _⟩ .nil)

end Message

namespace Extension

open FieldType

/-- Every extension has besides its tag the fields that its kind declares, with values of
their types. -/
theorem fits_payload (e : Extension) :
    List.Forall₂ Declared.Fits e.kind.declaredPayload e.payload := by
  cases e with
  | sni names =>
    exact .cons ⟨rfl, holds_list (fun name => holds_pair (holds_ofOctet _) (holds_octets _))
      names⟩ .nil
  | maxFragmentLength length => exact .cons ⟨rfl, holds_ofOctet _⟩ .nil
  | statusRequest data => exact .cons ⟨rfl, holds_ofOctets? _⟩ .nil
  | ellipticCurves groups => exact .cons ⟨rfl, holds_list holds_ofPair _⟩ .nil
  | ecPointFormats formats => exact .cons ⟨rfl, holds_octets _⟩ .nil
  | signatureAlgorithms algorithms =>
    exact .cons ⟨rfl, holds_list (fun pair => holds_pair (holds_ofOctet _) (holds_ofOctet _))
      algorithms⟩ .nil
  | sessionTicket data => exact .cons ⟨rfl, holds_octets _⟩ .nil
  | keyShare data => exact .cons ⟨rfl, holds_octets _⟩ .nil
  | preSharedKey data => exact .cons ⟨rfl, holds_octets _⟩ .nil
  | earlyData => exact .nil
  | supportedVersions versions => exact .cons ⟨rfl, holds_list holds_ofPair _⟩ .nil
  | cookie data => exact .cons ⟨rfl, holds_octets _⟩ .nil
  | pskExchangeModes modes => exact .cons ⟨rfl, holds_list holds_ofOctet _⟩ .nil
  | heartbeat mode => exact .cons ⟨rfl, holds_ofOctet _⟩ .nil
  | alpn protocols => exact .cons ⟨rfl, holds_list holds_octets _⟩ .nil
  | signedCertificateTimestamp data => exact .cons ⟨rfl, holds_ofOctets? _⟩ .nil
  | padding data => exact .cons ⟨rfl, holds_octets _⟩ .nil
  | encryptThenMac => exact .nil
  | extendedMasterSecret => exact .nil
  | nextProtocolNegotiation => exact .nil
  | renegotiationInfo data => exact .cons ⟨rfl, holds_octets _⟩ .nil
  | unknown id data => exact .cons ⟨rfl, holds_ofPair _⟩ (.cons ⟨rfl, holds_octets _⟩ .nil)

end Extension

/-- Every model is well-formed. -/
theorem Model.wellFormed (model : Model) : model.WellFormed := by
  cases model with
  | parsed => exact .nil
  | bareExtension => exact .nil
  | message content => exact content.fits
  | extension content => exact .cons ⟨rfl, rfl⟩ content.fits_payload
  | settings content => exact .cons ⟨rfl, _, rfl⟩ (.cons ⟨rfl, _, rfl⟩ .nil)

/-- The names of the fields are those that the kind declares. -/
theorem Model.map_fst_fields (model : Model) :
    model.fields.map Prod.fst = model.kind.declared.map Declared.name := by
  have hnames : ∀ {declared : List Declared} {fields : List (String × Datum)},
      List.Forall₂ Declared.Fits declared fields →
        fields.map Prod.fst = declared.map Declared.name := by
    intro declared fields h
    induction h with
    | nil => rfl
    | cons hfits _ ih => rw [List.map_cons, List.map_cons, hfits.name, ih]
  exact hnames model.wellFormed

/-- No kind declares a name twice. -/
theorem ModelKind.nodup_declared (kind : ModelKind) :
    (kind.declared.map Declared.name).Nodup := by
  cases kind with
  | parsed => decide
  | bareExtension => decide
  | message kind => cases kind <;> decide
  | extension kind => cases kind <;> decide
  | settings => decide

/-- Each field of a model is found under its name. -/
theorem Model.get?_field {model : Model} {field : String × Datum} (h : field ∈ model.fields) :
    Keyed.get? field.1 model.fields = some field.2 := by
  have hnodup : (model.fields.map Prod.fst).Nodup := by
    rw [model.map_fst_fields]
    exact model.kind.nodup_declared
  exact Keyed.get?_of_mem hnodup h

end TlsTranscript
