import TlsTranscript.Proofs.Check.Filled

/-!
# The declared union

The union of the extensions checks a table by the declarations of its members, and the
constructor of each kind checks named data by its own code. Both find the same: what is taken
from a table field by field are the fields of the extension that the kind builds from its
named data, and where the one finds problems, they are those of the other. The agreement is
proved for each type of field, and then for each kind along its declaration.
-/

namespace TlsTranscript

/-- What stands under a word in a table is found among its named data. -/
theorem Table.get?_word (word : String) (entries : Table Datum) :
    get? (.text word) entries = Keyed.get? word (Datum.words entries) := by
  induction entries with
  | nil => rfl
  | cons entry rest ih =>
    obtain ⟨key, value⟩ := entry
    cases key with
    | text other =>
      have hmatch : (Datum.text word).matchesPart (.text other) = (word == other) := rfl
      have hwords : Datum.words ((.text other, value) :: rest) =
        (other, value) :: Datum.words rest := rfl
      rw [get?, hmatch, hwords, Keyed.get?, ih]
      by_cases h : word = other
      · rw [if_pos h, if_pos (beq_iff_eq.mpr h)]
      · rw [if_neg h, if_neg (by simpa using h)]
    | _ => exact ih

namespace Checked

variable {α β γ : Type}

/-- Changes of a result that follow one another. -/
theorem map_map (f : α → β) (g : β → γ) (value : Checked α) :
    (value.map f).map g = value.map (g ∘ f) := by
  cases value <;> rfl

/-- Changes of a result that make the same of each value it can have. -/
theorem map_congr {f g : α → β} {value : Checked α} (h : ∀ a, value = .valid a → f a = g a) :
    value.map f = value.map g := by
  cases value with
  | valid a => exact congrArg Checked.valid (h a rfl)
  | invalid problems => rfl

end Checked

namespace FieldType

variable {α β : Type}

/-- A check of a field agrees with a type if it finds in every datum what the type does, in a
form of its own. -/
def Agrees (type : FieldType) (check : Datum → Checked α) (shown : α → Datum) : Prop :=
  ∀ datum, type.check datum = (check datum).map shown

variable {first second item : FieldType} {check : Datum → Checked α}
  {other : Datum → Checked β} {shown : α → Datum} {display : β → Datum}

/-- Numbers of one octet. -/
theorem agrees_octet : octet.Agrees Check.octet .ofOctet := by
  intro datum
  rw [Check.octet, Checked.map_map]
  refine Checked.map_congr fun n hn => ?_
  have hsame : (UInt8.ofNat n).toNat = n :=
    UInt8.toNat_ofNat_of_lt' (Nat.lt_succ_of_le (integer_of_naturalUpTo hn).2)
  rw [Function.comp_apply, Datum.ofOctet, hsame]
  rfl

/-- Numbers of two octets. -/
theorem agrees_twoOctets : twoOctets.Agrees Check.twoOctets .ofPair := by
  intro datum
  rw [Check.twoOctets, Checked.map_map]
  refine Checked.map_congr fun n hn => ?_
  have hsame : (UInt16.ofNat n).toNat = n :=
    UInt16.toNat_ofNat_of_lt' (Nat.lt_succ_of_le (integer_of_naturalUpTo hn).2)
  rw [Function.comp_apply, Datum.ofPair, hsame]
  rfl

/-- Octet strings. -/
theorem agrees_octets : octets.Agrees Check.octets .octets := fun _ => rfl

/-- Octet strings that may be missing. -/
theorem agrees_optional : (optional octets).Agrees (Check.optional Check.octets) .ofOctets? := by
  intro datum
  by_cases h : datum = .absent
  · subst h
    rfl
  · rw [optional_of_ne h, Checked.map_map]
    cases datum with
    | absent => exact absurd rfl h
    | _ => rfl

/-- Items, from any index on. -/
theorem itemsFrom_check (h : item.Agrees check shown) (index : Nat) (items : List Datum) :
    Check.itemsFrom item.check index items =
      (Check.itemsFrom check index items).map (List.map shown) := by
  induction items generalizing index with
  | nil => rfl
  | cons datum rest ih =>
    simp only [Check.itemsFrom, ih, h datum]
    cases check datum <;> cases Check.itemsFrom check (index + 1) rest <;> rfl

/-- Lists. -/
theorem agrees_list (h : item.Agrees check shown) :
    (list item).Agrees (Check.list check) fun values => .list (values.map shown) := by
  intro datum
  have hitems : Check.list item.check datum = (Check.list check datum).map (List.map shown) := by
    cases datum with
    | list items => exact itemsFrom_check h 0 items
    | tuple items => exact itemsFrom_check h 0 items
    | model value => exact itemsFrom_check h 0 value.pairs
    | _ => rfl
  rw [FieldType.check, hitems, Checked.map_map]
  rfl

/-- The two items of a pair. -/
theorem pairItems_check (hf : first.Agrees check shown) (hs : second.Agrees other display)
    (surplus : Defect) (items : List Datum) :
    Check.pairItems first.check second.check surplus items =
      (Check.pairItems check other surplus items).map fun both =>
        (shown both.1, display both.2) := by
  match items with
  | [] => rfl
  | [a] =>
    simp only [Check.pairItems, hf a]
    cases check a <;> rfl
  | [a, b] =>
    simp only [Check.pairItems, hf a, hs b]
    cases check a <;> cases other b <;> rfl
  | _ :: _ :: _ :: _ => rfl

/-- Pairs. -/
theorem agrees_pair (hf : first.Agrees check shown) (hs : second.Agrees other display) :
    (pair first second).Agrees (Check.pair check other) fun both =>
      .tuple [shown both.1, display both.2] := by
  intro datum
  have hitems : Check.pair first.check second.check datum =
      (Check.pair check other datum).map fun both => (shown both.1, display both.2) := by
    cases datum with
    | list items => exact pairItems_check hf hs _ items
    | tuple items => exact pairItems_check hf hs _ items
    | model value => exact pairItems_check hf hs _ value.pairs
    | _ => rfl
  rw [FieldType.check, hitems, Checked.map_map]
  rfl

/-- The tag of a kind. -/
theorem agrees_tag (kind : ExtensionKind) :
    (tag kind.tag).Agrees kind.checkTag fun _ => .text kind.tag := by
  intro datum
  cases datum with
  | text value =>
    rw [FieldType.check, ExtensionKind.checkTag]
    split <;> rfl
  | _ => rfl

end FieldType

namespace Declared

variable {α β : Type} {entries : Table Datum} {name : String} {type : FieldType}
  {check : Datum → Checked α} {shown : α → Datum}

open FieldType

/-- A required field is taken as the kind checks it. -/
theorem take_required (h : type.Agrees check shown) :
    take entries { name, type } =
      (Check.required (Datum.words entries) name check).map fun value => (name, shown value) := by
  rw [take, Table.get?_word, Check.required]
  cases Keyed.get? name (Datum.words entries) with
  | none => rfl
  | some datum =>
    dsimp only
    rw [h datum]
    cases check datum <;> rfl

/-- A field with a default is taken as the kind checks it. -/
theorem take_withDefault (h : type.Agrees check shown) (default : α) :
    take entries { name, type, preset := some (shown default) } =
      (Check.withDefault (Datum.words entries) name default check).map fun value =>
        (name, shown value) := by
  rw [take, Table.get?_word, Check.withDefault]
  cases Keyed.get? name (Datum.words entries) with
  | none => rfl
  | some datum =>
    dsimp only
    rw [h datum]
    cases check datum <;> rfl

variable {field other : Declared} {result : Checked α} {made : Checked β}
  {shownField : α → String × Datum} {shownOther : β → String × Datum}

/-- A single field is taken as the extension with it shows it. -/
theorem takeAll_one {make : α → Extension} (h : field.take entries = result.map shownField)
    (hshown : ∀ value, (make value).payload = [shownField value]) :
    takeAll entries [field] = (make <$> result).map Extension.payload := by
  rw [takeAll, takeAll, h]
  cases result with
  | valid value => exact congrArg Checked.valid (hshown value).symm
  | invalid problems => rfl

/-- Two fields are taken as the extension with them shows them. -/
theorem takeAll_two {make : α → β → Extension} (h : field.take entries = result.map shownField)
    (ho : other.take entries = made.map shownOther)
    (hshown : ∀ value next, (make value next).payload = [shownField value, shownOther next]) :
    takeAll entries [field, other] = (make <$> result <*> made).map Extension.payload := by
  rw [takeAll, takeAll, takeAll, h, ho]
  cases result with
  | valid value =>
    cases made with
    | valid next => exact congrArg Checked.valid (hshown value next).symm
    | invalid problems => rfl
  | invalid problems => cases made <;> rfl

end Declared

namespace ExtensionKind

open FieldType Declared

/-- The fields besides the tag are taken as the kind builds them. -/
theorem takeAll_declaredPayload (kind : ExtensionKind) (entries : Table Datum) :
    takeAll entries kind.declaredPayload =
      (kind.ofPayload (Datum.words entries)).map Extension.payload := by
  cases kind with
  | sni =>
    exact takeAll_one
      (take_withDefault (agrees_list (agrees_pair agrees_octet agrees_octets)) []) fun _ => rfl
  | maxFragmentLength => exact takeAll_one (take_required agrees_octet) fun _ => rfl
  | statusRequest => exact takeAll_one (take_withDefault agrees_optional none) fun _ => rfl
  | ellipticCurves =>
    exact takeAll_one (take_withDefault (agrees_list agrees_twoOctets) []) fun _ => rfl
  | ecPointFormats => exact takeAll_one (take_withDefault agrees_octets []) fun _ => rfl
  | signatureAlgorithms =>
    exact takeAll_one
      (take_withDefault (agrees_list (agrees_pair agrees_octet agrees_octet)) []) fun _ => rfl
  | sessionTicket | padding | renegotiationInfo =>
    exact takeAll_one (take_withDefault agrees_octets []) fun _ => rfl
  | keyShare | preSharedKey | cookie =>
    exact takeAll_one (take_required agrees_octets) fun _ => rfl
  | supportedVersions =>
    exact takeAll_one (take_withDefault (agrees_list agrees_twoOctets) []) fun _ => rfl
  | pskExchangeModes =>
    exact takeAll_one (take_withDefault (agrees_list agrees_octet) []) fun _ => rfl
  | heartbeat => exact takeAll_one (take_required agrees_octet) fun _ => rfl
  | alpn => exact takeAll_one (take_withDefault (agrees_list agrees_octets) []) fun _ => rfl
  | signedCertificateTimestamp =>
    exact takeAll_one (take_withDefault agrees_optional none) fun _ => rfl
  | unknown =>
    exact takeAll_two (take_required agrees_twoOctets) (take_withDefault agrees_octets [])
      fun _ _ => rfl
  | earlyData | encryptThenMac | extendedMasterSecret | nextProtocolNegotiation => rfl

/-- All declared fields are taken as the fields of the extension that the kind builds. -/
theorem takeAll_declared (kind : ExtensionKind) (entries : Table Datum) :
    takeAll entries kind.declared =
      (kind.ofEntries (Datum.words entries)).map Extension.fields := by
  have htag : take entries
        { name := "type", type := .tag kind.tag, preset := some (.text kind.tag) } =
      (Check.withDefault (Datum.words entries) "type" () kind.checkTag).map fun _ =>
        ("type", .text kind.tag) := take_withDefault (agrees_tag kind) ()
  rw [declared, takeAll, htag, takeAll_declaredPayload, ofEntries]
  cases Check.withDefault (Datum.words entries) "type" () kind.checkTag with
  | valid _ =>
    cases hpayload : kind.ofPayload (Datum.words entries) with
    | valid content =>
      have hfields : content.fields = ("type", .text kind.tag) :: content.payload := by
        rw [Extension.fields, (filled_of_ofPayload hpayload).1]
      exact congrArg Checked.valid hfields.symm
    | invalid problems => rfl
  | invalid problems => cases kind.ofPayload (Datum.words entries) <;> rfl

end ExtensionKind

namespace Datum

/-- An octet is what its number stands for. -/
theorem asOctet_ofOctet (value : UInt8) : (ofOctet value).asOctet = value := by
  simp [ofOctet, asOctet]

/-- Two octets are what their number stands for. -/
theorem asTwoOctets_ofPair (value : UInt16) : (ofPair value).asTwoOctets = value := by
  simp [ofPair, asTwoOctets]

/-- Octets that may be missing are told by their datum. -/
theorem asOctets?_ofOctets? (value : Option Bytes) : (ofOctets? value).asOctets? = value := by
  cases value <;> rfl

/-- Items are told by the list of their data. -/
theorem asList_map {α : Type} {item : Datum → α} {shown : α → Datum}
    (h : ∀ value, item (shown value) = value) (values : List α) :
    (list (values.map shown)).asList item = values := by
  rw [asList, List.map_map]
  exact List.map_id'' h values

end Datum

namespace ExtensionKind

open Datum

/-- An extension is told by its fields. -/
theorem ofFields_fields (content : Extension) :
    content.kind.ofFields content.fields = content := by
  cases content with
  | sni names =>
    exact congrArg Extension.sni
      (asList_map (fun name => Prod.ext (asOctet_ofOctet name.1) rfl) names)
  | maxFragmentLength length => exact congrArg Extension.maxFragmentLength (asOctet_ofOctet length)
  | statusRequest data => exact congrArg Extension.statusRequest (asOctets?_ofOctets? data)
  | ellipticCurves groups =>
    exact congrArg Extension.ellipticCurves (asList_map asTwoOctets_ofPair groups)
  | signatureAlgorithms algorithms =>
    exact congrArg Extension.signatureAlgorithms (asList_map
      (fun pair => Prod.ext (asOctet_ofOctet pair.1) (asOctet_ofOctet pair.2)) algorithms)
  | supportedVersions versions =>
    exact congrArg Extension.supportedVersions (asList_map asTwoOctets_ofPair versions)
  | pskExchangeModes modes =>
    exact congrArg Extension.pskExchangeModes (asList_map asOctet_ofOctet modes)
  | heartbeat mode => exact congrArg Extension.heartbeat (asOctet_ofOctet mode)
  | alpn protocols => exact congrArg Extension.alpn (asList_map (fun _ => rfl) protocols)
  | signedCertificateTimestamp data =>
    exact congrArg Extension.signedCertificateTimestamp (asOctets?_ofOctets? data)
  | unknown id data => exact congrArg (Extension.unknown · data) (asTwoOctets_ofPair id)
  | _ => rfl

/-- What the declaration of a kind makes of a table is what the kind builds from its named
data. -/
theorem ofTable_eq (kind : ExtensionKind) (entries : Table Datum) :
    kind.ofTable entries = kind.ofEntries (words entries) := by
  rw [ofTable, takeAll_declared, Checked.map_map]
  cases h : kind.ofEntries (words entries) with
  | valid content =>
    have hkind : content.kind = kind := (filled_of_ofEntries h).1
    rw [Checked.map, Function.comp_apply, ← hkind, ofFields_fields]
  | invalid problems => rfl

/-- The member that declares the tag of a kind is this kind. -/
@[simp] theorem ofDeclaredTag?_tag (kind : ExtensionKind) :
    ofDeclaredTag? kind.tag = some kind := by
  cases kind <;> rfl

/-- Every member declares the tag of its kind. -/
theorem declaredTag?_eq (kind : ExtensionKind) : kind.declaredTag? = some kind.tag := by
  cases kind <;> rfl

/-- The member that declares a tag is the kind with this tag. -/
theorem tag_of_ofDeclaredTag? {tag : String} {kind : ExtensionKind}
    (h : ofDeclaredTag? tag = some kind) : kind.tag = tag := by
  unfold ofDeclaredTag? at h
  have hfound := List.find?_some h
  rw [declaredTag?_eq] at hfound
  exact Option.some.inj (beq_iff_eq.mp hfound)

end ExtensionKind

namespace Extension

end Extension

end TlsTranscript
