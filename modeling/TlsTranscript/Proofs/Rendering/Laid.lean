import TlsTranscript.Proofs.Rendering.Lookup

/-!
# Structures written code by code

Where the names of codes need not be texts, a structure is written code by code, and
each code is looked up when it is reached. Where all names are texts, this comes to the
same text and the same records as writing the structure at once.
-/

namespace TlsTranscript

variable {naming : Naming} {registries : Registries}

/-- An action writes a rendering: it answers the text as a datum and leaves the records. -/
def Action.Writes (action : Action Datum) (rendered : Rendered) : Prop :=
  ∀ w, action.runIn w =
    (.ok (.text rendered.text), { w with log := rendered.log.reverse ++ w.log })

/-- More digits allow larger integers, whatever their powers are. -/
theorem Text.pow_le_pow {few many : Nat} (h : few ≤ many) : Nat.pow 10 few ≤ Nat.pow 10 many :=
  Nat.pow_le_pow_right (by decide) h

/-- An integer of few enough digits can be shown in decimal. -/
theorem Text.isWritable_of_lt_pow {n digits : Nat} (h : n < Nat.pow 10 digits)
    (hd : digits ≤ maxDigits) : isWritable n = true := by
  have hlt : Int.natAbs (n : Int) < Nat.pow 10 maxDigits := by
    rw [Int.natAbs_natCast]
    -- the power of the limit is never evaluated
    exact Nat.lt_of_lt_of_le h (pow_le_pow hd)
  exact decide_eq_true hlt

/-- An integer of at most 32 bits can be shown in decimal. -/
theorem Text.isWritable_of_lt {n : Nat} (h : n < UInt32.size) : isWritable n = true := by
  have hpow : n < Nat.pow 10 10 := Nat.lt_of_lt_of_le h (by decide)
  exact isWritable_of_lt_pow hpow (by decide)

namespace Rendered

/-- A row in which everything is rendered. -/
theorem row_ok {α : Type} (rendered : α → Rendered) (items : List α) :
    row (fun item => .ok (rendered item)) items =
      (.ok (items.map fun item => (rendered item).text),
        items.flatMap fun item => (rendered item).log) := by
  induction items with
  | nil => rfl
  | cons item rest ih => simp only [row, ih, Except.map, List.map_cons, List.flatMap_cons]

end Rendered

namespace Action

/-- Items that are all rendered, one after the other. -/
theorem runIn_mapM_ok {α : Type} {action : α → Action String} {rendered : α → Rendered}
    (h : ∀ item, (action item).ComesTo (.ok (rendered item))) (items : List α) (w : World) :
    (items.mapM action).runIn w =
      (.ok (items.map fun item => (rendered item).text),
        { w with log := (items.flatMap fun item => (rendered item).log).reverse ++ w.log }) := by
  rw [runIn_mapM h, Rendered.row_ok]

/-- What is written is displayed as it is. -/
theorem Writes.display {action : Action Datum} {rendered : Rendered}
    (h : action.Writes rendered) :
    ComesTo (do ofResult (← action).displayOperand) (.ok rendered) := by
  intro w
  rw [runIn_bind_of_ok (h w)]
  rfl

end Action

namespace Datum

/-- A code is written as what stands under it, which is its name. -/
theorem writeCode_integer (hn : naming.registries? = some registries) (kind : RegistryKind)
    (code : Int) :
    (Datum.integer code).writeCode kind (.ok naming) =
      (Datum.integer code).writeFound kind (.ok (.ofText? (registries.nameOf? kind code))) := by
  have hfound : Naming.lookUp (.ok naming) kind (.integer code) =
      .ok (.ofText? (registries.nameOf? kind code)) := Naming.nameOf_integer hn kind code
  rw [writeCode_eq, hfound]

/-- A code with a name is written with it, whatever its size is. -/
theorem writes_writeCode_of_name (hn : naming.registries? = some registries)
    {kind : RegistryKind} {code : Int} {name : String}
    (h : registries.nameOf? kind code = some name) :
    ((Datum.integer code).writeCode kind (.ok naming)).Writes (registries.write kind code) := by
  intro w
  rw [writeCode_integer hn, h, Registries.write, h]
  cases kind <;> rfl

/-- A code is written with its name or as an unknown one. -/
theorem writes_writeCode (hn : naming.registries? = some registries) (kind : RegistryKind)
    {code : Int} (hw : Text.isWritable code = true) :
    ((Datum.integer code).writeCode kind (.ok naming)).Writes (registries.write kind code) := by
  cases hname : registries.nameOf? kind code with
  | some name => exact writes_writeCode_of_name hn hname
  | none =>
    intro w
    have hshown : (Datum.integer code).displayOperand = .ok (Text.decimal code) := by
      simp only [displayOperand, isWritable, hw, if_true]
      rfl
    have hunnamed : (Datum.integer code).unnamedCode kind =
        .ok (.text (kind.withoutName code (Text.decimal code))) := by
      unfold unnamedCode
      rw [hshown]
      cases kind <;> rfl
    rw [writeCode_integer hn, Registries.write, hname]
    simp only [writeFound, ofText?, hunnamed]
    rfl

/-- An octet is a code that can be shown. -/
theorem comesTo_displayCode_ofOctet (hn : naming.registries? = some registries)
    (kind : RegistryKind) (octet : UInt8) :
    ((Datum.ofOctet octet).displayCode kind (.ok naming)).ComesTo
      (.ok (registries.write kind (UInt8.code octet))) :=
  (writes_writeCode hn kind (Text.isWritable_of_lt
    (Nat.lt_of_lt_of_le octet.toNat_lt (by decide)))).display

/-- A number of two octets is a code that can be shown. -/
theorem comesTo_displayCode_ofPair (hn : naming.registries? = some registries)
    (kind : RegistryKind) (pair : UInt16) :
    ((Datum.ofPair pair).displayCode kind (.ok naming)).ComesTo
      (.ok (registries.write kind (UInt16.code pair))) :=
  (writes_writeCode hn kind (Text.isWritable_of_lt
    (Nat.lt_of_lt_of_le pair.toNat_lt (by decide)))).display

end Datum

namespace Extension

/-- A pair of algorithms is written as its hash algorithm and its signature algorithm
are. -/
theorem comesTo_writePair (hn : naming.registries? = some registries) (pair : UInt8 × UInt8) :
    Action.ComesTo (do
        let hash ← (Datum.ofOctet pair.1).displayCode .hashAlgorithm (.ok naming)
        let sign ← (Datum.ofOctet pair.2).displayCode .signatureAlgorithm (.ok naming)
        return "(" ++ hash ++ "," ++ sign ++ ")")
      (.ok (writePair registries pair)) := by
  intro w
  have hhash := Datum.comesTo_displayCode_ofOctet hn .hashAlgorithm pair.1
  have hsign := Datum.comesTo_displayCode_ofOctet hn .signatureAlgorithm pair.2
  rw [Action.runIn_bind_of_ok (hhash w), Action.runIn_bind_of_ok (hsign _), Action.runIn_pure]
  simp [writePair]

/-- Where all names are texts, an extension is written code by code as it is written at
once. -/
theorem comesTo_writeCodes (hn : naming.registries? = some registries) {e : Extension}
    (hc : e.codes ≠ []) : (e.writeCodes (.ok naming)).ComesTo (.ok (e.write registries)) := by
  intro w
  cases e with
  | ellipticCurves groups =>
    have hgroup := fun group => Datum.comesTo_displayCode_ofPair hn .namedGroup group
    rw [writeCodes, Action.runIn_bind_of_ok (Action.runIn_mapM_ok hgroup groups w)]
    simp [Action.runIn_pure, write, Rendered.tagged, Rendered.list, bracketed,
      Function.comp_def, List.flatMap_map]
  | signatureAlgorithms algorithms =>
    have hpair := fun pair => comesTo_writePair hn pair
    rw [writeCodes, Action.runIn_bind_of_ok (Action.runIn_mapM_ok hpair algorithms w)]
    simp [Action.runIn_pure, write, Rendered.tagged, Rendered.list, bracketed,
      Function.comp_def, List.flatMap_map]
  | _ => exact absurd rfl hc

end Extension

namespace Datum

/-- The items of a list, all of them written. -/
theorem writes_writeItems {α : Type} {make : α → Datum} {write : Datum → Action String}
    {rendered : α → Rendered} (h : ∀ item, (write (make item)).ComesTo (.ok (rendered item)))
    (items : List α) :
    (writeItems write (.list (items.map make))).Writes
      (Rendered.list (items.map rendered)) := by
  intro w
  have hitems : (items.map make).mapM write = items.mapM fun item => write (make item) :=
    List.mapM_map
  have hlist : Action.ofResult (Datum.items (.list (items.map make))) =
      (pure (items.map make) : Action (List Datum)) := rfl
  rw [writeItems, hlist, pure_bind, hitems,
    Action.runIn_bind_of_ok (Action.runIn_mapM_ok h items w), Action.runIn_pure]
  simp [Rendered.list, bracketed, Function.comp_def, List.flatMap_map]

/-- A text that is known without a world is written as it is. -/
theorem writes_writtenText {result : Except Failure String} {text : String}
    (h : result = .ok text) : (writtenText result).Writes (.plain text) := by
  intro w
  rw [h]
  rfl

/-- A datum whose items are integers is listed as these. -/
theorem hexListing_of_items {datum : Datum} {values : List Int}
    (h : datum.items = .ok (values.map .integer)) :
    datum.hexListing = .ok (Text.hexListing values) := by
  have hvalues : ∀ others : List Int,
      (others.map Datum.integer).mapM hexOperand = Except.ok others := by
    intro others
    induction others with
    | nil => rfl
    | cons value rest ih =>
      rw [List.map_cons, List.mapM_cons, ih]
      rfl
  rw [hexListing, h]
  change ((values.map Datum.integer).mapM hexOperand >>= fun read =>
    Except.ok (Text.hexListing read)) = _
  rw [hvalues]
  rfl

/-- The listing of octets. -/
theorem hexListing_octets (data : Bytes) :
    (Datum.octets data).hexListing = .ok (Bytes.listing data) := by
  have hitems : (Datum.octets data).items =
      .ok ((data.map fun octet => Int.ofNat octet.toNat).map .integer) := by
    rw [List.map_map]
    rfl
  exact hexListing_of_items hitems

/-- The listing of octets that may be missing. -/
theorem hexListingOrNone_ofOctets? (data : Option Bytes) :
    (Datum.ofOctets? data).hexListingOrNone = .ok (Bytes.listingOrNone data) := by
  cases data with
  | none => rfl
  | some octets => exact hexListing_octets octets

/-- The display of a number that can be shown. -/
theorem displayOperand_integer {n : Nat} (h : n < UInt32.size) :
    (Datum.integer n).displayOperand = .ok (Text.decimal n) := by
  have hw : (Datum.integer n).isWritable = true := by
    simp only [isWritable, Text.isWritable_of_lt h]
  rw [displayOperand, hw]
  rfl

/-- A field of a datum is written as an entry of a record: under the label of the entry
and with its value. -/
structure WritesField (algorithm : Datum → Action String) (naming : Except Failure Naming)
    (datum : Datum) (field : LaidField) (entry : String × Rendered) : Prop where
  /-- The entry has the label of the field. -/
  label : field.label = entry.1
  /-- The datum has the property of the field, and its value is written. -/
  value : ∃ value, datum.propertyOperand field.property = .ok value ∧
    (writeValueWith algorithm naming field.form value).Writes entry.2

section Record

variable {algorithm : Datum → Action String} {given : Except Failure Naming} {datum : Datum}

/-- A field of a datum with its label. -/
def writeField (algorithm : Datum → Action String) (naming : Except Failure Naming)
    (datum : Datum) (field : LaidField) : Action (String × Datum) := do
  let value ← Action.ofResult (datum.propertyOperand field.property)
  return (field.label, ← writeValueWith algorithm naming field.form value)

/-- A labelled value as it is displayed. -/
def displayField (field : String × Datum) : Action (String × String) := do
  return (field.1, ← Action.ofResult field.2.displayOperand)

/-- A layout is written field by field, and all values are displayed at the end. -/
theorem writeLaidWith_eq (algorithm : Datum → Action String) (given : Except Failure Naming)
    (kind : MessageKind) (datum : Datum) :
    datum.writeLaidWith algorithm given kind = (do
      let fields ← kind.layout.mapM (writeField algorithm given datum)
      let texts ← fields.mapM displayField
      return recordText kind.name texts) := rfl

/-- Fields that are all written, one after the other. -/
theorem runIn_writeFields {fields : List LaidField} {entries : List (String × Rendered)}
    (h : List.Forall₂ (WritesField algorithm given datum) fields entries) (w : World) :
    (fields.mapM (writeField algorithm given datum)).runIn w =
      (.ok (entries.map fun entry => (entry.1, .text entry.2.text)),
        { w with log := (entries.flatMap fun entry => entry.2.log).reverse ++ w.log }) := by
  induction h generalizing w with
  | nil => rfl
  | @cons field entry rest others hfield _ ih =>
    obtain ⟨hlabel, value, hvalue, hwrites⟩ := hfield
    have hfirst : (writeField algorithm given datum field).runIn w =
        (.ok (entry.1, .text entry.2.text),
          { w with log := entry.2.log.reverse ++ w.log }) := by
      rw [writeField, Action.runIn_bind_of_ok (by rw [hvalue]; exact Action.runIn_ofResult _ w),
        Action.runIn_bind_of_ok (hwrites w), hlabel]
      rfl
    rw [List.mapM_cons, Action.runIn_bind_of_ok hfirst, Action.runIn_bind_of_ok (ih _)]
    simp [Action.runIn_pure]

/-- Texts are displayed as they are. -/
theorem runIn_displayFields (entries : List (String × Rendered)) (w : World) :
    ((entries.map fun entry => (entry.1, Datum.text entry.2.text)).mapM displayField).runIn w =
      (.ok (entries.map fun entry => (entry.1, entry.2.text)), w) := by
  induction entries with
  | nil => rfl
  | cons entry rest ih =>
    have hfirst : (displayField (entry.1, .text entry.2.text)).runIn w =
        (.ok (entry.1, entry.2.text), w) := rfl
    rw [List.map_cons, List.mapM_cons, Action.runIn_bind_of_ok hfirst,
      Action.runIn_bind_of_ok ih, Action.runIn_pure, List.map_cons]

/-- A record of texts is the text of the record. -/
theorem recordText_eq (name : String) (entries : List (String × Rendered)) :
    recordText name (entries.map fun entry => (entry.1, entry.2.text)) =
      (Rendered.record name entries).text := by
  simp [recordText, Rendered.record, Rendered.field, Function.comp_def]

/-- A datum whose fields are all written is written as a record of them. -/
theorem comesTo_writeLaidWith {kind : MessageKind} {entries : List (String × Rendered)}
    (h : List.Forall₂ (WritesField algorithm given datum) kind.layout entries) :
    (datum.writeLaidWith algorithm given kind).ComesTo
      (.ok (Rendered.record kind.name entries)) := by
  intro w
  rw [writeLaidWith_eq, Action.runIn_bind_of_ok (runIn_writeFields h w),
    Action.runIn_bind_of_ok (runIn_displayFields entries _), Action.runIn_pure, recordText_eq]
  simp [Rendered.record, Rendered.field, List.flatMap_map]

/-- A field is refused where its value is. -/
theorem runIn_writeField_error {field : LaidField} {value : Datum} {failure : Failure}
    {w : World} (hp : datum.propertyOperand field.property = .ok value)
    (hv : (writeValueWith algorithm given field.form value).runIn w = (.error failure, w)) :
    (writeField algorithm given datum field).runIn w = (.error failure, w) := by
  rw [writeField, hp, Action.runIn_bind_of_ok (Action.runIn_ofResult (.ok value) w),
    Action.runIn_bind_of_error hv]

/-- A datum is refused where one of its fields is, if nothing has been noted before. -/
theorem comesTo_writeLaidWith_error {kind : MessageKind} {front rest : List LaidField}
    {field : LaidField} {entries : List (String × Rendered)} {failure : Failure}
    (hl : kind.layout = front ++ field :: rest)
    (hf : List.Forall₂ (WritesField algorithm given datum) front entries)
    (hlog : entries.flatMap (fun entry => entry.2.log) = [])
    (he : ∀ w, (writeField algorithm given datum field).runIn w = (.error failure, w)) :
    (datum.writeLaidWith algorithm given kind).ComesTo (.error failure) := by
  intro w
  have hfront := runIn_writeFields hf w
  rw [hlog] at hfront
  have hrest : ((field :: rest).mapM (writeField algorithm given datum)).runIn w =
      (.error failure, w) := by
    rw [List.mapM_cons, Action.runIn_bind_of_error (he w)]
  have hfields : (kind.layout.mapM (writeField algorithm given datum)).runIn w =
      (.error failure, w) := by
    rw [hl, List.mapM_append, Action.runIn_bind_of_ok hfront]
    exact Action.runIn_bind_of_error hrest
  rw [writeLaidWith_eq, Action.runIn_bind_of_error hfields]

/-- A field that shows a number of one octet. -/
theorem WritesField.octet {label property : String} {value : UInt8}
    (h : datum.propertyOperand property = .ok (.ofOctet value)) :
    WritesField algorithm given datum ⟨label, property, .octet⟩
      (label, .plain (Text.hex8 (UInt8.code value))) :=
  ⟨rfl, _, h, writes_writtenText rfl⟩

/-- A field that shows a number of two octets. -/
theorem WritesField.twoOctets {label property : String} {value : UInt16}
    (h : datum.propertyOperand property = .ok (.ofPair value)) :
    WritesField algorithm given datum ⟨label, property, .twoOctets⟩
      (label, .plain (Text.hex16 (UInt16.code value))) :=
  ⟨rfl, _, h, writes_writtenText rfl⟩

/-- A field that shows a number in decimal. -/
theorem WritesField.display {label property : String} {value : Nat} (hv : value < UInt32.size)
    (h : datum.propertyOperand property = .ok (.integer value)) :
    WritesField algorithm given datum ⟨label, property, .display⟩
      (label, .plain (Text.decimal value)) :=
  ⟨rfl, _, h, writes_writtenText (displayOperand_integer hv)⟩

/-- A field that shows octets. -/
theorem WritesField.listing {label property : String} {data : Bytes}
    (h : datum.propertyOperand property = .ok (.octets data)) :
    WritesField algorithm given datum ⟨label, property, .listing⟩
      (label, .plain (Bytes.listing data)) :=
  ⟨rfl, _, h, writes_writtenText (hexListing_octets data)⟩

/-- A field that shows octets that may be missing. -/
theorem WritesField.listingOrNone {label property : String} {data : Option Bytes}
    (h : datum.propertyOperand property = .ok (.ofOctets? data)) :
    WritesField algorithm given datum ⟨label, property, .listingOrNone⟩
      (label, .plain (Bytes.listingOrNone data)) :=
  ⟨rfl, _, h, writes_writtenText (hexListingOrNone_ofOctets? data)⟩

/-- A field that shows a list of numbers of one octet. -/
theorem WritesField.octets {label property : String} {values : Bytes}
    (h : datum.propertyOperand property = .ok (.list (values.map .ofOctet))) :
    WritesField algorithm given datum ⟨label, property, .octets⟩
      (label, .list (values.map fun value => .plain (Text.hex8 (UInt8.code value)))) :=
  ⟨rfl, _, h, writes_writeItems (fun _ _ => rfl) values⟩

/-- A field that shows a code of one octet. -/
theorem WritesField.code (hn : naming.registries? = some registries) {label property : String}
    {kind : RegistryKind} {value : UInt8}
    (h : datum.propertyOperand property = .ok (.ofOctet value)) :
    WritesField algorithm (.ok naming) datum ⟨label, property, .code kind⟩
      (label, registries.write kind (UInt8.code value)) :=
  ⟨rfl, _, h, writes_writeCode hn kind (Text.isWritable_of_lt
    (Nat.lt_of_lt_of_le value.toNat_lt (by decide)))⟩

/-- A field that shows a code of two octets. -/
theorem WritesField.longCode (hn : naming.registries? = some registries)
    {label property : String} {kind : RegistryKind} {value : UInt16}
    (h : datum.propertyOperand property = .ok (.ofPair value)) :
    WritesField algorithm (.ok naming) datum ⟨label, property, .code kind⟩
      (label, registries.write kind (UInt16.code value)) :=
  ⟨rfl, _, h, writes_writeCode hn kind (Text.isWritable_of_lt
    (Nat.lt_of_lt_of_le value.toNat_lt (by decide)))⟩

/-- A field that shows a list of codes of two octets. -/
theorem WritesField.longCodes (hn : naming.registries? = some registries)
    {label property : String} {kind : RegistryKind} {values : List UInt16}
    (h : datum.propertyOperand property = .ok (.list (values.map .ofPair))) :
    WritesField algorithm (.ok naming) datum ⟨label, property, .codes kind⟩
      (label, .list (values.map fun value => registries.write kind (UInt16.code value))) :=
  ⟨rfl, _, h, writes_writeItems (comesTo_displayCode_ofPair hn kind) values⟩

/-- A pair of algorithms is written code by code. -/
theorem comesTo_writeLaidWith_algorithm (hn : naming.registries? = some registries)
    (pair : HashSignAlgorithm) :
    ((Datum.model (.message (.hashSignAlgorithm pair))).writeLaidWith algorithm (.ok naming)
      .hashSignAlgorithm).ComesTo (.ok (Message.writeAlgorithm registries pair)) :=
  comesTo_writeLaidWith (.cons (.code hn rfl) (.cons (.code hn rfl) .nil))

/-- A pair of algorithms is refused where codes have no names at all. -/
theorem comesTo_writeLaidWith_algorithm_error (failure : Failure) (pair : HashSignAlgorithm) :
    ((Datum.model (.message (.hashSignAlgorithm pair))).writeLaidWith algorithm (.error failure)
      .hashSignAlgorithm).ComesTo (.error failure) :=
  comesTo_writeLaidWith_error (List.nil_append _).symm .nil rfl fun _ => rfl

end Record

/-- Where all names are texts, a message is written code by code as it is written at
once. -/
theorem comesTo_writeLaid (hn : naming.registries? = some registries) {content : Message}
    (hc : content.codes ≠ []) :
    (writeLaid content.kind (.ok naming) (.model (.message content))).ComesTo
      (.ok (content.write registries)) := by
  have hoctet : ∀ octet : UInt8, octet.toNat < UInt32.size := fun octet =>
    Nat.lt_of_lt_of_le octet.toNat_lt (by decide)
  cases content with
  | alert notice =>
    exact comesTo_writeLaidWith (.cons (.code hn rfl) (.cons (.display (hoctet _) rfl) .nil))
  | clientHello hello =>
    exact comesTo_writeLaidWith (.cons (.twoOctets rfl)
      (.cons (.display hello.randTime.toNat_lt rfl) (.cons (.listing rfl)
      (.cons (.listingOrNone rfl) (.cons (.longCodes hn rfl) (.cons (.octets rfl)
      (.cons (.listingOrNone rfl) .nil)))))))
  | serverHello hello =>
    exact comesTo_writeLaidWith (.cons (.twoOctets rfl)
      (.cons (.display hello.randTime.toNat_lt rfl) (.cons (.listing rfl)
      (.cons (.listingOrNone rfl) (.cons (.longCode hn rfl) (.cons (.octet rfl)
      (.cons (.listingOrNone rfl) .nil)))))))
  | serverHelloV13 hello =>
    exact comesTo_writeLaidWith (.cons (.twoOctets rfl) (.cons (.listing rfl)
      (.cons (.longCode hn rfl) (.cons (.listingOrNone rfl) .nil))))
  | hashSignAlgorithm pair => exact comesTo_writeLaidWith_algorithm hn pair
  | digitallySigned signed =>
    have hpair : WritesField (writeAlgorithm (.ok naming)) (.ok naming)
        (.model (.message (.digitallySigned signed))) ⟨"alg", "alg", .algorithm⟩
        ("alg", Message.writeAlgorithm registries signed.algorithm) := by
      refine ⟨rfl, _, rfl, fun w => ?_⟩
      have halgorithm : (writeAlgorithm (.ok naming)
          (.model (.message (.hashSignAlgorithm signed.algorithm)))).ComesTo
            (.ok (Message.writeAlgorithm registries signed.algorithm)) :=
        comesTo_writeLaidWith_algorithm hn signed.algorithm
      rw [writeValueWith, Action.runIn_bind_of_ok (halgorithm w)]
      rfl
    exact comesTo_writeLaidWith (.cons hpair (.cons (.listing rfl) .nil))
  | _ => exact absurd rfl hc

/-- A message with codes is refused where codes have no names at all. -/
theorem comesTo_writeLaid_error (failure : Failure) {content : Message}
    (hc : content.codes ≠ []) :
    (writeLaid content.kind (.error failure) (.model (.message content))).ComesTo
      (.error failure) := by
  cases content with
  | alert notice => exact comesTo_writeLaidWith_error (List.nil_append _).symm .nil rfl fun _ => rfl
  | clientHello hello =>
    obtain ⟨version, randTime, randData, sessionId, ciphers, compressions, extensions⟩ := hello
    cases ciphers with
    | nil => exact absurd rfl hc
    | cons cipher others =>
      exact comesTo_writeLaidWith_error rfl (.cons (.twoOctets rfl)
        (.cons (.display randTime.toNat_lt rfl) (.cons (.listing rfl)
        (.cons (.listingOrNone rfl) .nil)))) rfl fun _ => rfl
  | serverHello hello =>
    exact comesTo_writeLaidWith_error rfl (.cons (.twoOctets rfl)
      (.cons (.display hello.randTime.toNat_lt rfl) (.cons (.listing rfl)
      (.cons (.listingOrNone rfl) .nil)))) rfl fun _ => rfl
  | serverHelloV13 hello =>
    exact comesTo_writeLaidWith_error rfl (.cons (.twoOctets rfl) (.cons (.listing rfl) .nil))
      rfl fun _ => rfl
  | hashSignAlgorithm pair => exact comesTo_writeLaidWith_algorithm_error failure pair
  | digitallySigned signed =>
    refine comesTo_writeLaidWith_error (List.nil_append _).symm .nil rfl fun w => ?_
    have halgorithm : (writeAlgorithm (.error failure)
        (.model (.message (.hashSignAlgorithm signed.algorithm)))).ComesTo (.error failure) :=
      comesTo_writeLaidWith_algorithm_error failure signed.algorithm
    have hvalue : (writeValueWith (writeAlgorithm (.error failure)) (.error failure) .algorithm
        (.model (.message (.hashSignAlgorithm signed.algorithm)))).runIn w =
        (.error failure, w) := by
      rw [writeValueWith, Action.runIn_bind_of_error (halgorithm w)]
    exact runIn_writeField_error rfl hvalue
  | _ => exact absurd rfl hc

end Datum

end TlsTranscript
