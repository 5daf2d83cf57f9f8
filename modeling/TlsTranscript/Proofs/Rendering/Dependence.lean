import TlsTranscript.Proofs.Rendering.Laid
import TlsTranscript.Proofs.Writing.Pieces

/-!
# What a rendering depends on

A rendering looks into registries only for what stands under the codes that occur in the
structure. Registries that agree on these codes give the same text and the same records,
whatever else they hold and whether or not their names are texts, and where one of them
refuses a code, both refuse in the same way.
-/

namespace TlsTranscript

/-- Steps that are the same for every item are the same for all items. -/
theorem Action.mapM_congr {α β : Type} {first second : α → Action β} {items : List α}
    (h : ∀ item ∈ items, first item = second item) : items.mapM first = items.mapM second := by
  induction items with
  | nil => rfl
  | cons item rest ih =>
    obtain ⟨hitem, hrest⟩ := List.forall_mem_cons.mp h
    rw [List.mapM_cons, List.mapM_cons, hitem, ih hrest]

/-- Two sources of names agree on codes: the same stands under each of them. -/
def Naming.AgreeOn (first second : Except Failure Naming)
    (codes : List (RegistryKind × Int)) : Prop :=
  ∀ entry ∈ codes, lookUp first entry.1 (.integer entry.2) =
    lookUp second entry.1 (.integer entry.2)

variable {first second : Except Failure Naming}

/-- Whether values of a form are written with names of codes. -/
def FieldForm.namesCodes : FieldForm → Bool
  | .code _ | .codes _ | .algorithm => true
  | _ => false

namespace Datum

/-- A code is written alike where the same stands under it. -/
theorem writeCode_congr {kind : RegistryKind} {code : Datum}
    (h : Naming.lookUp first kind code = Naming.lookUp second kind code) :
    code.writeCode kind first = code.writeCode kind second := by
  rw [writeCode_eq, writeCode_eq, h]

/-- A code is displayed alike where the same stands under it. -/
theorem displayCode_congr {kind : RegistryKind} {code : Datum}
    (h : Naming.lookUp first kind code = Naming.lookUp second kind code) :
    code.displayCode kind first = code.displayCode kind second := by
  rw [displayCode, displayCode, writeCode_congr h]

section Record

variable {algorithm other : Datum → Action String} {datum : Datum}

/-- A field without codes is written alike everywhere. -/
theorem writeField_of_plain {field : LaidField} (h : field.form.namesCodes = false) :
    writeField algorithm first datum field = writeField other second datum field := by
  obtain ⟨label, property, form⟩ := field
  cases form with
  | code kind => cases h
  | codes kind => cases h
  | algorithm => cases h
  | _ => rfl

/-- A field is written alike where its value is. -/
theorem writeField_of_value {field : LaidField} {value : Datum}
    (hp : datum.propertyOperand field.property = .ok value)
    (hv : writeValueWith algorithm first field.form value =
      writeValueWith other second field.form value) :
    writeField algorithm first datum field = writeField other second datum field := by
  have hvalue : Action.ofResult (datum.propertyOperand field.property) =
      (pure value : Action Datum) := by rw [hp]; rfl
  rw [writeField, writeField, hvalue, pure_bind, pure_bind, hv]

/-- A datum is written alike where its fields with codes are. -/
theorem writeLaidWith_congr {kind : MessageKind}
    (h : ∀ field ∈ kind.layout, field.form.namesCodes = true →
      writeField algorithm first datum field = writeField other second datum field) :
    datum.writeLaidWith algorithm first kind = datum.writeLaidWith other second kind := by
  have hfields : ∀ field ∈ kind.layout,
      writeField algorithm first datum field = writeField other second datum field := by
    intro field hf
    cases hc : field.form.namesCodes with
    | true => exact h field hf hc
    | false => exact writeField_of_plain hc
  rw [writeLaidWith_eq, writeLaidWith_eq, Action.mapM_congr hfields]

/-- A datum with a single field of codes is written alike where this field is. -/
theorem writeLaidWith_congr_of_field (kind : MessageKind) (named : LaidField)
    (honly : ∀ field ∈ kind.layout, field.form.namesCodes = true → field = named)
    (h : writeField algorithm first datum named = writeField other second datum named) :
    datum.writeLaidWith algorithm first kind = datum.writeLaidWith other second kind := by
  refine writeLaidWith_congr fun field hf hc => ?_
  rw [honly field hf hc, h]

/-- A pair of algorithms is written alike where its codes are named alike. -/
theorem writeLaidWith_algorithm_congr {pair : HashSignAlgorithm}
    (h : Naming.AgreeOn first second (Message.algorithmCodes pair)) :
    (Datum.model (.message (.hashSignAlgorithm pair))).writeLaidWith algorithm first
        .hashSignAlgorithm =
      (Datum.model (.message (.hashSignAlgorithm pair))).writeLaidWith other second
        .hashSignAlgorithm := by
  obtain ⟨hhash, hrest⟩ := List.forall_mem_cons.mp h
  have hsign := List.forall_mem_singleton.mp hrest
  refine writeLaidWith_congr (List.forall_mem_cons.mpr ⟨fun _ => ?_,
    List.forall_mem_singleton.mpr fun _ => ?_⟩)
  · exact writeField_of_value rfl (writeCode_congr hhash)
  · exact writeField_of_value rfl (writeCode_congr hsign)

end Record

/-- A message is written code by code alike where its codes are named alike. -/
theorem writeLaid_congr {content : Message}
    (h : Naming.AgreeOn first second content.codes) :
    writeLaid content.kind first (.model (.message content)) =
      writeLaid content.kind second (.model (.message content)) := by
  have hplain : (∀ field ∈ content.kind.layout, field.form.namesCodes = false) →
      writeLaid content.kind first (.model (.message content)) =
        writeLaid content.kind second (.model (.message content)) := by
    intro hall
    refine writeLaidWith_congr fun field hf hc => ?_
    rw [hall field hf] at hc
    cases hc
  cases content with
  | alert notice =>
    have hseverity := List.forall_mem_singleton.mp h
    exact writeLaidWith_congr_of_field .alert ⟨"severity", "severity", .code .alertSeverity⟩
      (by decide) (writeField_of_value rfl (writeCode_congr hseverity))
  | clientHello hello =>
    have hciphers : writeItems (displayCode .cipherSuite first)
          (.list (hello.ciphers.map .ofPair)) =
        writeItems (displayCode .cipherSuite second) (.list (hello.ciphers.map .ofPair)) := by
      have hitems : (hello.ciphers.map Datum.ofPair).mapM (displayCode .cipherSuite first) =
          (hello.ciphers.map Datum.ofPair).mapM (displayCode .cipherSuite second) := by
        refine Action.mapM_congr (List.forall_mem_map.mpr fun cipher hc => ?_)
        exact displayCode_congr (h _ (List.mem_map_of_mem hc))
      exact congrArg (fun written : Action (List String) =>
        (do return .text (bracketed "[" "]" (← written)) : Action Datum)) hitems
    exact writeLaidWith_congr_of_field .clientHello ⟨"ciphers", "ciphers", .codes .cipherSuite⟩
      (by decide) (writeField_of_value rfl hciphers)
  | serverHello hello =>
    have hcipher := List.forall_mem_singleton.mp h
    exact writeLaidWith_congr_of_field .serverHello ⟨"cipher", "cipher", .code .cipherSuite⟩
      (by decide) (writeField_of_value rfl (writeCode_congr hcipher))
  | serverHelloV13 hello =>
    have hcipher := List.forall_mem_singleton.mp h
    exact writeLaidWith_congr_of_field .serverHelloV13 ⟨"cipher", "cipher", .code .cipherSuite⟩
      (by decide) (writeField_of_value rfl (writeCode_congr hcipher))
  | hashSignAlgorithm pair => exact writeLaidWith_algorithm_congr h
  | digitallySigned signed =>
    have hpair : writeAlgorithm first (.model (.message (.hashSignAlgorithm signed.algorithm))) =
        writeAlgorithm second (.model (.message (.hashSignAlgorithm signed.algorithm))) :=
      writeLaidWith_algorithm_congr h
    refine writeLaidWith_congr_of_field .digitallySigned ⟨"alg", "alg", .algorithm⟩
      (by decide) (writeField_of_value rfl ?_)
    rw [writeValueWith, writeValueWith, hpair]
  | _ => exact hplain (by simp [Message.kind, MessageKind.layout, FieldForm.namesCodes])

/-- A text with codes in it comes to what it comes to code by code, in every way to name
them. -/
theorem runIn_emitNamed_eq {given : Except Failure Naming}
    {codes : List (RegistryKind × Int)} (hc : codes ≠ []) {write : Registries → Rendered}
    {otherwise : Action String}
    (hok : ∀ naming registries, given = .ok naming → naming.registries? = some registries →
      otherwise.ComesTo (.ok (write registries)))
    (herror : ∀ failure, given = .error failure → otherwise.ComesTo (.error failure))
    (w : World) :
    (emitNamed given codes write otherwise).runIn w = otherwise.runIn w := by
  have hcodes : codes.isEmpty = false := List.isEmpty_eq_false_iff.mpr hc
  rw [emitNamed, if_neg (by rw [hcodes]; exact Bool.false_ne_true)]
  cases hg : given with
  | error failure =>
    rw [Action.runIn_bind_of_error (Action.runIn_ofResult (.error failure) w),
      herror failure hg w]
  | ok naming =>
    rw [Action.runIn_bind_of_ok (Action.runIn_ofResult (.ok naming) w)]
    cases hr : naming.registries? with
    | none => rfl
    | some registries => rw [hok naming registries hg hr w]; rfl

/-- A message that can be shown is rendered as it is written code by code. -/
theorem runIn_renderMessage_eq {content : Message} (hw : content.isWritable = true)
    (hc : content.codes ≠ []) (given : Except Failure Naming) (w : World) :
    (renderMessage given content).runIn w =
      (writeLaid content.kind given (.model (.message content))).runIn w := by
  rw [renderMessage, if_pos hw]
  refine runIn_emitNamed_eq hc (fun naming registries hg hn => ?_) (fun failure hg => ?_) w
  · rw [hg]
    exact comesTo_writeLaid hn hc
  · rw [hg]
    exact comesTo_writeLaid_error failure hc

end Datum

namespace Extension

/-- An extension with codes is refused where codes have no names at all. -/
theorem comesTo_writeCodes_error (failure : Failure) {e : Extension} (hc : e.codes ≠ []) :
    (e.writeCodes (.error failure)).ComesTo (.error failure) := by
  cases e with
  | ellipticCurves groups =>
    cases groups with
    | nil => exact absurd rfl hc
    | cons group rest => exact fun _ => rfl
  | signatureAlgorithms algorithms =>
    cases algorithms with
    | nil => exact absurd rfl hc
    | cons pair rest => exact fun _ => rfl
  | _ => exact absurd rfl hc

/-- An extension is written code by code alike where its codes are named alike. -/
theorem writeCodes_congr {e : Extension} (h : Naming.AgreeOn first second e.codes) :
    e.writeCodes first = e.writeCodes second := by
  cases e with
  | ellipticCurves groups =>
    have hgroups :
        (groups.mapM fun group => (Datum.ofPair group).displayCode .namedGroup first) =
          groups.mapM fun group => (Datum.ofPair group).displayCode .namedGroup second :=
      Action.mapM_congr fun group hg => Datum.displayCode_congr (h _ (List.mem_map_of_mem hg))
    rw [writeCodes, writeCodes, hgroups]
  | signatureAlgorithms algorithms =>
    rw [writeCodes, writeCodes]
    refine congrArg (fun written : Action (List String) => (do
      return "SignatureAlgorithms(" ++ bracketed "[" "]" (← written) ++ ")" : Action String))
      (Action.mapM_congr fun pair hp => ?_)
    have hcodes : Naming.AgreeOn first second
        [(.hashAlgorithm, UInt8.code pair.1), (.signatureAlgorithm, UInt8.code pair.2)] :=
      fun entry he => h entry (List.mem_flatMap_of_mem hp he)
    obtain ⟨hhash, hrest⟩ := List.forall_mem_cons.mp hcodes
    have hsign := List.forall_mem_singleton.mp hrest
    have hfirst : (Datum.ofOctet pair.1).displayCode .hashAlgorithm first =
        (Datum.ofOctet pair.1).displayCode .hashAlgorithm second :=
      Datum.displayCode_congr hhash
    have hsecond : (Datum.ofOctet pair.2).displayCode .signatureAlgorithm first =
        (Datum.ofOctet pair.2).displayCode .signatureAlgorithm second :=
      Datum.displayCode_congr hsign
    rw [hfirst, hsecond]
  | _ => rfl

end Extension

/-- An extension with codes is rendered as it is written code by code. -/
theorem Datum.runIn_renderExtension_eq {content : Extension} (hc : content.codes ≠ [])
    (given : Except Failure Naming) (w : World) :
    ((Datum.model (.extension content)).renderExtension given).runIn w =
      (content.writeCodes given).runIn w := by
  refine runIn_emitNamed_eq hc (fun naming registries hg hn => ?_) (fun failure hg => ?_) w
  · rw [hg]
    exact Extension.comesTo_writeCodes hn hc
  · rw [hg]
    exact Extension.comesTo_writeCodes_error failure hc

/-- A model is rendered alike where its codes are named alike. -/
theorem Datum.runIn_render_congr {model : Model}
    (h : Naming.AgreeOn first second model.codes) (w : World) :
    ((Datum.model model).render first).runIn w = ((Datum.model model).render second).runIn w := by
  cases model with
  | message content =>
    cases hw : content.isWritable with
    | false =>
      simp only [render, renderMessage, hw, Bool.false_eq_true, if_false]
      rw [writeLaid_congr h]
    | true =>
      by_cases hc : content.codes = []
      · simp only [render, renderMessage, hw, if_true, emitNamed, hc, List.isEmpty_nil]
      · have hfirst := runIn_renderMessage_eq hw hc first w
        have hsecond := runIn_renderMessage_eq hw hc second w
        rw [render, render, hfirst, hsecond, writeLaid_congr h]
  | extension content =>
    by_cases hc : content.codes = []
    · simp only [render, renderExtension, emitNamed, hc, List.isEmpty_nil, if_true]
    · have hfirst := runIn_renderExtension_eq hc first w
      have hsecond := runIn_renderExtension_eq hc second w
      rw [← Extension.writeCodes_congr h, ← hfirst] at hsecond
      exact hsecond.symm
  | parsed => rfl
  | bareExtension => rfl
  | settings content => rfl

/-- A rendering depends on registries only through the codes that occur in the model: two
arguments that answer the same for each of these codes give the same text or failure and
the same records. Nothing as an argument answers with the assigned names, and registries
without a table for a kind, or with an empty one, answer that no code of the kind has a
name. -/
theorem render_depends_on_codes :
    (∀ (model : Model) (first second : Datum),
      (∀ entry ∈ model.codes,
        Operation.nameIn first (.text entry.1.name) (.integer entry.2) =
          Operation.nameIn second (.text entry.1.name) (.integer entry.2)) →
      ∀ w, (Operation.message.run [.model model, first]).runIn w =
        (Operation.message.run [.model model, second]).runIn w) ∧
    (∀ (kind : RegistryKind) (code : Int),
      Operation.nameIn .absent (.text kind.name) (.integer code) =
        .ok (.ofText? (Registries.assigned.nameOf? kind code))) ∧
    ∀ (serial : Nat) (tables : Table Datum) (kind : RegistryKind) (code : Int),
      (Table.get? (.text kind.name) tables).getD (.table []) = .table [] →
      Operation.nameIn (.registries serial [(Datum.tablesName, .table tables)])
        (.text kind.name) (.integer code) = .ok .absent := by
  refine ⟨fun model first second h w => ?_, fun kind code => ?_,
    fun serial tables kind code h => ?_⟩
  · have hagree : Naming.AgreeOn (Operation.naming first) (Operation.naming second)
        model.codes := by
      intro entry he
      rw [← Operation.nameIn_eq, ← Operation.nameIn_eq]
      exact h entry he
    have hrender := Datum.runIn_render_congr hagree w
    change (Operation.answerText _).runIn w = (Operation.answerText _).runIn w
    rw [Operation.answerText, Operation.answerText, Action.runIn_bind, Action.runIn_bind, hrender]
  · rw [Operation.nameIn_eq]
    have hn : Naming.assigned.registries? = some .assigned := rfl
    exact Naming.nameOf_integer hn kind code
  · have hnaming : Operation.naming (.registries serial [(Datum.tablesName, .table tables)]) =
        .ok (.given tables) := rfl
    have htable : (Naming.given tables).table kind = .table [] := h
    rw [Operation.nameIn_eq, hnaming, Naming.lookUp]
    change (Naming.given tables).nameOf kind (.integer code) = _
    rw [Naming.nameOf, htable]
    rfl

/-- The assigned names and registries that hold a single group, and under another code no
text, give the same rendering of this group. -/
theorem render_depends_on_codes_group :
    let model : Model := .extension (.ellipticCurves [0x1D])
    let others : Datum := .registries 0 [(Datum.tablesName, .ofWords [("named_group",
      .table [(.integer 0x1D, .text "x25519"), (.integer 0x17, .list [])])])]
    (∀ w, (Operation.message.run [.model model, .absent]).runIn w =
        (Operation.message.run [.model model, others]).runIn w) ∧
      Operation.nameIn .absent (.text "named_group") (.integer 0x17) =
        .ok (.text "secp256r1") ∧
      Operation.nameIn (.registries 0 [(Datum.tablesName, .table [])]) (.text "named_group")
        (.integer 0x1D) = .ok .absent := by
  intro model others
  obtain ⟨hrender, hassigned, hempty⟩ := render_depends_on_codes
  exact ⟨hrender model .absent others (List.forall_mem_singleton.mpr rfl),
    hassigned .namedGroup 0x17, hempty 0 [] .namedGroup 0x1D rfl⟩

end TlsTranscript
