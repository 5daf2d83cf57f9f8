import TlsTranscript.Proofs.Action
import TlsTranscript.Proofs.Writing.Messages
import TlsTranscript.Rendering

/-!
# Rendered models told apart

What the rendering of a model comes to when the names of codes are texts: a
message or an extension is written as it is, and only a record whose length has
too many digits is refused.
-/

namespace TlsTranscript

open Text

variable {naming : Naming} {registries : Registries}

/-- Registries of texts as tables of data under the names of their kinds. -/
def Registries.toNaming (registries : Registries) : Naming :=
  .given (RegistryKind.all.map fun kind =>
    (.text kind.name, .table (CodeTable.toData (registries.table kind))))

/-- A table of integers is read back from its data. -/
theorem CodeTable.ofData?_toData (codes : CodeTable) :
    ofData? (toData codes) = some codes := by
  induction codes with
  | nil => rfl
  | cons entry rest ih =>
    obtain ⟨code, name⟩ := entry
    have ht : toData ((code, name) :: rest) =
      (.integer code, .ofText? name) :: toData rest := rfl
    have hname : CodeTable.name? (.ofText? name) = some name := by cases name <;> rfl
    simp only [ht, ofData?, Datum.integral?, Datum.toInt?, hname, ih]

/-- All registries of texts are the registries of their own naming. -/
theorem Registries.registries?_toNaming (registries : Registries) :
    registries.toNaming.registries? = some registries := by
  have ht : ∀ kind, registries.toNaming.table kind =
      .table (CodeTable.toData (registries.table kind)) := by
    intro kind
    cases kind <;> rfl
  have hw : registries.toNaming.registries? =
      registries.toNaming.withTables? RegistryKind.all := rfl
  simp only [hw, RegistryKind.all, Naming.withTables?, ht, CodeTable.ofData?_toData,
    Option.map_some]
  rfl

/-- What the rendering of a model comes to with registries of texts. -/
def Model.rendered (registries : Registries) (model : Model) : Except Failure Rendered :=
  match model with
  | .message content =>
    if content.isWritable then .ok (content.write registries)
    else .error (.refused .tooManyDigits)
  | .extension content => .ok (content.write registries)
  | other => .error (Datum.model other).refuse

/-- A message without codes is written without a look at registries. -/
theorem Message.write_of_codes_eq_nil {m : Message} (h : m.codes = [])
    (registries others : Registries) : m.write registries = m.write others := by
  cases m with
  | clientHello hello =>
    obtain ⟨version, randTime, randData, sessionId, ciphers, compressions, extensions⟩ := hello
    obtain rfl : ciphers = [] := by simpa [codes] using h
    rfl
  | alert notice => simp [codes] at h
  | serverHello hello => simp [codes] at h
  | serverHelloV13 hello => simp [codes] at h
  | hashSignAlgorithm algorithm => simp [codes, algorithmCodes] at h
  | digitallySigned signed => simp [codes, algorithmCodes] at h
  | _ => rfl

/-- An extension without codes is written without a look at registries. -/
theorem Extension.write_of_codes_eq_nil {e : Extension} (h : e.codes = [])
    (registries others : Registries) : e.write registries = e.write others := by
  cases e with
  | ellipticCurves groups =>
    obtain rfl : groups = [] := by simpa [codes] using h
    rfl
  | signatureAlgorithms algorithms =>
    cases algorithms with
    | nil => rfl
    | cons pair rest => simp [codes] at h
  | _ => rfl

namespace Datum

/-- A text with codes in it is written with registries of texts. -/
theorem runIn_emitNamed (hn : naming.registries? = some registries)
    {codes : List (RegistryKind × Int)} {write : Registries → Rendered}
    (hw : codes = [] → write {} = write registries) (otherwise : Action String) (w : World) :
    (emitNamed (.ok naming) codes write otherwise).runIn w =
      (Action.emit (write registries)).runIn w := by
  unfold emitNamed
  cases codes with
  | nil =>
    rw [if_pos List.isEmpty_nil, hw rfl]
  | cons code rest =>
    rw [if_neg (by simp), Action.runIn_bind_of_ok (Action.runIn_ofResult (.ok naming) w)]
    simp only [hn]

/-- A record whose length has too many digits is refused when its length is
displayed, and nothing has been noted till then. -/
theorem runIn_writeLaid_recordHeader {header : RecordHeader}
    (h : (Message.recordHeader header).isWritable = false) (naming : Except Failure Naming)
    (w : World) :
    (writeLaid .recordHeader naming (.model (.message (.recordHeader header)))).runIn w =
      (.error (.refused .tooManyDigits), w) := by
  have hd : (Datum.integer header.length).displayOperand = .error (.refused .tooManyDigits) := by
    have hl : Text.isWritable header.length = false := h
    simp only [displayOperand, isWritable, hl, Bool.false_eq_true, if_false]
  have htype : (Datum.model (.message (.recordHeader header))).propertyOperand "record_type" =
      .ok (.ofOctet header.recordType) := rfl
  have hversion : (Datum.model (.message (.recordHeader header))).propertyOperand "version" =
      .ok (.ofPair header.version) := rfl
  have hlength : (Datum.model (.message (.recordHeader header))).propertyOperand "len" =
      .ok (.integer header.length) := rfl
  have hoctet : (Datum.ofOctet header.recordType).hexOperand =
      .ok (UInt8.code header.recordType) := rfl
  have hpair : (Datum.ofPair header.version).hexOperand =
      .ok (UInt16.code header.version) := rfl
  simp only [writeLaid, writeLaidWith, MessageKind.layout, List.mapM_cons, List.mapM_nil,
    htype, hversion, hlength, writeValueWith, writeValueWith.octet, writtenText, hoctet, hpair, hd,
    Except.map, Action.runIn_bind, Action.runIn_ofResult, Action.runIn_pure]

/-- The rendering of a model with registries of texts. -/
theorem runIn_render (hn : naming.registries? = some registries) (model : Model) (w : World) :
    ((Datum.model model).render (.ok naming)).runIn w =
      match model.rendered registries with
      | .ok rendered => (.ok rendered.text, { w with log := rendered.log.reverse ++ w.log })
      | .error failure => (.error failure, w) := by
  cases model with
  | message content =>
    cases hw : content.isWritable with
    | true =>
      simp only [render, renderMessage, Model.rendered, hw, if_true]
      rw [runIn_emitNamed hn (fun h => content.write_of_codes_eq_nil h {} registries),
        Action.runIn_emit]
    | false =>
      simp only [render, renderMessage, Model.rendered, hw, Bool.false_eq_true, if_false]
      cases content with
      | recordHeader header => exact runIn_writeLaid_recordHeader hw (.ok naming) w
      | _ => cases hw
  | extension content =>
    simp only [render, renderExtension, Model.rendered]
    rw [runIn_emitNamed hn (fun h => content.write_of_codes_eq_nil h {} registries),
      Action.runIn_emit]
  | parsed => rfl
  | bareExtension => rfl
  | settings content => rfl

end Datum

/-- The name under which the models of a kind are written. -/
def ModelKind.front : ModelKind → String
  | .extension kind => kind.front
  | kind => kind.name

/-- Whether the models of a kind show text or names of codes without the numbers
behind them. -/
def ModelKind.hidesNumbers : ModelKind → Bool
  | .extension .sni | .extension .alpn | .extension .signatureAlgorithms | .message .alert
  | .message .hashSignAlgorithm | .message .digitallySigned => true
  | _ => false

/-- Whether the models of a kind show text as it was sent. -/
def ModelKind.showsRawText : ModelKind → Bool
  | .extension .sni | .extension .alpn => true
  | _ => false

/-- Kinds are different if only one of them is of a sort. -/
theorem ModelKind.ne_of_sort {sort : ModelKind → Bool} {value : Bool} {kind other : ModelKind}
    (h : sort kind = value) (hother : sort other = !value) : kind ≠ other := by
  rintro rfl
  rw [h] at hother
  cases value <;> cases hother

/-- No two kinds of models are written under one name. -/
theorem ModelKind.eq_of_front {first second : ModelKind} (h : first.front = second.front) :
    first = second := by
  have hfind : ∀ kind : ModelKind,
      ModelKind.all.find? (fun other => other.front == kind.front) = some kind := by
    intro kind
    cases kind with
    | message kind => cases kind <;> rfl
    | extension kind => cases kind <;> rfl
    | _ => rfl
  exact Option.some.inj ((hfind first).symm.trans (h ▸ hfind second))

/-- The names of kinds are letters and digits. -/
theorem ModelKind.isAlphanum_front (kind : ModelKind) :
    ∀ c ∈ kind.front.toList, c.isAlphanum := by
  have hall : kind.front.toList.all Char.isAlphanum = true := by
    cases kind with
    | message kind => cases kind <;> decide
    | extension kind => cases kind <;> decide
    | _ => decide
  exact List.all_eq_true.mp hall

namespace Model

/-- Only messages and extensions are rendered, and they are rendered as they are written. -/
theorem written_of_rendered {model : Model} {rendered : Rendered}
    (h : model.rendered registries = .ok rendered) :
    (∃ content, model = .message content ∧ rendered = content.write registries) ∨
      ∃ content, model = .extension content ∧ rendered = content.write registries := by
  cases model with
  | message content =>
    simp only [Model.rendered] at h
    split at h
    · exact .inl ⟨content, rfl, (Except.ok.inj h).symm⟩
    · cases h
  | extension content => exact .inr ⟨content, rfl, (Except.ok.inj h).symm⟩
  | parsed => cases h
  | bareExtension => cases h
  | settings content => cases h

/-- A rendered model begins with the name of its kind, and what stands behind the
name is no letter and no digit. -/
theorem toList_rendered {model : Model} {rendered : Rendered}
    (h : model.rendered registries = .ok rendered) :
    ∃ rest, rendered.text.toList = model.kind.front.toList ++ rest ∧
      Begins (fun c => ¬c.isAlphanum) rest := by
  rcases written_of_rendered h with ⟨content, rfl, rfl⟩ | ⟨content, rfl, rfl⟩
  · obtain ⟨rest, hw⟩ := content.toList_write registries
    exact ⟨_, hw, by simp⟩
  · obtain ⟨rest, hw, hb⟩ := content.toList_write registries
    exact ⟨rest, hw, fun c hc => by rw [hb c hc]; decide⟩

/-- Models that are rendered alike are of one kind. -/
theorem kind_eq_of_rendered {first second : Model} {x y : Rendered}
    (hx : first.rendered registries = .ok x) (hy : second.rendered registries = .ok y)
    (he : x.text = y.text) : first.kind = second.kind := by
  obtain ⟨s, hs, hbs⟩ := toList_rendered hx
  obtain ⟨t, ht, hbt⟩ := toList_rendered hy
  rw [he, ht] at hs
  have hfront := apart_of_class first.kind.isAlphanum_front second.kind.isAlphanum_front
    s t hbs hbt hs.symm
  exact ModelKind.eq_of_front (String.toList_inj.mp hfront)

/-- Models that are rendered alike are the same, where names alone are shown as far
as these tell their codes. Names of servers and protocols tell nothing. -/
theorem eq_of_rendered {first second : Model} {x y : Rendered}
    (hx : first.rendered registries = .ok x) (hy : second.rendered registries = .ok y)
    (he : x.text = y.text) (hsni : first.kind ≠ .extension .sni)
    (halpn : first.kind ≠ .extension .alpn)
    (halert : first.kind = .message .alert → registries.NamesTell .alertSeverity)
    (hpairs : first.kind = .extension .signatureAlgorithms ∨
      first.kind = .message .hashSignAlgorithm ∨ first.kind = .message .digitallySigned →
        registries.PairsTell) : first = second := by
  have hk := kind_eq_of_rendered hx hy he
  rcases written_of_rendered hx with ⟨content, rfl, rfl⟩ | ⟨content, rfl, rfl⟩
  · rcases written_of_rendered hy with ⟨other, rfl, rfl⟩ | ⟨other, rfl, rfl⟩
    · rw [Message.eq_of_write (ModelKind.message.inj hk)
        (fun h => halert (congrArg ModelKind.message h))
        (fun h => hpairs (.inr (h.imp (congrArg ModelKind.message)
          (congrArg ModelKind.message)))) (congrArg String.toList he)]
    · cases hk
  · rcases written_of_rendered hy with ⟨other, rfl, rfl⟩ | ⟨other, rfl, rfl⟩
    · cases hk
    · have ht : (content.write registries).text.toList ++ [] =
          (other.write registries).text.toList ++ [] := by rw [he]
      rw [Extension.eq_of_write_append (ModelKind.extension.inj hk)
        (fun h => hsni (congrArg ModelKind.extension h))
        (fun h => halpn (congrArg ModelKind.extension h))
        (fun h => hpairs (.inl (congrArg ModelKind.extension h))) ht]

/-- Whatever the names of codes are, the text of a rendering tells the kind of the
model and, unless the kind hides numbers behind names or shows text as it is, all its
fields. -/
theorem eq_of_render (hn : naming.registries? = some registries) {first second : Model}
    {w v : World} {text : String}
    (hf : (((Datum.model first).render (.ok naming)).runIn w).1 = .ok text)
    (hs : (((Datum.model second).render (.ok naming)).runIn v).1 = .ok text) :
    first.kind = second.kind ∧ (first.kind.hidesNumbers = false → first = second) := by
  rw [Datum.runIn_render hn] at hf hs
  cases hx : first.rendered registries with
  | error failure => simp only [hx, reduceCtorEq] at hf
  | ok x =>
    cases hy : second.rendered registries with
    | error failure => simp only [hy, reduceCtorEq] at hs
    | ok y =>
      simp only [hx, hy, Except.ok.injEq] at hf hs
      have he : x.text = y.text := by rw [hf, hs]
      refine ⟨kind_eq_of_rendered hx hy he, fun hh => ?_⟩
      have hne : ∀ kind : ModelKind, kind.hidesNumbers = true → first.kind ≠ kind := by
        intro kind hk h
        rw [h, hk] at hh
        cases hh
      refine eq_of_rendered hx hy he (hne _ rfl) (hne _ rfl)
        (fun h => absurd h (hne _ rfl)) ?_
      rintro (h | h | h)
      · exact absurd h (hne _ rfl)
      · exact absurd h (hne _ rfl)
      · exact absurd h (hne _ rfl)

/-- A list of groups still tells them where a name looks like the end of one group and
the beginning of another: one group with such a name is not taken for two groups. -/
theorem eq_of_render_ellipticCurves :
    let names : Registries := { namedGroups := [(0x1D, some "a), 0x0017(b"), (0x17, some "b")] }
    let one : Model := .extension (.ellipticCurves [0x1D])
    let two : Model := .extension (.ellipticCurves [0x1D, 0x17])
    let text := "EllipticCurves([0x001d(a), 0x0017(b)])"
    (((Datum.model one).render (.ok names.toNaming)).runIn {}).1 = .ok text ∧
      (((Datum.model two).render (.ok names.toNaming)).runIn {}).1 ≠ .ok text := by
  intro names one two text
  have hone : (((Datum.model one).render (.ok names.toNaming)).runIn {}).1 = .ok text := by
    rw [Datum.runIn_render names.registries?_toNaming]
    rfl
  refine ⟨hone, fun htwo => ?_⟩
  have hsame : one = two := (eq_of_render names.registries?_toNaming hone htwo).2 rfl
  exact absurd hsame (by decide)

end Model

end TlsTranscript
