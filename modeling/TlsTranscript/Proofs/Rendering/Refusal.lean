import TlsTranscript.Proofs.Rendering.Rows

/-!
# What is refused

Nothing but messages and extensions is rendered, and any other datum is refused under
the name of its type, before anything is noted. Among messages and extensions only a
record is refused, and only if its length has too many digits to be shown. Where an
extension is asked for, every extension is rendered as it is anywhere, and a message is
refused like any other datum.
-/

namespace TlsTranscript

namespace Datum

variable {naming : Naming} {registries : Registries}

/-- Whether a datum is a message or an extension. -/
def isProtocol : Datum → Bool
  | .model value => value.isProtocol
  | _ => false

/-- Whether a datum is an extension. -/
def isExtension : Datum → Bool
  | .model (.extension _) => true
  | _ => false

/-- A datum that is neither a message nor an extension is refused. -/
theorem rendered_of_isProtocol_eq_false {datum : Datum} (h : datum.isProtocol = false)
    (registries : Registries) : datum.rendered registries = .error datum.refuse := by
  cases datum with
  | model value =>
    cases value with
    | message content => cases h
    | extension content => cases h
    | _ => rfl
  | _ => rfl

/-- A message or an extension with a number that cannot be shown is refused for it. -/
theorem rendered_of_isWritable_eq_false {datum : Datum} (hp : datum.isProtocol = true)
    (hw : datum.isWritable = false) (registries : Registries) :
    datum.rendered registries = .error (.refused .tooManyDigits) := by
  cases datum with
  | model value =>
    cases value with
    | message content => exact Model.rendered_of_isWritable_eq_false hw registries
    | extension content => cases hw
    | _ => cases hp
  | _ => cases hp

/-- A datum is rendered exactly if it is a message or an extension and all numbers in it
can be shown. -/
theorem exists_rendered_iff (registries : Registries) (datum : Datum) :
    (∃ rendered, datum.rendered registries = .ok rendered) ↔
      datum.isProtocol = true ∧ datum.isWritable = true := by
  cases datum with
  | model value => exact value.exists_rendered_iff registries
  | _ => simp [rendered, isProtocol]

/-- Every extension can be shown. -/
theorem isWritable_of_isExtension {datum : Datum} (h : datum.isExtension = true) :
    datum.isProtocol = true ∧ datum.isWritable = true := by
  cases datum with
  | model value =>
    cases value with
    | extension content => exact ⟨rfl, rfl⟩
    | _ => cases h
  | _ => cases h

/-- An extension is rendered in one way, whether or not an extension is asked for. -/
theorem renderExtension_of_isExtension {datum : Datum} (h : datum.isExtension = true)
    (naming : Except Failure Naming) : datum.renderExtension naming = datum.render naming := by
  cases datum with
  | model value =>
    cases value with
    | extension content => rfl
    | _ => cases h
  | _ => cases h

/-- Where an extension is asked for, any other datum is refused. -/
theorem comesTo_renderExtension_error {datum : Datum} (h : datum.isExtension = false)
    (naming : Except Failure Naming) :
    (datum.renderExtension naming).ComesTo (.error datum.refuse) := by
  intro w
  cases datum with
  | model value =>
    cases value with
    | extension content => cases h
    | _ => rfl
  | _ => rfl

/-- What comes of any datum when it is rendered. A message or an extension gives a text
unless a number in it has too many digits, and then it is refused for that; any other
datum is refused under the name of its type, and what is refused leaves the world as it
is. Where an extension is asked for, every extension gives the text that it gives
anywhere, and any other datum is refused. So a row is rendered exactly if each element
is a message or an extension with numbers that can be shown. -/
theorem render_refuses_foreign (hn : naming.registries? = some registries) :
    (∀ datum : Datum,
      (datum.isProtocol = true → datum.isWritable = true →
        ∃ rendered, (datum.render (.ok naming)).ComesTo (.ok rendered)) ∧
      (datum.isProtocol = true → datum.isWritable = false →
        (datum.render (.ok naming)).ComesTo (.error (.refused .tooManyDigits))) ∧
      (datum.isProtocol = false →
        (datum.render (.ok naming)).ComesTo (.error (.misfit (.notRenderable datum.typeName)))) ∧
      (datum.isExtension = true → ∃ rendered,
        (datum.renderExtension (.ok naming)).ComesTo (.ok rendered) ∧
          (datum.render (.ok naming)).ComesTo (.ok rendered)) ∧
      (datum.isExtension = false → (datum.renderExtension (.ok naming)).ComesTo
        (.error (.misfit (.notRenderable datum.typeName)))) ∧
      (Failure.misfit (.notRenderable datum.typeName)).message =
        "no renderer for " ++ datum.typeName) ∧
    ∀ (items : List Datum) (w : World),
      (∃ texts, ((renderLines (.ok naming) (.list items)).runIn w).1 = .ok texts) ↔
        ∀ item ∈ items, item.isProtocol = true ∧ item.isWritable = true := by
  constructor
  · intro datum
    have hcomes := comesTo_render hn datum
    refine ⟨fun hp hw => ?_, fun hp hw => ?_, fun hp => ?_, fun he => ?_, fun he => ?_, rfl⟩
    · obtain ⟨rendered, hr⟩ := (exists_rendered_iff registries datum).mpr ⟨hp, hw⟩
      exact ⟨rendered, hr ▸ hcomes⟩
    · exact rendered_of_isWritable_eq_false hp hw registries ▸ hcomes
    · exact rendered_of_isProtocol_eq_false hp registries ▸ hcomes
    · have hwritable := isWritable_of_isExtension he
      obtain ⟨rendered, hr⟩ := (exists_rendered_iff registries datum).mpr hwritable
      rw [renderExtension_of_isExtension he]
      exact ⟨rendered, hr ▸ hcomes, hr ▸ hcomes⟩
    · exact comesTo_renderExtension_error he (.ok naming)
  · intro items w
    rw [runIn_renderRow hn, Rendered.exists_row_iff]
    exact forall_congr' fun item => forall_congr' fun _ => exists_rendered_iff registries item

/-- A bare extension is no extension that could be rendered, and a message is refused
where an extension is asked for. -/
theorem render_refuses_foreign_bareExtension :
    let bare : Datum := .model .bareExtension
    let alert : Datum := .model (.message (.alert ⟨2, 10⟩))
    let cookie : Datum := .model (.extension (.cookie [0xFF]))
    let names : Registries := {}
    (bare.render (.ok names.toNaming)).ComesTo
        (.error (.misfit (.notRenderable "ExtensionModel"))) ∧
      (alert.renderExtension (.ok names.toNaming)).ComesTo
        (.error (.misfit (.notRenderable "Alert"))) ∧
      (∃ rendered, (alert.render (.ok names.toNaming)).ComesTo (.ok rendered)) ∧
      (∃ rendered, (cookie.renderExtension (.ok names.toNaming)).ComesTo (.ok rendered) ∧
        (cookie.render (.ok names.toNaming)).ComesTo (.ok rendered)) ∧
      ¬∃ texts, ((renderLines (.ok names.toNaming) (.list [alert, .list []])).runIn {}).1 =
        .ok texts := by
  intro bare alert cookie names
  have hrender := render_refuses_foreign names.registries?_toNaming
  refine ⟨(hrender.1 bare).2.2.1 rfl, (hrender.1 alert).2.2.2.2.1 rfl,
    (hrender.1 alert).1 rfl rfl, (hrender.1 cookie).2.2.2.1 rfl, fun h => ?_⟩
  have hlist := (hrender.2 [alert, .list []] {}).mp h (.list []) (by simp)
  cases hlist.1

/-- A record whose length has too many digits is a message that is refused. -/
theorem render_refuses_long_length :
    let header : Datum :=
      .model (.message (.recordHeader ⟨0x16, 0x0301, Nat.pow 10 Text.maxDigits⟩))
    header.isProtocol = true ∧
      (header.render (.ok .assigned)).runIn {} = (.error (.refused .tooManyDigits), {}) ∧
      ¬∃ text, ((header.render (.ok .assigned)).runIn {}).1 = .ok text := by
  intro header
  have hw : header.isWritable = false := by
    simp only [header, isWritable, Model.isWritable, Message.isWritable_recordHeader_pow]
  have hrun : (header.render (.ok .assigned)).runIn {} =
      (.error (.refused .tooManyDigits), {}) := by
    have hn : Naming.assigned.registries? = some .assigned := rfl
    rw [comesTo_render hn header, rendered_of_isWritable_eq_false rfl hw]
  refine ⟨rfl, hrun, fun h => ?_⟩
  obtain ⟨text, ht⟩ := h
  rw [hrun] at ht
  cases ht

end Datum

end TlsTranscript
