import TlsTranscript.Proofs.Rendering.Refusal
import TlsTranscript.Proofs.Writing.Assigned
import TlsTranscript.Session.Operation

/-!
# Printable renderings

A model that shows no text as it was sent is rendered as a line of printable ASCII, whatever
octets and codes are in it, if the names of codes are printable ASCII. Messages end with a
brace and extensions with a parenthesis or the last letter of a bare name, so no line ends
with a space, whatever stands in front.
-/

namespace TlsTranscript

open Text

/-- A line of printable ASCII: it is not empty, it holds no line end and no other control
character, and no space is left at its end. -/
structure Text.IsPrintableLine (text : String) : Prop where
  /-- There is something to be seen. -/
  nonempty : text ≠ ""
  /-- Every character is from the space to the tilde. -/
  printable : ∀ c ∈ text.toList, IsPrintableAscii c
  /-- The last character is no space. -/
  ended : text.toList.getLast? ≠ some ' '

/-- Whether a text ends with a character other than a space. -/
def Text.endsVisibly (text : String) : Bool := text.toList.getLast?.any (· != ' ')

/-- A text ends as the one at its end does. -/
theorem Text.endsVisibly_append (front : String) {behind : String}
    (h : endsVisibly behind = true) : endsVisibly (front ++ behind) = true := by
  rw [endsVisibly, String.toList_append, List.getLast?_append]
  exact Option.any_or_of_any_left h

/-- Printable ASCII with a visible end is a line of it. -/
theorem Text.isPrintableLine_of_endsVisibly {text : String} (h : endsVisibly text = true)
    (hp : ∀ c ∈ text.toList, IsPrintableAscii c) : IsPrintableLine text := by
  obtain ⟨c, hc, hne⟩ := (Option.any_eq_true _ _).mp h
  refine ⟨?_, hp, fun hspace => ?_⟩
  · rintro rfl
    cases hc
  · rw [hspace] at hc
    obtain rfl := Option.some.inj hc
    cases hne

variable {naming : Naming} {registries : Registries}

/-- A message ends with the brace of its record. -/
theorem Message.endsVisibly_write (registries : Registries) (m : Message) :
    endsVisibly (m.write registries).text = true := by
  have hbrace : endsVisibly " \x7d" = true := by decide
  cases m <;> exact endsVisibly_append _ hbrace

/-- An extension ends with its parenthesis, and one without content with its name. -/
theorem Extension.endsVisibly_write (registries : Registries) (e : Extension) :
    endsVisibly (e.write registries).text = true := by
  have hparenthesis : endsVisibly ")" = true := by decide
  have hbare : ∀ name ∈ ["EarlyData", "EncryptThenMac", "ExtendedMasterSecret",
    "NextProtocolNegotiation"], endsVisibly name = true := by decide
  cases e with
  | earlyData => exact hbare "EarlyData" (by simp)
  | encryptThenMac => exact hbare "EncryptThenMac" (by simp)
  | extendedMasterSecret => exact hbare "ExtendedMasterSecret" (by simp)
  | nextProtocolNegotiation => exact hbare "NextProtocolNegotiation" (by simp)
  | _ => exact endsVisibly_append _ hparenthesis

namespace Model

/-- A rendering ends with a character that can be seen. -/
theorem endsVisibly_rendered {model : Model} {rendered : Rendered}
    (h : model.rendered registries = .ok rendered) : endsVisibly rendered.text = true := by
  rcases written_of_rendered h with ⟨content, rfl, rfl⟩ | ⟨content, rfl, rfl⟩
  · exact content.endsVisibly_write registries
  · exact content.endsVisibly_write registries

/-- Where names are printable ASCII, a model without raw text is rendered as a line of it. -/
theorem isPrintableLine_rendered (hp : registries.AllPrintable) {model : Model}
    (hr : model.kind.showsRawText = false) {rendered : Rendered}
    (h : model.rendered registries = .ok rendered) : IsPrintableLine rendered.text := by
  refine isPrintableLine_of_endsVisibly (endsVisibly_rendered h) fun c hm => ?_
  by_contra hc
  rw [mem_rendered_iff hc (hp.allAvoid hc) h, rawTexts_eq_nil hr] at hm
  obtain ⟨data, hd, -⟩ := hm
  cases hd

end Model

namespace Operation

/-- The answer of the renderer of messages and extensions. -/
theorem runIn_message {given : Datum} (hgiven : Operation.naming given = .ok naming)
    (hn : naming.registries? = some registries) (model : Model) (w : World) :
    (message.run [.model model, given]).runIn w =
      match model.rendered registries with
      | .ok rendered => (.ok (.text rendered.text), { w with log := rendered.log.reverse ++ w.log })
      | .error failure => (.error failure, w) := by
  have hrun : message.run [.model model, given] =
      answerText ((Datum.model model).render (.ok naming)) := by
    rw [← hgiven]
    rfl
  rw [hrun, answerText, Action.runIn_bind, Datum.runIn_render hn]
  cases model.rendered registries <;> rfl

/-- Octets and codes never get onto a terminal as they were sent, but for the names in
extensions of servers and protocols. If the names of codes are printable ASCII, every other
model is rendered as a line of printable ASCII, the same in every world. Only a record whose
length has too many digits is refused, and then nothing is written at all. -/
theorem run_message_printable {given : Datum} (hgiven : Operation.naming given = .ok naming)
    (hn : naming.registries? = some registries) (hp : registries.AllPrintable) {model : Model}
    (hm : model.isProtocol = true) (hr : model.kind.showsRawText = false) :
    (model.isWritable = true → ∃ text, IsPrintableLine text ∧ ∀ w,
      ((message.run [.model model, given]).runIn w).1 = .ok (.text text)) ∧
    (model.isWritable = false → ∀ w,
      (message.run [.model model, given]).runIn w = (.error (.refused .tooManyDigits), w)) := by
  have hanswer := runIn_message hgiven hn model
  refine ⟨fun hw => ?_, fun hw w => ?_⟩
  · obtain ⟨rendered, h⟩ := (model.exists_rendered_iff registries).mpr ⟨hm, hw⟩
    refine ⟨rendered.text, Model.isPrintableLine_rendered hp hr h, fun w => ?_⟩
    rw [hanswer, h]
  · have hd : (Datum.model model).isProtocol = true := hm
    have h : model.rendered registries = .error (.refused .tooManyDigits) :=
      Datum.rendered_of_isWritable_eq_false hd hw registries
    rw [hanswer, h]

/-- Names may be empty or a space, and octets may be line ends, the beginning of a sequence for
a terminal, or outside of ASCII. -/
theorem run_message_printable_spaces :
    let severities : Datum := .table [(.integer 2, .text " "), (.integer 0x1B, .text "")]
    let given : Datum := .registries 0 [("_tables", .table [(.text "alert_severity", severities)])]
    let names : Registries := { alertSeverities := [(2, some " "), (0x1B, some "")] }
    let answer := fun (model : Model) (w : World) => ((message.run [.model model, given]).runIn w).1
    let header : Model := .message (.recordHeader ⟨0x0A, 0x0D0A, Nat.pow 10 Text.maxDigits⟩)
    names.AllPrintable ∧
      (∃ text, IsPrintableLine text ∧ ∀ w,
        answer (.message (.alert ⟨2, 0x0A⟩)) w = .ok (.text text)) ∧
      (∃ text, IsPrintableLine text ∧ ∀ w,
        answer (.message (.alert ⟨0x1B, 0x0A⟩)) w = .ok (.text text)) ∧
      (∃ text, IsPrintableLine text ∧ ∀ w,
        answer (.extension (.unknown 0x0A0D [0x1B, 0x5B, 0x0A, 0xC3, 0xBF])) w =
          .ok (.text text)) ∧
      ∀ w, answer header w = .error (.refused .tooManyDigits) := by
  intro severities given names answer header
  have hgiven : Operation.naming given = .ok (.given [(.text "alert_severity", severities)]) := rfl
  have hn : (Naming.given [(.text "alert_severity", severities)]).registries? = some names := rfl
  have hp : names.AllPrintable := Registries.allPrintable_of_table (by decide)
  have hlong : header.isWritable = false := Message.isWritable_recordHeader_pow 0x0A 0x0D0A
  refine ⟨hp, (run_message_printable hgiven hn hp rfl rfl).1 rfl,
    (run_message_printable hgiven hn hp rfl rfl).1 rfl,
    (run_message_printable hgiven hn hp rfl rfl).1 rfl, fun w => ?_⟩
  exact congrArg Prod.fst ((run_message_printable hgiven hn hp rfl rfl).2 hlong w)

/-- With the assigned names, which are printable ASCII, a record whose length has too many
digits is rendered as no text. -/
theorem run_message_long_length :
    let header : Model := .message (.recordHeader ⟨0x16, 0x0301, Nat.pow 10 Text.maxDigits⟩)
    Operation.naming .absent = .ok .assigned ∧ Registries.assigned.AllPrintable ∧
      header.isProtocol = true ∧ header.kind.showsRawText = false ∧
      ¬∃ text, IsPrintableLine text ∧
        ((message.run [.model header, .absent]).runIn {}).1 = .ok (.text text) := by
  intro header
  refine ⟨rfl, Registries.assigned_allPrintable, rfl, rfl, ?_⟩
  rintro ⟨text, -, h⟩
  have hgiven : Operation.naming .absent = .ok .assigned := rfl
  have hn : Naming.assigned.registries? = some .assigned := rfl
  have hlong : header.rendered .assigned = .error (.refused .tooManyDigits) :=
    Model.rendered_of_isWritable_eq_false (Message.isWritable_recordHeader_pow 0x16 0x0301)
      .assigned
  rw [runIn_message hgiven hn, hlong] at h
  cases h

/-- The name of a server is shown with the control characters in it. -/
example : '\x1b' ∈ ((Extension.sni [(0, [0x1B])]).write {}).text.toList := by decide

end Operation

end TlsTranscript
