import Mathlib.Tactic.Choose
import TlsTranscript.Rendering
import TlsTranscript.Proofs.Action

/-!
# Rendering is quiet

Whatever is rendered, and whether or not it is refused, the world stays as it is but
for records that are added to the log. So a rendering touches no file and no variable of
the environment. Nor does it depend on any: of the world it looks at nothing but whether
the records are wanted.
-/

namespace TlsTranscript

namespace Action

variable {α β : Type}

/-- An action is quiet if it adds records to the log and changes nothing else, and if the
records and the result depend on nothing in the world but whether records are wanted. -/
def Quiet (action : Action α) : Prop :=
  ∃ told : Bool → Except Failure α × List LogRecord, ∀ w, action.runIn w =
    ((told w.listening).1, { w with log := (told w.listening).2 ++ w.log })

/-- A known result is quiet. -/
theorem quiet_ofResult (result : Except Failure α) : (ofResult result).Quiet :=
  ⟨fun _ => (result, []), fun _ => rfl⟩

/-- A value that is given is quiet. -/
theorem quiet_pure (value : α) : (pure value : Action α).Quiet := quiet_ofResult (.ok value)

/-- A failure is quiet. -/
theorem quiet_throw (failure : Failure) : (throw failure : Action α).Quiet :=
  quiet_ofResult (.error failure)

/-- Records are added. -/
theorem quiet_note (records : List LogRecord) : (note records).Quiet :=
  ⟨fun _ => (.ok (), records.reverse), fun _ => rfl⟩

/-- A rendering adds its records. -/
theorem quiet_emit (rendered : Rendered) : (emit rendered).Quiet :=
  ⟨fun _ => (.ok rendered.text, rendered.log.reverse), fun w => runIn_emit rendered w⟩

/-- A step and what follows it are quiet if both are. -/
theorem quiet_bind {action : Action α} {next : α → Action β} (h : action.Quiet)
    (hnext : ∀ value, (next value).Quiet) : (action >>= next).Quiet := by
  obtain ⟨told, htold⟩ := h
  choose more hmore using hnext
  refine ⟨fun listening => match told listening with
    | (.ok value, records) =>
      ((more value listening).1, (more value listening).2 ++ records)
    | (.error failure, records) => (.error failure, records), fun w => ?_⟩
  rcases hresult : told w.listening with ⟨failure | value, records⟩
  · have hrun := htold w
    rw [hresult] at hrun
    rw [runIn_bind_of_error hrun]
    simp only [hresult]
  · have hrun := htold w
    rw [hresult] at hrun
    rw [runIn_bind_of_ok hrun, hmore value]
    simp only [hresult, List.append_assoc]

/-- A look at whether records are wanted is quiet if what follows is. -/
theorem quiet_listening {told : Bool → Action α} (h : ∀ listening, (told listening).Quiet) :
    (do told (← get).listening : Action α).Quiet := by
  choose result hresult using h
  refine ⟨fun listening => result listening listening, fun w => ?_⟩
  rw [runIn_bind_of_ok (runIn_get w), hresult]

/-- An action for each item of a list is quiet if each one is. -/
theorem quiet_mapM {action : α → Action β} (h : ∀ item, (action item).Quiet) (items : List α) :
    (items.mapM action).Quiet := by
  induction items with
  | nil =>
    rw [List.mapM_nil]
    exact quiet_pure _
  | cons item rest ih =>
    rw [List.mapM_cons]
    exact quiet_bind (h item) fun _ => quiet_bind ih fun _ => quiet_pure _

end Action

open TlsTranscript.Action

variable {naming : Except Failure Naming}

namespace Datum

/-- A missing name adds at most a record. -/
theorem quiet_noteMiss (kind : RegistryKind) (code : Datum) :
    (noteMiss kind code).Quiet := by
  unfold noteMiss
  cases code.toInt? with
  | some value => exact quiet_note _
  | none =>
    have hmiss : ∀ listening : Bool, (if listening then
        throw (.misfit (.notWritable code.typeName)) else pure () : Action Unit).Quiet := by
      intro listening
      cases listening
      · exact quiet_pure _
      · exact quiet_throw _
    exact quiet_listening hmiss

/-- Writing a code is quiet. -/
theorem quiet_writeCode (kind : RegistryKind) (code : Datum) :
    (code.writeCode kind naming).Quiet := by
  refine quiet_bind (quiet_ofResult _) fun naming => ?_
  refine quiet_bind (quiet_ofResult _) fun name => ?_
  cases name with
  | absent => exact quiet_bind (quiet_noteMiss kind code) fun _ => quiet_ofResult _
  | _ => exact quiet_ofResult _

/-- Displaying a code is quiet. -/
theorem quiet_displayCode (kind : RegistryKind) (code : Datum) :
    (code.displayCode kind naming).Quiet :=
  quiet_bind (quiet_writeCode kind code) fun _ => quiet_ofResult _

/-- Writing items is quiet if writing each of them does. -/
theorem quiet_writeItems {write : Datum → Action String}
    (h : ∀ item, (write item).Quiet) (data : Datum) :
    (writeItems write data).Quiet :=
  quiet_bind (quiet_ofResult _) fun items =>
    quiet_bind (quiet_mapM h items) fun _ => quiet_pure _

/-- A text that is known adds nothing. -/
theorem quiet_writtenText (result : Except Failure String) :
    (writtenText result).Quiet :=
  quiet_bind (quiet_ofResult _) fun _ => quiet_pure _

/-- Writing a value in any form is quiet. -/
theorem quiet_writeValueWith {algorithm : Datum → Action String}
    (h : ∀ datum, (algorithm datum).Quiet) (form : FieldForm) (value : Datum) :
    (writeValueWith algorithm naming form value).Quiet := by
  cases form with
  | octets => exact quiet_writeItems (fun _ => quiet_ofResult _) value
  | code kind => exact quiet_writeCode kind value
  | codes kind => exact quiet_writeItems (quiet_displayCode kind) value
  | algorithm => exact quiet_bind (h value) fun _ => quiet_pure _
  | _ => exact quiet_writtenText _

/-- Writing in a layout is quiet. -/
theorem quiet_writeLaidWith {algorithm : Datum → Action String}
    (h : ∀ datum, (algorithm datum).Quiet) (kind : MessageKind) (datum : Datum) :
    (datum.writeLaidWith algorithm naming kind).Quiet := by
  refine quiet_bind (quiet_mapM (fun field => ?_) _) fun fields => ?_
  · exact quiet_bind (quiet_ofResult _) fun value =>
      quiet_bind (quiet_writeValueWith h field.form value) fun _ => quiet_pure _
  · refine quiet_bind (quiet_mapM (fun field => ?_) _) fun _ => quiet_pure _
    exact quiet_bind (quiet_ofResult _) fun _ => quiet_pure _

/-- Writing in the layout of a kind of message is quiet. -/
theorem quiet_writeLaid (kind : MessageKind) (datum : Datum) :
    (datum.writeLaid kind naming).Quiet :=
  quiet_writeLaidWith (quiet_writeLaidWith (fun _ => quiet_pure _) .hashSignAlgorithm) kind datum

end Datum

/-- Writing an extension code by code is quiet. -/
theorem Extension.quiet_writeCodes (content : Extension) :
    (content.writeCodes naming).Quiet := by
  cases content with
  | ellipticCurves groups =>
    exact quiet_bind (quiet_mapM (fun _ => Datum.quiet_displayCode _ _) groups) fun _ =>
      quiet_pure _
  | signatureAlgorithms algorithms =>
    refine quiet_bind (quiet_mapM (fun pair => ?_) algorithms) fun _ => quiet_pure _
    exact quiet_bind (Datum.quiet_displayCode _ _) fun _ =>
      quiet_bind (Datum.quiet_displayCode _ _) fun _ => quiet_pure _
  | _ => exact quiet_emit _

namespace Datum

/-- A text with codes in it is quiet, however it is written. -/
theorem quiet_emitNamed {otherwise : Action String} (h : otherwise.Quiet)
    (codes : List (RegistryKind × Int)) (write : Registries → Rendered) :
    (emitNamed naming codes write otherwise).Quiet := by
  unfold emitNamed
  split
  · exact quiet_emit _
  · refine quiet_bind (quiet_ofResult _) fun known => ?_
    split
    · exact quiet_emit _
    · exact h

/-- Rendering a message is quiet. -/
theorem quiet_renderMessage (content : Message) :
    (renderMessage naming content).Quiet := by
  have hlaid : (writeLaid content.kind naming (.model (.message content))).Quiet :=
    quiet_writeLaid _ _
  unfold renderMessage
  dsimp only
  split
  · exact quiet_emitNamed hlaid _ _
  · exact hlaid

/-- Rendering what must be an extension is quiet. -/
theorem quiet_renderExtension (datum : Datum) :
    (datum.renderExtension naming).Quiet := by
  unfold renderExtension
  split
  · exact quiet_emitNamed (Extension.quiet_writeCodes _) _ _
  · exact quiet_throw _

/-- Rendering is quiet. -/
theorem quiet_render (datum : Datum) : (datum.render naming).Quiet := by
  unfold render
  split
  · exact quiet_renderMessage _
  · exact quiet_renderExtension _

/-- Rendering in the layout of a kind of message is quiet. -/
theorem quiet_renderAs (kind : MessageKind) (datum : Datum) :
    (datum.renderAs kind naming).Quiet := by
  unfold renderAs
  split
  · split
    · exact quiet_renderMessage _
    · exact quiet_writeLaid kind _
  · exact quiet_writeLaid kind _

/-- Rendering a row of extensions is quiet. -/
theorem quiet_renderExtensions (data : Datum) :
    (data.renderExtensions naming).Quiet :=
  quiet_bind (quiet_ofResult _) fun items =>
    quiet_bind (quiet_mapM quiet_renderExtension items) fun _ => quiet_pure _

/-- Rendering a row of data is quiet. -/
theorem quiet_renderLines (data : Datum) : (data.renderLines naming).Quiet :=
  quiet_bind (quiet_ofResult _) fun items => quiet_mapM quiet_render items

/-- Reading octets as a text is quiet. -/
theorem quiet_decodedText (datum : Datum) : datum.decodedText.Quiet := by
  refine quiet_bind (quiet_ofResult _) fun data => ?_
  split
  · exact quiet_pure _
  · have hfault : ∀ listening : Bool, (do
        if !datum.isWritable && listening then throw (.refused .tooManyDigits)
        Action.note [.undecodableText datum.literal]
        return Rendered.undecodable : Action String).Quiet := by
      intro listening
      split
      · exact quiet_bind (quiet_throw _) fun _ =>
          quiet_bind (quiet_note _) fun _ => quiet_pure _
      · exact quiet_bind (quiet_note _) fun _ => quiet_pure _
    exact quiet_listening hfault

end Datum

end TlsTranscript
