import Mathlib.Data.List.Forall2
import TlsTranscript.Proofs.Writing.Models

/-!
# Rows of renderings

Data are rendered one after the other. Each comes to a rendering or to a failure that
does not depend on the world, and leaves nothing but the records of its rendering. So
a row comes to an end exactly if every datum in it is rendered, and otherwise stops at
the first one that is refused, with the records of those before it. A datum is
rendered exactly if it is a message or an extension and no number in it has too many
digits.
-/

namespace TlsTranscript

variable {naming : Naming} {registries : Registries}

/-- An action comes to a rendering or a failure: in every world it answers the text and
leaves the records of the rendering, or else it fails and leaves the world as it is. -/
def Action.ComesTo (action : Action String) (result : Except Failure Rendered) : Prop :=
  ∀ w, action.runIn w =
    match result with
    | .ok rendered => (.ok rendered.text, { w with log := rendered.log.reverse ++ w.log })
    | .error failure => (.error failure, w)

section Row

variable {α : Type}

/-- What a row of items comes to: the texts of all of them or the first failure, and the
records till then. -/
def Rendered.row (renderedOf : α → Except Failure Rendered) :
    List α → Except Failure (List String) × List LogRecord
  | [] => (.ok [], [])
  | item :: rest =>
    match renderedOf item with
    | .error failure => (.error failure, [])
    | .ok rendered =>
      ((row renderedOf rest).1.map (rendered.text :: ·), rendered.log ++ (row renderedOf rest).2)

variable {renderedOf : α → Except Failure Rendered}

/-- Items that each come to a rendering or a failure come to a row of them. -/
theorem Action.runIn_mapM {action : α → Action String}
    (h : ∀ item, (action item).ComesTo (renderedOf item)) (items : List α) (w : World) :
    (items.mapM action).runIn w =
      ((Rendered.row renderedOf items).1,
        { w with log := (Rendered.row renderedOf items).2.reverse ++ w.log }) := by
  induction items generalizing w with
  | nil => rfl
  | cons item rest ih =>
    have hitem := h item w
    rw [List.mapM_cons, Rendered.row]
    cases hr : renderedOf item with
    | error failure =>
      rw [hr] at hitem
      rw [runIn_bind_of_error hitem]
      rfl
    | ok rendered =>
      rw [hr] at hitem
      rw [runIn_bind_of_ok hitem, runIn_bind, ih]
      cases (Rendered.row renderedOf rest).1 with
      | error failure => simp [Except.map]
      | ok texts => simp [Except.map]

namespace Rendered

/-- Items can be made of others before they are rendered. -/
theorem row_map {β : Type} (make : β → α) (items : List β) :
    row renderedOf (items.map make) = row (fun item => renderedOf (make item)) items := by
  induction items with
  | nil => rfl
  | cons item rest ih => rw [List.map_cons, row, row, ih]

/-- A row in which every item is rendered gives the text of each. -/
theorem row_of_forall {textOf : α → String} {items : List α}
    (h : ∀ item ∈ items, ∃ rendered, renderedOf item = .ok rendered ∧
      rendered.text = textOf item) :
    (row renderedOf items).1 = .ok (items.map textOf) := by
  induction items with
  | nil => rfl
  | cons item rest ih =>
    obtain ⟨⟨rendered, hr, htext⟩, hrest⟩ := List.forall_mem_cons.mp h
    rw [row, hr]
    simp only [ih hrest, Except.map, htext, List.map_cons]

/-- A row comes to an end exactly if every item of it is rendered. -/
theorem exists_row_iff {items : List α} :
    (∃ texts, (row renderedOf items).1 = .ok texts) ↔
      ∀ item ∈ items, ∃ rendered, renderedOf item = .ok rendered := by
  induction items with
  | nil => exact ⟨fun _ => nofun, fun _ => ⟨[], rfl⟩⟩
  | cons item rest ih =>
    rw [List.forall_mem_cons, ← ih, row]
    cases hr : renderedOf item with
    | error failure => simp
    | ok rendered =>
      cases (row renderedOf rest).1 with
      | error failure => simp [Except.map]
      | ok texts => simp [Except.map]

/-- What is said of the records of a row is said of those of the items in front of the
first that is refused. -/
theorem map_records_row {β : Type} {report : LogRecord → β} {isRendered : α → Bool}
    {reportsOf : α → List β} {items : List α}
    (hok : ∀ item ∈ items, isRendered item = true →
      ∃ rendered, renderedOf item = .ok rendered ∧ rendered.log.map report = reportsOf item)
    (herror : ∀ item ∈ items, isRendered item = false →
      ∃ failure, renderedOf item = .error failure) :
    (row renderedOf items).2.map report = (items.takeWhile isRendered).flatMap reportsOf := by
  induction items with
  | nil => rfl
  | cons item rest ih =>
    rw [List.forall_mem_cons] at hok herror
    cases hi : isRendered item with
    | false =>
      obtain ⟨failure, hf⟩ := herror.1 hi
      rw [row, hf, List.takeWhile_cons, hi]
      rfl
    | true =>
      obtain ⟨rendered, hr, hlog⟩ := hok.1 hi
      rw [row, hr, List.takeWhile_cons, hi, if_pos rfl, List.flatMap_cons, ← hlog,
        ← ih hok.2 herror.2]
      exact List.map_append

/-- A row that comes to an end has one text for each item, that of its rendering. -/
theorem forall₂_of_row {items : List α} {texts : List String}
    (h : (row renderedOf items).1 = .ok texts) :
    List.Forall₂ (fun item text => ∃ rendered, renderedOf item = .ok rendered ∧
      rendered.text = text) items texts := by
  induction items generalizing texts with
  | nil =>
    obtain rfl := Except.ok.inj h
    exact .nil
  | cons item rest ih =>
    rw [row] at h
    cases hr : renderedOf item with
    | error failure =>
      rw [hr] at h
      cases h
    | ok rendered =>
      rw [hr] at h
      cases hrest : (row renderedOf rest).1 with
      | error failure =>
        rw [hrest] at h
        cases h
      | ok more =>
        rw [hrest] at h
        obtain rfl := Except.ok.inj h
        exact .cons ⟨rendered, hr, rfl⟩ (ih hrest)

/-- The records of a row are those of its items. -/
theorem exists_of_mem_row {items : List α} {entry : LogRecord}
    (h : entry ∈ (row renderedOf items).2) :
    ∃ item ∈ items, ∃ rendered, renderedOf item = .ok rendered ∧ entry ∈ rendered.log := by
  induction items with
  | nil => cases h
  | cons item rest ih =>
    rw [row] at h
    cases hr : renderedOf item with
    | error failure =>
      rw [hr] at h
      cases h
    | ok rendered =>
      rw [hr] at h
      rcases List.mem_append.mp h with hfirst | hmore
      · exact ⟨item, .head _, rendered, hr, hfirst⟩
      · obtain ⟨other, hmem, found⟩ := ih hmore
        exact ⟨other, .tail _ hmem, found⟩

end Rendered

end Row

namespace Model

/-- Whether a model is a message or an extension. -/
def isProtocol : Model → Bool
  | .message _ | .extension _ => true
  | _ => false

/-- The line that a model is rendered to. -/
def line (registries : Registries) (model : Model) : String :=
  match model.rendered registries with
  | .ok rendered => rendered.text
  | .error _ => ""

/-- Messages and extensions are rendered unless a number in them has too many
digits. -/
theorem exists_rendered_iff (registries : Registries) (model : Model) :
    (∃ rendered, model.rendered registries = .ok rendered) ↔
      model.isProtocol = true ∧ model.isWritable = true := by
  have hrefused : ∀ {other : Model}, other.isProtocol = false →
      (∃ failure, other.rendered registries = .error failure) →
        ((∃ rendered, other.rendered registries = .ok rendered) ↔
          other.isProtocol = true ∧ other.isWritable = true) := by
    rintro other hp ⟨failure, hf⟩
    simp [hp, hf]
  cases model with
  | message content =>
    simp only [rendered, isProtocol, isWritable, true_and]
    cases content.isWritable with
    | true => simp
    | false => simp
  | extension content => simp [rendered, isProtocol, isWritable]
  | parsed => exact hrefused rfl ⟨_, rfl⟩
  | bareExtension => exact hrefused rfl ⟨_, rfl⟩
  | settings content => exact hrefused rfl ⟨_, rfl⟩

/-- Messages and extensions are all rendered unless a number in one of them has too many
digits. -/
theorem forall_rendered_iff (registries : Registries) {models : List Model}
    (hp : ∀ model ∈ models, model.isProtocol = true) :
    (∀ model ∈ models, ∃ rendered, model.rendered registries = .ok rendered) ↔
      ∀ model ∈ models, model.isWritable = true := by
  refine forall_congr' fun model => forall_congr' fun hm => ?_
  rw [exists_rendered_iff, hp model hm]
  exact ⟨fun h => h.2, fun h => ⟨rfl, h⟩⟩

/-- A message in which a number has too many digits is refused. -/
theorem rendered_of_isWritable_eq_false {content : Message} (h : content.isWritable = false)
    (registries : Registries) :
    (Model.message content).rendered registries = .error (.refused .tooManyDigits) := by
  simp only [rendered, h, Bool.false_eq_true, if_false]

/-- The line of a rendered model is its text. -/
theorem line_of_rendered {model : Model} {rendered : Rendered}
    (h : model.rendered registries = .ok rendered) : model.line registries = rendered.text := by
  rw [line, h]

end Model

/-- The least integer with too many digits. -/
theorem Text.isWritable_pow : isWritable (Nat.pow 10 maxDigits) = false := by
  have habs : Int.natAbs (Nat.pow 10 maxDigits : Nat) = Nat.pow 10 maxDigits :=
    Int.natAbs_natCast _
  rw [isWritable, habs]
  exact decide_eq_false (Nat.lt_irrefl _)

/-- A length with one digit too many cannot be shown. -/
theorem Message.isWritable_recordHeader_pow (recordType : UInt8) (version : UInt16) :
    (recordHeader ⟨recordType, version, Nat.pow 10 Text.maxDigits⟩).isWritable = false := by
  simp only [isWritable, Text.isWritable_pow]

namespace Datum

/-- What the rendering of a datum comes to with registries of texts. -/
def rendered (registries : Registries) : Datum → Except Failure Rendered
  | .model value => value.rendered registries
  | other => .error other.refuse

/-- Only models are rendered. -/
theorem exists_model_of_rendered {datum : Datum} {rendered : Rendered}
    (h : datum.rendered registries = .ok rendered) :
    ∃ model, datum = .model model ∧ model.rendered registries = .ok rendered := by
  cases datum with
  | model value => exact ⟨value, rfl, h⟩
  | _ => cases h

/-- The rendering of a datum with registries of texts. -/
theorem comesTo_render (hn : naming.registries? = some registries) (datum : Datum) :
    (datum.render (.ok naming)).ComesTo (datum.rendered registries) := by
  cases datum with
  | model value => exact runIn_render hn value
  | _ => exact fun _ => rfl

/-- An extension that shows no codes is rendered, whatever names are given. -/
theorem comesTo_renderExtension_of_codes (given : Except Failure Naming) {content : Extension}
    (h : content.codes = []) :
    (renderExtension given (.model (.extension content))).ComesTo (.ok (content.write {})) := by
  intro w
  simp only [renderExtension, emitNamed, h, List.isEmpty_nil, if_true, Action.runIn_emit]

/-- The renderings of data one after the other. -/
theorem runIn_renderRow (hn : naming.registries? = some registries) (items : List Datum)
    (w : World) :
    (renderLines (.ok naming) (.list items)).runIn w =
      ((Rendered.row (rendered registries) items).1,
        { w with log := (Rendered.row (rendered registries) items).2.reverse ++ w.log }) :=
  Action.runIn_mapM (comesTo_render hn) items w

/-- Models as data. -/
def ofModels (models : List Model) : Datum := .list (models.map .model)

/-- Models are rendered one after the other. -/
theorem renderLines_ofModels (naming : Except Failure Naming) (models : List Model) :
    renderLines naming (ofModels models) = (models.map .model).mapM (render naming) := rfl

/-- The renderings of models one after the other. -/
theorem runIn_renderModels (hn : naming.registries? = some registries) (models : List Model)
    (w : World) :
    (renderLines (.ok naming) (ofModels models)).runIn w =
      ((Rendered.row (Model.rendered registries) models).1,
        { w with
          log := (Rendered.row (Model.rendered registries) models).2.reverse ++ w.log }) := by
  have hrow := runIn_renderRow hn (models.map .model) w
  rwa [Rendered.row_map] at hrow

end Datum

end TlsTranscript
