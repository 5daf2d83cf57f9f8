import TlsTranscript.Proofs.Rendering.Rows
import TlsTranscript.Proofs.Transcript.Append

/-!
# Renderings that are kept

Models are rendered line by line, and the lines are added to a transcript. This
comes to an end exactly if every model is a message or an extension and no record
has a length with too many digits; then the transcript holds the lines, and else
it is not touched.
-/

namespace TlsTranscript

variable {naming : Naming} {registries : Registries}

/-- Models that can all be rendered give one line each, and only the log changes. -/
theorem Datum.runIn_renderLines (hn : naming.registries? = some registries)
    {models : List Model}
    (h : ∀ model ∈ models, ∃ rendered, model.rendered registries = .ok rendered) (w : World) :
    ∃ log, (renderLines (.ok naming) (ofModels models)).runIn w =
      (.ok (models.map (Model.line registries)), { w with log := log }) := by
  have hrow : (Rendered.row (Model.rendered registries) models).1 =
      .ok (models.map (Model.line registries)) := by
    refine Rendered.row_of_forall fun model hm => ?_
    obtain ⟨rendered, hr⟩ := h model hm
    exact ⟨rendered, hr, (Model.line_of_rendered hr).symm⟩
  exact ⟨_, by rw [runIn_renderModels hn, hrow]⟩

/-- Models of which one cannot be rendered give a failure, and only the log
changes. -/
theorem Datum.runIn_renderLines_error (hn : naming.registries? = some registries)
    {models : List Model}
    (h : ¬∀ model ∈ models, ∃ rendered, model.rendered registries = .ok rendered) (w : World) :
    ∃ failure log, (renderLines (.ok naming) (ofModels models)).runIn w =
      (.error failure, { w with log := log }) := by
  rw [← Rendered.exists_row_iff] at h
  cases hr : (Rendered.row (Model.rendered registries) models).1 with
  | ok texts => exact absurd ⟨texts, hr⟩ h
  | error failure => exact ⟨failure, _, by rw [runIn_renderModels hn, hr]⟩

namespace Transcript

/-- Models rendered line by line, and the lines added to a transcript. -/
def keep (naming : Naming) (models : List Model) (name directory : Datum) :
    Action GivenPath := do
  let lines ← (Datum.ofModels models).renderLines (.ok naming)
  append (.list (lines.map .text)) name directory

/-- A file that is not there yet and can be opened. -/
structure Fresh (files : FileTree) (name directory : Datum) : Prop where
  /-- The file can be opened. -/
  opens : (Call.mk [] name directory).Opens files
  /-- The file is not there. -/
  vacant : ∀ names, (Call.mk [] name directory).place? = some names →
    files.lookup? names = none

/-- A file in a directory is fresh where nothing is there yet. -/
theorem fresh_of_empty : Fresh {} (.text "a") (.text "d") where
  opens := ⟨rfl, rfl, .text "d", .text "d/a", _, rfl, rfl, rfl, rfl⟩
  vacant names h := by
    obtain rfl := Option.some.inj h
    rfl

/-- Lines are added to a fresh file as they come. -/
theorem runIn_append_fresh (lines : List String) {w : World} {name directory : Datum}
    (hf : Fresh w.files name directory) :
    ∃ path files log, w.files.lookup? path.place = none ∧
      w.files.Appended files path (octetsOfLines lines) ∧
        (append (.list (lines.map .text)) name directory).runIn w =
          (.ok path, { w with files := files, log := log }) := by
  let call : Call := ⟨lines.map .ofString, name, directory⟩
  have hopens : call.Opens w.files := ⟨hf.opens.1, hf.opens.2, hf.opens.3⟩
  obtain ⟨path, files, hpath, happended, hrun⟩ := Call.runIn_action w hopens
  have hwritten : call.written = octetsOfLines lines := by
    rw [Call.written, leadingTexts_map_ofString]
  have hresult : call.result path = .ok path :=
    (call.result_eq_ok_iff path).mpr (arePlain_map_ofString _)
  rw [hwritten] at happended
  rw [hresult] at hrun
  rw [append_map_text]
  refine ⟨path, files, call.records ++ w.log, hf.vacant path.place ?_, happended, hrun⟩
  have hp : (Call.mk [] name directory).path? = some path := hpath
  rw [Call.place?, hp, Option.map_some]

/-- Models that can all be rendered are kept in a fresh file line by line. -/
theorem runIn_keep (hn : naming.registries? = some registries) {models : List Model}
    (h : ∀ model ∈ models, ∃ rendered, model.rendered registries = .ok rendered) {w : World}
    {name directory : Datum} (hf : Fresh w.files name directory) :
    ∃ path files log, w.files.lookup? path.place = none ∧
      w.files.Appended files path (octetsOfLines (models.map (Model.line registries))) ∧
        (keep naming models name directory).runIn w =
          (.ok path, { w with files := files, log := log }) := by
  obtain ⟨log, hlines⟩ := Datum.runIn_renderLines hn h w
  obtain ⟨path, files, later, hvacant, happended, hrun⟩ :=
    runIn_append_fresh (models.map (Model.line registries)) (w := { w with log := log }) hf
  refine ⟨path, files, later, hvacant, happended, ?_⟩
  unfold keep
  rw [Action.runIn_bind_of_ok hlines]
  exact hrun

/-- Models of which one cannot be rendered are not kept, and no file changes. -/
theorem runIn_keep_error (hn : naming.registries? = some registries) {models : List Model}
    (h : ¬∀ model ∈ models, ∃ rendered, model.rendered registries = .ok rendered) (w : World)
    (name directory : Datum) :
    ∃ failure log, (keep naming models name directory).runIn w =
      (.error failure, { w with log := log }) := by
  obtain ⟨failure, log, hlines⟩ := Datum.runIn_renderLines_error hn h w
  refine ⟨failure, log, ?_⟩
  unfold keep
  rw [Action.runIn_bind_of_error hlines]

end Transcript

end TlsTranscript
