import TlsTranscript.Proofs.Rendering.Refusal
import TlsTranscript.Proofs.Session.Variables

/-!
# Stages of a run

A run reads its arguments, loads the settings, takes its structures, renders the messages
and then the extensions, and only then writes. Each stage before the writing leaves the
files as they are, so nothing is written if one of them fails or no transcript is named.
-/

namespace TlsTranscript

open Framing

/-- The frame of actions that leave the files as they are. -/
def World.keepingFiles : Framing World where
  Passes before after := after.files = before.files
  refl _ := rfl
  trans h h' := h'.trans h

/-- What is quiet leaves the files as they are. -/
theorem World.keepsFiles_of_quiet {α : Type} {action : Action α} (h : action.Quiet) :
    World.keepingFiles.Covers action := by
  intro w
  obtain ⟨told, htold⟩ := h
  exact congrArg (fun run => run.2.files) (htold w)

/-- A load of settings leaves the files as they are. -/
theorem Settings.keepsFiles_loadFrom (path : Except Failure (Option GivenPath)) :
    World.keepingFiles.Covers (loadFrom path) :=
  covers_loadFrom (fun _ _ _ => rfl) path

namespace Action

variable {α : Type}

/-- What fails in one world comes to the failure in all. -/
theorem ComesTo.eq_error {action : Action String} {result : Except Failure Rendered}
    (h : action.ComesTo result) {w : World} {failure : Failure}
    (hfails : (action.runIn w).1 = .error failure) : result = .error failure := by
  rw [h w] at hfails
  cases result with
  | ok rendered => cases hfails
  | error other => rw [Except.error.inj hfails]

/-- If an item of a row fails in some world, the row fails in every world. -/
theorem exists_runIn_mapM_error {action : α → Action String}
    {renderedOf : α → Except Failure Rendered}
    (h : ∀ item, (action item).ComesTo (renderedOf item)) {items : List α} {item : α}
    (hmem : item ∈ items) {v : World} {cause : Failure}
    (hfails : ((action item).runIn v).1 = .error cause) (w : World) :
    ∃ failure after, (items.mapM action).runIn w = (.error failure, after) := by
  have hitem : renderedOf item = .error cause := (h item).eq_error hfails
  have hrow : ¬∃ texts, (Rendered.row renderedOf items).1 = .ok texts := by
    rw [Rendered.exists_row_iff]
    intro hall
    obtain ⟨rendered, hr⟩ := hall item hmem
    rw [hitem] at hr
    cases hr
  rw [runIn_mapM h]
  cases hr : (Rendered.row renderedOf items).1 with
  | ok texts => exact absurd ⟨texts, hr⟩ hrow
  | error failure => exact ⟨failure, _, rfl⟩

end Action

namespace Datum

variable {naming : Naming} {registries : Registries}

/-- What the rendering of a datum comes to where an extension is asked for. -/
def renderedExtension (registries : Registries) (datum : Datum) : Except Failure Rendered :=
  if datum.isExtension then datum.rendered registries else .error datum.refuse

/-- The rendering of a datum where an extension is asked for. -/
theorem comesTo_renderExtension (hn : naming.registries? = some registries) (datum : Datum) :
    (datum.renderExtension (.ok naming)).ComesTo (datum.renderedExtension registries) := by
  cases he : datum.isExtension with
  | true =>
    rw [renderedExtension, if_pos he, renderExtension_of_isExtension he]
    exact comesTo_render hn datum
  | false =>
    rw [renderedExtension, if_neg (Bool.eq_false_iff.mp he)]
    exact comesTo_renderExtension_error he (.ok naming)

end Datum

namespace CommandLine

variable {source : Source} {messages extensions : Datum} {items parts : List Datum}

/-- The assigned names are all texts. -/
theorem registries?_assigned : Naming.assigned.registries? = some .assigned := rfl

/-- A message that is not rendered stops the rendering of a run. -/
theorem exists_render_error_of_message (hs : source.structures = .ok (messages, extensions))
    (hi : messages.items = .ok items) {item : Datum} (hmem : item ∈ items) {v : World}
    {cause : Failure} (hfails : ((item.render (.ok .assigned)).runIn v).1 = .error cause)
    (w : World) : ∃ failure after, (render source).runIn w = (.error failure, after) := by
  obtain ⟨failure, after, hrow⟩ := Action.exists_runIn_mapM_error
    (Datum.comesTo_render registries?_assigned) hmem hfails w
  have hlines : (messages.renderLines (.ok .assigned)).runIn w = (.error failure, after) := by
    rw [Datum.renderLines, hi]
    exact hrow
  refine ⟨failure, after, ?_⟩
  rw [render, hs, Action.runIn_bind_of_ok (Action.runIn_ofResult _ w)]
  exact Action.runIn_bind_of_error hlines

/-- An extension that is not rendered stops the rendering of a run. -/
theorem exists_render_error_of_extension (hs : source.structures = .ok (messages, extensions))
    (hp : extensions.items = .ok parts) {part : Datum} (hmem : part ∈ parts) {v : World}
    {cause : Failure}
    (hfails : ((part.renderExtension (.ok .assigned)).runIn v).1 = .error cause)
    (w : World) : ∃ failure after, (render source).runIn w = (.error failure, after) := by
  rw [render, hs, Action.runIn_bind_of_ok (Action.runIn_ofResult _ w)]
  rcases hlines : (messages.renderLines (.ok .assigned)).runIn w with ⟨failure | lines, after⟩
  · exact ⟨failure, after, Action.runIn_bind_of_error hlines⟩
  · obtain ⟨failure, last, hrow⟩ := Action.exists_runIn_mapM_error
      (Datum.comesTo_renderExtension registries?_assigned) hmem hfails after
    have hext : (extensions.renderExtensions (.ok .assigned)).runIn after =
        (.error failure, last) := by
      rw [Datum.renderExtensions, hp, Action.runIn_bind_of_ok (Action.runIn_ofResult _ after)]
      exact Action.runIn_bind_of_error hrow
    refine ⟨failure, last, ?_⟩
    dsimp only
    rw [Action.runIn_bind_of_ok hlines]
    exact Action.runIn_bind_of_error hext

/-- Structures that are not there stop the rendering of a run. -/
theorem exists_render_error_of_structures {cause : Failure}
    (hs : source.structures = .error cause) (w : World) :
    ∃ failure after, (render source).runIn w = (.error failure, after) := by
  refine ⟨cause, w, ?_⟩
  rw [render, hs]
  exact Action.runIn_bind_of_error (Action.runIn_ofResult _ w)

/-- A run whose settings fail leaves the files as they are. -/
theorem files_perform_of_load {transcript : Option String} {w : World} {failure : Failure}
    (h : (Settings.load.runIn w).1 = .error failure) :
    ((perform source transcript).runIn w).2.files = w.files := by
  rcases hload : Settings.load.runIn w with ⟨cause | settings, after⟩
  · have hfiles : (Settings.load.runIn w).2.files = w.files := Settings.keepsFiles_loadFrom _ w
    rw [perform, Action.runIn_bind_of_error hload]
    rwa [hload] at hfiles
  · rw [hload] at h
    cases h

/-- A run that renders nothing leaves the files as they are. -/
theorem files_perform_of_render {transcript : Option String}
    (h : ∀ v, ∃ failure after, (render source).runIn v = (.error failure, after)) (w : World) :
    ((perform source transcript).runIn w).2.files = w.files := by
  rcases hload : Settings.load.runIn w with ⟨cause | settings, after⟩
  · exact files_perform_of_load (congrArg Prod.fst hload)
  · have hfirst : (Settings.load.runIn w).2.files = w.files := Settings.keepsFiles_loadFrom _ w
    have hsecond : ((render source).runIn after).2.files = after.files :=
      World.keepsFiles_of_quiet (quiet_render source) after
    obtain ⟨failure, last, hrender⟩ := h after
    rw [perform, Action.runIn_bind_of_ok hload, Action.runIn_bind_of_error hrender]
    rw [hload] at hfirst
    rw [hrender] at hsecond
    exact hsecond.trans hfirst

/-- A run without the name of a transcript leaves the files as they are. -/
theorem files_perform_of_unnamed {transcript : Option String} (h : transcript.getD "" = "")
    (w : World) : ((perform source transcript).runIn w).2.files = w.files := by
  have hcovers : World.keepingFiles.Covers (perform source transcript) := by
    refine covers_bind (Settings.keepsFiles_loadFrom _) fun settings => ?_
    refine covers_bind (World.keepsFiles_of_quiet (quiet_render source)) fun lines => ?_
    dsimp only
    rw [if_pos h]
    exact covers_pure _
  exact hcovers w

/-- Why a run writes nothing: it does not get to the writing, or has nothing to write to. -/
inductive Stops (arguments : List String) (source : Source) (w : World) : Prop where
  /-- The arguments do not ask for a run. -/
  | usage (h : ∀ transcript, requestOf arguments ≠ .ok (.run transcript))
  /-- The settings are refused. -/
  | settings {failure : Failure} (h : (Settings.load.runIn w).1 = .error failure)
  /-- There are no structures. -/
  | structures {failure : Failure} (h : source.structures = .error failure)
  /-- One of the messages is not rendered. -/
  | message {messages extensions item : Datum} {items : List Datum} {v : World}
    {failure : Failure} (h : source.structures = .ok (messages, extensions))
    (hitems : messages.items = .ok items) (hmem : item ∈ items)
    (hfails : ((item.render (.ok .assigned)).runIn v).1 = .error failure)
  /-- One of the extensions is not rendered. -/
  | extension {messages extensions part : Datum} {parts : List Datum} {v : World}
    {failure : Failure} (h : source.structures = .ok (messages, extensions))
    (hparts : extensions.items = .ok parts) (hmem : part ∈ parts)
    (hfails : ((part.renderExtension (.ok .assigned)).runIn v).1 = .error failure)
  /-- No transcript is named. -/
  | unnamed (h : requestOf arguments = .ok (.run none))
  /-- The name of the transcript is empty. -/
  | emptyName (h : requestOf arguments = .ok (.run (some "")))

/-- A run that stops before the writing leaves all files and directories as they are, and
so does a run without the name of a transcript. -/
theorem files_execute_of_stops {arguments : List String} {source : Source} {w : World}
    (h : Stops arguments source w) :
    ((execute arguments source).runIn w).2.files = w.files := by
  have hperform : (∀ transcript, requestOf arguments = .ok (.run transcript) →
      ((perform source transcript).runIn w).2.files = w.files) →
        ((execute arguments source).runIn w).2.files = w.files := by
    intro hrun
    unfold execute
    split
    · rfl
    · rfl
    · next transcript hrequest => exact hrun transcript hrequest
  apply hperform
  intro transcript hrequest
  cases h with
  | usage hno => exact absurd hrequest (hno transcript)
  | settings hload => exact files_perform_of_load hload
  | structures hs => exact files_perform_of_render (exists_render_error_of_structures hs) w
  | message hs hitems hmem hfails =>
    exact files_perform_of_render (exists_render_error_of_message hs hitems hmem hfails) w
  | extension hs hparts hmem hfails =>
    exact files_perform_of_render (exists_render_error_of_extension hs hparts hmem hfails) w
  | unnamed hnone =>
    rw [hnone] at hrequest
    obtain rfl := Request.run.inj (Except.ok.inj hrequest)
    exact files_perform_of_unnamed rfl w
  | emptyName hempty =>
    rw [hempty] at hrequest
    obtain rfl := Request.run.inj (Except.ok.inj hrequest)
    exact files_perform_of_unnamed rfl w

/-- A text behind a message keeps a run from the transcript that is there. -/
theorem files_execute_of_stops_text :
    let kept : FileTree :=
      [(.ofNames [[0x64]], .directory), (.ofNames [[0x64], [0x61]], .file [0x78, 0x0A])]
    let w : World := { files := kept, environment := [(Settings.directoryName, "d")] }
    let alert : Datum := .model (.message (.alert ⟨2, 40⟩))
    requestOf ["--transcript", "a"] = .ok (.run (some "a")) ∧
      ((execute ["--transcript", "a"] (.given (.list [alert, .text "x"]) (.list []))).runIn
        w).2.files = kept := by
  intro kept w alert
  have hfails : ((Datum.render (.ok .assigned) (.text "x")).runIn w).1 =
      .error (.misfit (.notRenderable "str")) := rfl
  have hmem : Datum.text "x" ∈ [alert, .text "x"] := by simp
  exact ⟨rfl, files_execute_of_stops (.message rfl rfl hmem hfails)⟩

end CommandLine

end TlsTranscript
