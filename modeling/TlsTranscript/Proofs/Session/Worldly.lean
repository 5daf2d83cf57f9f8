import TlsTranscript.Proofs.Session.Instances

/-!
# What steps do to the world

Most of what a step does concerns names and cells. The world is changed only by the
operations, by the writing of files and directories, by loads of settings and by runs of
the command line. So a frame of the world that covers these covers every step, apart from
those that set or remove a variable of the environment.
-/

namespace TlsTranscript

open Changing Framing

/-- The frame of sessions for a frame of their worlds. -/
def Session.worldly (frame : Framing World) : Framing Session where
  Passes before after := frame.Passes before.world after.world
  refl session := frame.refl session.world
  trans := frame.trans

namespace Deed

variable {frame : Framing World}

/-- What happens to the world is covered as in the world. -/
theorem worldly_onWorld {α : Type} {action : Action α} (h : frame.Covers action) :
    (Session.worldly frame).Covers (onWorld action) :=
  fun session => h session.world

/-- A building leaves the world alone. -/
theorem worldly_onStore {α : Type} (building : Building α) :
    (Session.worldly frame).Covers (onStore building) :=
  fun session => frame.refl session.world

/-- A known result leaves the world alone. -/
theorem worldly_ofResult {α : Type} (result : Except Failure α) :
    (Session.worldly frame).Covers (ofResult result) :=
  fun session => frame.refl session.world

/-- Exchanging the content of a cell leaves the world alone. -/
theorem worldly_replace (index : Nat) (content : Held) :
    (Session.worldly frame).Covers (replace index content) :=
  fun session => frame.refl session.world

/-- Building data leaves the world alone. -/
theorem worldly_dataOf (terms : List Term) :
    (Session.worldly frame).Covers (dataOf terms) :=
  covers_mapM (fun _ => worldly_onStore _) terms

/-- Building named data leaves the world alone. -/
theorem worldly_namedDataOf (terms : List (String × Term)) :
    (Session.worldly frame).Covers (namedDataOf terms) := by
  unfold namedDataOf
  exact covers_mapM (fun _ => covers_bind (worldly_onStore _) fun _ => covers_pure _) terms

/-- Binding a name leaves the world alone. -/
theorem worldly_bindName (name : String) (value : Term) :
    (Session.worldly frame).Covers (bindName name value) :=
  covers_bind (worldly_onStore _) fun _ =>
    covers_bind (fun session => frame.refl session.world) fun _ => worldly_onStore _

/-- Putting a value into a list or a table leaves the world alone. -/
theorem worldly_assign (name : String) (key value : Datum) :
    (Session.worldly frame).Covers (assign name key value) := by
  refine covers_bind (covers_of_same (same_cellUnder name)) fun cell => ?_
  have hexchange : ∀ (index : Nat) (result : Except Failure Held),
      (Session.worldly frame).Covers
        (do replace index (← ofResult result); datumUnder name) := fun _ _ =>
    covers_bind (worldly_ofResult _) fun _ => covers_bind (worldly_replace _ _) fun _ =>
      worldly_onStore _
  split
  · exact hexchange _ _
  · exact hexchange _ _
  · exact covers_bind (worldly_onStore _) fun _ => covers_throw _

/-- Setting a field leaves the world alone. -/
theorem worldly_setField (name field : String) (value : Term) :
    (Session.worldly frame).Covers (setField name field value) := by
  refine covers_bind (covers_of_same (same_heldUnder name)) fun _ => ?_
  refine covers_bind (worldly_onStore _) fun held => ?_
  refine covers_bind (covers_of_same (same_cellUnder name)) fun cell => ?_
  split
  · split
    · exact covers_bind (covers_of_same (same_attach _ field held _)) fun _ =>
        covers_bind (worldly_replace _ _) fun _ => covers_pure _
    · exact covers_throw _
  · exact covers_bind (worldly_onStore _) fun _ => covers_throw _

/-- Removing a field leaves the world alone. -/
theorem worldly_removeField (name field : String) :
    (Session.worldly frame).Covers (removeField name field) := by
  refine covers_bind (covers_of_same (same_cellUnder name)) fun cell => ?_
  split
  · split
    · exact covers_bind (worldly_replace _ _) fun _ => covers_pure _
    · split
      · exact covers_throw _
      · exact covers_throw _
  · exact covers_bind (worldly_onStore _) fun _ => covers_throw _

/-- Reading a property leaves the world alone. -/
theorem worldly_property (name field : String) :
    (Session.worldly frame).Covers (property name field) := by
  have hunder : (Session.worldly frame).Covers
      (do ofResult ((← datumUnder name).propertyOperand field)) :=
    covers_bind (worldly_onStore _) fun _ => worldly_ofResult _
  refine covers_bind (covers_of_same (same_cellUnder name)) fun cell => ?_
  split
  · split
    · exact worldly_onStore _
    · split
      · exact covers_bind (worldly_onStore _) fun _ => covers_pure _
      · exact worldly_ofResult _
    · exact hunder
  · exact hunder

end Deed

/-- A frame covers what steps do to the world, other than setting and removing variables
of the environment. -/
structure Framing.CoversActions (frame : Framing World) : Prop where
  /-- Every operation is covered. -/
  operation : ∀ (operation : Operation) (arguments : List Datum),
    frame.Covers (operation.run arguments)
  /-- The writing of files is covered. -/
  overwrite : ∀ (path : GivenPath) (content : Bytes),
    frame.Covers (Transcript.overwrite path content)
  /-- The making of directories is covered. -/
  makeDirectories : ∀ (welcome : Bool) (path : GivenPath),
    frame.Covers (Transcript.makeDirectories welcome path)
  /-- The reading of files is covered. -/
  contentOf : ∀ path : Datum, frame.Covers (Transcript.contentOf path)
  /-- The setting up of logging is covered. -/
  levelFor : ∀ settings : Datum, frame.Covers (Step.levelFor settings)
  /-- Runs of the command line are covered. -/
  execute : ∀ (arguments : List String) (source : CommandLine.Source),
    frame.Covers (CommandLine.execute arguments source)

namespace Step

open Deed

/-- Whether a step leaves it to operations to change the environment. -/
def KeepsVariables : Step → Prop
  | .setVariable _ _ | .removeVariable _ => False
  | _ => True

variable {frame : Framing World}

/-- A step answers the datum that it comes to. -/
theorem worldly_answer {deed : Deed Datum} (h : (Session.worldly frame).Covers deed) :
    (Session.worldly frame).Covers (answer deed) :=
  covers_bind h fun _ => covers_pure _

/-- Finding the source of a run leaves the world alone. -/
theorem worldly_sourceOf (source : SourceTerm) :
    (Session.worldly frame).Covers (sourceOf source) := by
  cases source with
  | generated material =>
    exact covers_bind (worldly_namedDataOf material) fun _ => covers_pure _
  | given messages extensions =>
    exact covers_bind (worldly_onStore _) fun _ => covers_bind (worldly_onStore _) fun _ =>
      covers_pure _

/-- A step is covered by a frame that covers what steps do to the world. -/
theorem worldly_run (hframe : frame.CoversActions) {step : Step} (h : step.KeepsVariables) :
    (Session.worldly frame).Covers step.run := by
  cases step with
  | call content =>
    refine worldly_answer (covers_bind (worldly_dataOf _) fun _ => ?_)
    refine covers_bind (worldly_namedDataOf _) fun _ => ?_
    dsimp only
    split
    · exact worldly_onWorld (hframe.operation _ _)
    · exact covers_throw _
  | bind name value => exact worldly_answer (worldly_bindName name value)
  | assign name key value => exact worldly_answer (worldly_assign name key value)
  | setField name field value => exact worldly_answer (worldly_setField name field value)
  | removeField name field => exact worldly_answer (worldly_removeField name field)
  | property name field => exact worldly_answer (worldly_property name field)
  | equal first second =>
    exact worldly_answer (covers_bind (worldly_onStore _) fun _ =>
      covers_bind (worldly_onStore _) fun _ => covers_pure _)
  | setVariable name value => exact h.elim
  | removeVariable name => exact h.elim
  | readVariable name =>
    exact worldly_answer (covers_bind (worldly_ofResult _) fun _ =>
      covers_bind covers_get fun _ => covers_pure _)
  | overwrite path data =>
    exact worldly_answer (covers_bind (worldly_onWorld (hframe.overwrite _ _)) fun _ =>
      covers_bind (worldly_onStore _) fun _ => covers_bind (worldly_ofResult _) fun _ =>
        covers_bind (worldly_onWorld (hframe.overwrite _ _)) fun _ => covers_pure _)
  | octets path =>
    exact worldly_answer (covers_bind (worldly_onWorld (hframe.contentOf _)) fun _ =>
      covers_pure _)
  | makeDirectory path =>
    -- without this the walk through the files is unfolded to match the two sides
    rw [run]
    exact worldly_answer (covers_bind (worldly_onWorld (hframe.makeDirectories _ _)) fun _ =>
      covers_pure _)
  | list => exact worldly_answer (covers_bind covers_get fun _ => covers_pure _)
  | configureLogging settings =>
    exact worldly_answer (covers_bind (worldly_onStore _) fun _ =>
      covers_bind (worldly_onWorld (hframe.levelFor _)) fun _ => covers_pure _)
  | sample material =>
    exact worldly_answer (covers_bind (worldly_sourceOf _) fun _ =>
      covers_bind (worldly_ofResult _) fun _ => covers_pure _)
  | commandLine arguments source =>
    exact covers_bind (worldly_sourceOf source) fun _ =>
      covers_bind (worldly_onWorld (hframe.execute _ _)) fun _ => covers_pure _

end Step

namespace Session

variable {frame : Framing World}

/-- Requests are covered by a frame that covers what their steps do to the world, if it is
no matter to the frame who listens and what has been noted. -/
theorem worldly_run (hframe : frame.CoversActions)
    (hheard : ∀ (session : Session) (listening : Bool),
      (worldly frame).Passes session (session.heard listening))
    {session : Session} {requests : List Request}
    (h : ∀ request ∈ requests, request.step.KeepsVariables) :
    frame.Passes session.world (session.run requests).2.world := by
  induction requests generalizing session with
  | nil => exact frame.refl session.world
  | cons first rest ih =>
    obtain ⟨hfirst, hrest⟩ := List.forall_mem_cons.mp h
    have hstep : frame.Passes session.world (session.answer first).2.world := by
      rw [after_answer]
      exact frame.trans (hheard session first.listening)
        (Step.worldly_run hframe hfirst (session.heard first.listening))
    exact frame.trans hstep (ih hrest)

end Session

end TlsTranscript
