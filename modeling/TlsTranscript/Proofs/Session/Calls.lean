import TlsTranscript.Proofs.Rendering.Quiet
import TlsTranscript.Proofs.Session.Effects
import TlsTranscript.Proofs.Session.Worldly

/-!
# Calls and their arguments

Most operations look at nothing but their arguments. A call of such an operation has the
same answer wherever its arguments have the same data, records included.
-/

namespace TlsTranscript

open Changing Framing TlsTranscript.Action

namespace Operation

/-- Whether an operation looks at nothing but its arguments: it neither loads settings nor
touches a file. -/
def isQuiet : Operation → Bool
  | .loadSettings => false
  | .append => false
  | .appendRow _ => false
  | .fileDigest => false
  | .readLines => false
  | .compareLines => false
  | .compareRow _ => false
  | _ => true

/-- Calls that look at more than their arguments: they load settings or touch a file. -/
inductive LooksFurther : Operation → List Datum → Prop where
  /-- Settings are loaded. -/
  | loadSettings (file : Datum) : LooksFurther .loadSettings [file]
  /-- Lines are added to a transcript. -/
  | append (data name directory : Datum) : LooksFurther .append [data, name, directory]
  /-- Given lines are added to a transcript. -/
  | appendRow (given : List Line) (name directory : Datum) :
    LooksFurther (.appendRow given) [name, directory]
  /-- The digest of a file is taken. -/
  | fileDigest (path : Datum) : LooksFurther .fileDigest [path]
  /-- The lines of a file are read. -/
  | readLines (path : Datum) : LooksFurther .readLines [path]
  /-- A file is compared with lines. -/
  | compareLines (path expected : Datum) : LooksFurther .compareLines [path, expected]
  /-- A file is compared with a given row of lines. -/
  | compareRow (given : List Line) (path : Datum) : LooksFurther (.compareRow given) [path]

/-- A call is quiet or looks at more than its arguments. -/
theorem quiet_or_looksFurther (operation : Operation) (arguments : List Datum) :
    (operation.run arguments).Quiet ∨ operation.LooksFurther arguments := by
  have htext : ∀ {action : Action String}, action.Quiet → (answerText action).Quiet :=
    fun h => quiet_bind h fun _ => quiet_pure _
  unfold run
  split
  · exact .inl (htext (Datum.quiet_decodedText _))
  · exact .inl (Datum.quiet_writeCode _ _)
  · exact .inl (quiet_bind (quiet_ofResult _) fun _ => Datum.quiet_writeCode _ _)
  · exact .inl (htext (Datum.quiet_renderExtension _))
  · exact .inl (htext (Datum.quiet_render _))
  · exact .inl (htext (Datum.quiet_renderAs _ _))
  · exact .inl (htext (Datum.quiet_renderExtensions _))
  · exact .inl (quiet_bind (Datum.quiet_renderLines _) fun _ => quiet_pure _)
  · exact .inl (htext (quiet_ofResult _))
  · exact .inl (quiet_ofResult _)
  · exact .inl (quiet_ofResult _)
  · exact .inl (quiet_bind (quiet_ofResult _) fun _ => quiet_throw _)
  · exact .inl (quiet_pure _)
  · exact .inr (.loadSettings _)
  · exact .inr (.append _ _ _)
  · exact .inr (.appendRow _ _ _)
  · exact .inr (.fileDigest _)
  · exact .inr (.readLines _)
  · exact .inr (.compareLines _ _)
  · exact .inr (.compareRow _ _)
  · split
    · exact .inl (quiet_ofResult _)
    · exact .inl (quiet_throw _)
  · exact .inl (quiet_throw _)

/-- An operation that looks at nothing but its arguments is quiet. -/
theorem quiet_run {operation : Operation} (h : operation.isQuiet = true)
    (arguments : List Datum) : (operation.run arguments).Quiet := by
  rcases operation.quiet_or_looksFurther arguments with hquiet | hfurther
  · exact hquiet
  · cases hfurther <;> cases h

end Operation

/-- A change for each item of a list, each of which gives a value and changes nothing. -/
theorem Changing.runIn_mapM_of_ok {σ α β : Type} {change : α → Changing σ β} {value : α → β}
    {state : σ} (items : List α)
    (h : ∀ item ∈ items, runIn (change item) state = (.ok (value item), state)) :
    runIn (items.mapM change) state = (.ok (items.map value), state) := by
  induction items with
  | nil => rfl
  | cons item rest ih =>
    obtain ⟨hitem, hrest⟩ := List.forall_mem_cons.mp h
    rw [List.mapM_cons, runIn_bind_of_ok hitem, runIn_bind_of_ok (ih hrest), runIn_pure,
      List.map_cons]

/-- An argument: what a name is bound to where nothing else is given, or a datum. -/
def Term.given (name : String) : Option Datum → Term
  | none => .variable name
  | some datum => .constant datum

/-- A call with what a name is bound to among its arguments. -/
def Call.under (operation : Operation) (callable : Interface) (name : String)
    (positional : List (Option Datum)) (named : List (String × Option Datum)) : Call where
  operation := operation
  callable := callable
  positional := positional.map (Term.given name)
  named := named.map fun entry => (entry.1, Term.given name entry.2)

/-- The arguments of such a call where the name stands for a datum. -/
def Interface.argumentsUnder (callable : Interface) (datum : Datum)
    (positional : List (Option Datum)) (named : List (String × Option Datum)) :
    Except CallFault (List Datum) :=
  callable.bind Step.kindOf .absent (positional.map fun argument => argument.getD datum)
    (Keyed.ofEntries (named.map fun entry => (entry.1, entry.2.getD datum)))

/-- A name stands for a datum. -/
def Store.Shows (store : Store) (name : String) (datum : Datum) : Prop :=
  ∃ held, Keyed.get? name store.names = some held ∧ store.read held = datum

namespace Deed

variable {session : Session} {name : String} {datum : Datum}

/-- The datum of a name that stands for one. -/
theorem runIn_datumUnder_of_shows (h : session.store.Shows name datum) :
    runIn (datumUnder name) session = (.ok datum, session) := by
  obtain ⟨held, hbound, rfl⟩ := h
  rw [runIn_datumUnder, hbound, Option.elim_some]

/-- An argument has the datum that its name stands for, or the one that is given. -/
theorem runIn_datumOf_given (h : session.store.Shows name datum) (argument : Option Datum) :
    runIn (datumOf (Term.given name argument)) session =
      (.ok (argument.getD datum), session) := by
  cases argument with
  | none => exact runIn_datumUnder_of_shows h
  | some other => rfl

end Deed

namespace Step

open Deed

/-- A call with what a name is bound to among its arguments does what its operation does with
the datum of the name. -/
theorem runIn_runCall_under {session : Session} {name : String} {datum : Datum}
    (h : session.store.Shows name datum) (operation : Operation) (callable : Interface)
    (positional : List (Option Datum)) (named : List (String × Option Datum)) :
    runIn (runCall (Call.under operation callable name positional named)) session =
      match callable.argumentsUnder datum positional named with
      | .ok arguments => runIn (onWorld (operation.run arguments)) session
      | .error cause => (.error (.call cause), session) := by
  have hpositional : runIn (dataOf (positional.map (Term.given name))) session =
      (.ok (positional.map fun argument => argument.getD datum), session) := by
    rw [dataOf, List.mapM_map]
    exact runIn_mapM_of_ok _ fun argument _ => runIn_datumOf_given h argument
  have hnamed : runIn (namedDataOf (named.map fun entry =>
      (entry.1, Term.given name entry.2))) session =
      (.ok (named.map fun entry => (entry.1, entry.2.getD datum)), session) := by
    rw [namedDataOf, List.mapM_map]
    refine runIn_mapM_of_ok _ fun entry _ => ?_
    dsimp only [Function.comp]
    rw [runIn_bind_of_ok (runIn_datumOf_given h entry.2)]
    rfl
  rw [runCall, Call.under]
  dsimp only
  rw [runIn_bind_of_ok hpositional, runIn_bind_of_ok hnamed, ← Interface.argumentsUnder]
  cases callable.argumentsUnder datum positional named <;> rfl

/-- A call fails and leaves the world as it is if its operation does so for all arguments. -/
theorem runCall_fails (call : Call)
    (h : ∀ arguments, ∃ failure, ∀ w,
      (call.operation.run arguments).runIn w = (.error failure, w)) (session : Session) :
    ∃ failure after, runIn (runCall call) session = (.error failure, after) ∧
      after.world = session.world := by
  obtain ⟨failure, after, hrun⟩ : ∃ failure after,
      runIn (runCall call) session = (.error failure, after) := by
    refine fails_bind (fun positional => fails_bind fun named state => ?_) _
    dsimp only
    split
    · next arguments _ =>
      obtain ⟨failure, hfails⟩ := h arguments
      exact ⟨failure, state, by rw [runIn_onWorld, hfails]⟩
    · next cause _ => exact ⟨.call cause, state, rfl⟩
  have hworld : (Session.worldly (same World)).Covers (runCall call) := by
    refine covers_bind (worldly_dataOf _) fun _ => covers_bind (worldly_namedDataOf _) fun _ => ?_
    dsimp only
    split
    · next arguments _ =>
      obtain ⟨failure, hfails⟩ := h arguments
      exact worldly_onWorld fun w => (congrArg Prod.snd (hfails w)).symm
    · exact covers_throw _
  have hsame := hworld session
  rw [hrun] at hsame
  exact ⟨failure, after, hrun, hsame.symm⟩

end Step

namespace Session

open Deed

/-- A request is answered by what the deed of its step comes to and by the records of the
world after it. -/
theorem answer_of_deed (session : Session) {step : Step} {deed : Deed Datum}
    (h : step.run = Step.answer deed) (listening : Bool) :
    session.answer ⟨step, listening⟩ =
      (⟨(runIn deed (session.heard listening)).1.map .datum,
          (runIn deed (session.heard listening)).2.world.log.reverse⟩,
        (runIn deed (session.heard listening)).2) := by
  refine Prod.ext ?_ ?_
  · change (⟨(runIn step.run (session.heard listening)).1,
      (runIn step.run (session.heard listening)).2.world.log.reverse⟩ : Answer) = _
    rw [h, Step.runIn_answer]
  · rw [after_answer, h, Step.runIn_answer]

/-- A call of an operation that looks at nothing but its arguments has the same answer in two
sessions if a name of the one stands for the same datum as a name of the other. -/
theorem answer_under {first second : Session} {name other : String} {datum : Datum}
    (hfirst : first.store.Shows name datum) (hsecond : second.store.Shows other datum)
    {operation : Operation} (hquiet : operation.isQuiet = true) (callable : Interface)
    (positional : List (Option Datum)) (named : List (String × Option Datum))
    (listening : Bool) :
    (first.answer ⟨.call (Call.under operation callable name positional named), listening⟩).1 =
      (second.answer ⟨.call (Call.under operation callable other positional named),
        listening⟩).1 := by
  have hheard : (first.heard listening).store.Shows name datum := hfirst
  have hheard' : (second.heard listening).store.Shows other datum := hsecond
  rw [first.answer_of_deed rfl, second.answer_of_deed rfl, Step.runIn_runCall_under hheard,
    Step.runIn_runCall_under hheard']
  cases callable.argumentsUnder datum positional named with
  | error cause => rfl
  | ok arguments =>
    obtain ⟨told, htold⟩ := Operation.quiet_run hquiet arguments
    have hresult : ∀ session : Session,
        (runIn (onWorld (operation.run arguments)) (session.heard listening)).1 =
          (told listening).1 := fun session =>
      congrArg Prod.fst (htold (session.heard listening).world)
    have hlog : ∀ session : Session,
        (runIn (onWorld (operation.run arguments)) (session.heard listening)).2.world.log =
          (told listening).2 ++ [] := fun session =>
      congrArg (fun run => run.2.log) (htold (session.heard listening).world)
    dsimp only
    rw [hresult, hresult, hlog, hlog]

end Session

end TlsTranscript
