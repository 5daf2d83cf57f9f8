import TlsTranscript.Proofs.Session.Frames
import TlsTranscript.Session.Step

/-!
# What steps do to the store

Most steps give out serial numbers at most, and leave cells and names alone. One binds a
name; one puts a value into the list or table that a name is bound to; one attaches a note
to what a name is bound to, and one takes notes from registries. That is all a step does to
the store, whether it fails or not, and all that has to be looked at where something stays
as it is over the steps of a session.
-/

namespace TlsTranscript

open Changing Framing

/-- The frame of changes of sessions that leave cells and names alone. -/
abbrev Session.numbering : Framing Session := framed Store.numbering

namespace Deed

/-- Building a datum leaves cells and names alone. -/
theorem covers_datumOf (term : Term) : Session.numbering.Covers (datumOf term) :=
  covers_onStore term.covers_buildDatum

/-- Building data leaves cells and names alone. -/
theorem covers_dataOf (terms : List Term) : Session.numbering.Covers (dataOf terms) :=
  covers_mapM covers_datumOf terms

/-- Building named data leaves cells and names alone. -/
theorem covers_namedDataOf (terms : List (String × Term)) :
    Session.numbering.Covers (namedDataOf terms) := by
  unfold namedDataOf
  refine covers_mapM (fun entry => ?_) terms
  exact covers_bind (covers_datumOf entry.2) fun _ => covers_pure _

/-- What a name is bound to can be looked up. -/
theorem runIn_heldUnder (name : String) (session : Session) :
    runIn (heldUnder name) session =
      ((Keyed.get? name session.store.names).elim (.error (.unbound name)) .ok, session) := by
  rw [heldUnder, runIn_onStore, Term.runIn_build_variable]

/-- The datum of what a name is bound to can be looked up. -/
theorem runIn_datumUnder (name : String) (session : Session) :
    runIn (datumUnder name) session =
      ((Keyed.get? name session.store.names).elim (.error (.unbound name)) fun held =>
        .ok (session.store.read held), session) := by
  rw [datumUnder, datumOf, runIn_onStore, Term.runIn_buildDatum_variable]

/-- Looking up what a name is bound to changes nothing. -/
theorem same_heldUnder (name : String) : (same Session).Covers (heldUnder name) := by
  intro session
  rw [runIn_heldUnder]
  rfl

/-- Looking up the datum of what a name is bound to changes nothing. -/
theorem same_datumUnder (name : String) : (same Session).Covers (datumUnder name) := by
  intro session
  rw [runIn_datumUnder]
  rfl

/-- Looking up the cell of a name changes nothing. -/
theorem same_cellUnder (name : String) : (same Session).Covers (cellUnder name) := by
  refine covers_bind (same_heldUnder name) fun held => ?_
  cases held with
  | cell index => exact covers_bind covers_get fun _ => covers_pure _
  | _ => exact covers_pure _

/-- The cell of a name is found with its content. -/
theorem cellUnder_eq_some {name : String} {session after : Session} {index : Nat}
    {content : Held} (h : runIn (cellUnder name) session = (.ok (some (index, content)), after)) :
    after = session ∧ Keyed.get? name session.store.names = some (.cell index) ∧
      session.store.cells[index]? = some content := by
  refine ⟨eq_of_same (same_cellUnder name) h, ?_⟩
  obtain ⟨held, between, hheld, hrest⟩ := runIn_bind_eq_ok h
  obtain rfl := eq_of_same (same_heldUnder name) hheld
  rw [runIn_heldUnder] at hheld
  cases held with
  | cell found =>
    rw [runIn_bind_of_ok (runIn_get between)] at hrest
    simp only [runIn_pure, Prod.mk.injEq, Except.ok.injEq, Option.map_eq_some_iff,
      Prod.mk.injEq] at hrest
    obtain ⟨⟨held, hcell, rfl, rfl⟩, -⟩ := hrest
    refine ⟨?_, hcell⟩
    cases hbound : Keyed.get? name between.store.names with
    | none => simp [hbound] at hheld
    | some bound => simpa [hbound] using hheld
  | _ => simp at hrest

/-- The cell of a name is looked up. -/
theorem runIn_cellUnder {session : Session} {name : String} {index : Nat} {found : Held}
    (hbound : Keyed.get? name session.store.names = some (.cell index))
    (hfound : session.store.cells[index]? = some found) :
    runIn (cellUnder name) session = (.ok (some (index, found)), session) := by
  have hheld : runIn (heldUnder name) session = (.ok (.cell index), session) := by
    rw [runIn_heldUnder, hbound, Option.elim_some]
  rw [cellUnder, runIn_bind_of_ok hheld, runIn_bind_of_ok (runIn_get session)]
  rw [runIn_pure, hfound, Option.map_some]

/-- Taking all notes from a table looks at the session only. -/
theorem same_exchangeNotes (value : Held) : (same Session).Covers (exchangeNotes value) := by
  refine covers_bind covers_get fun session => ?_
  dsimp only
  split
  · exact covers_pure _
  · exact covers_throw _

/-- Exchanging all that a model holds looks at the session only. -/
theorem same_exchangeContents (model : Model) (value : Held) (notes : List (String × Held)) :
    (same Session).Covers (exchangeContents model value notes) := by
  refine covers_bind covers_get fun session => ?_
  dsimp only
  split
  · split
    · exact covers_pure _
    · exact covers_throw _
  · exact covers_throw _

/-- A note goes under any name but that of what a record is. -/
def attachPlain (datum : Datum) (field : String) (value : Held) (notes : List (String × Held)) :
    Deed (Datum × List (String × Held)) := do
  if field = Datum.className then
    throw (.misfit (.notAClass ((← get).store.read value).typeName))
  return (datum, Keyed.put field value notes)

/-- Under one name registries have all their notes and a model all that it holds, and a model
takes no notes under the other reserved names. -/
theorem attach_eq (datum : Datum) (field : String) (value : Held)
    (notes : List (String × Held)) :
    attach datum field value notes =
      match datum with
      | .registries _ _ =>
        if field = Datum.contentsName then do return (datum, ← exchangeNotes value)
        else attachPlain datum field value notes
      | .model model =>
        if field = Datum.contentsName then exchangeContents model value notes
        else if isReserved field then throw (.undescribed model.kind.name)
        else attachPlain datum field value notes
      | _ => attachPlain datum field value notes := by
  cases datum with
  | registries serial shown =>
    unfold attach
    by_cases h : field = Datum.contentsName
    · simp [h]
    · simp [h, attachPlain]
  | model model =>
    unfold attach
    by_cases h : field = Datum.contentsName
    · simp [h]
    · by_cases hr : isReserved field = true
      · simp [h, hr]
      · simp [h, hr, attachPlain]
  | _ => rfl

/-- Attaching a note looks at the session only. -/
theorem same_attach (datum : Datum) (field : String) (value : Held)
    (notes : List (String × Held)) : (same Session).Covers (attach datum field value notes) := by
  have hplain : (same Session).Covers (attachPlain datum field value notes) := by
    unfold attachPlain
    dsimp only
    split
    · exact covers_bind covers_get fun _ => covers_bind (covers_throw _) fun _ => covers_pure _
    · exact covers_pure _
  rw [attach_eq]
  split
  · split
    · exact covers_bind (same_exchangeNotes value) fun _ => covers_pure _
    · exact hplain
  · split
    · exact same_exchangeContents _ value notes
    · split
      · exact covers_throw _
      · exact hplain
  · exact hplain

/-- A model takes a note under a name that is not reserved, and stays the model that it is. -/
theorem attach_model_eq_ok {model : Model} {field : String} {value : Held}
    {notes rest : List (String × Held)} {other : Datum} {session after : Session}
    (hfield : isReserved field = false)
    (h : runIn (attach (.model model) field value notes) session = (.ok (other, rest), after)) :
    field ≠ Datum.className ∧ other = .model model ∧ rest = Keyed.put field value notes := by
  have hcontents : field ≠ Datum.contentsName := by
    rintro rfl
    exact absurd hfield (by decide)
  rw [attach_eq] at h
  simp only [hcontents, hfield, if_false, Bool.false_eq_true] at h
  unfold attachPlain at h
  dsimp only at h
  split at h
  · cases h
  · next hclass =>
    cases h
    exact ⟨hclass, rfl, rfl⟩

/-- Reading a property leaves cells and names alone. -/
theorem covers_property (name field : String) :
    Session.numbering.Covers (property name field) := by
  have hunder : Session.numbering.Covers
      (do ofResult ((← datumUnder name).propertyOperand field)) :=
    covers_bind (covers_of_same (same_datumUnder name)) fun _ => covers_ofResult _
  refine covers_bind (covers_of_same (same_cellUnder name)) fun cell => ?_
  split
  · split
    · exact covers_onStore (covers_bind covers_get fun _ => covers_pure _)
    · split
      · exact covers_bind (covers_onStore (covers_bind covers_get fun _ => covers_pure _))
          fun _ => covers_pure _
      · exact covers_ofResult _
    · exact hunder
  · exact hunder

end Deed

namespace Step

open Deed

/-- Calling an operation leaves cells and names alone. -/
theorem covers_runCall (call : Call) : Session.numbering.Covers (runCall call) := by
  refine covers_bind (covers_dataOf _) fun positional => ?_
  refine covers_bind (covers_namedDataOf _) fun named => ?_
  dsimp only
  split
  · exact covers_onWorld _
  · exact covers_throw _

/-- Changing the environment leaves cells and names alone. -/
theorem covers_changeEnvironment (change : Environment → Except Failure Environment) :
    Session.numbering.Covers (changeEnvironment change) := by
  refine covers_bind_of covers_get fun state session after hget => ?_
  obtain ⟨rfl, rfl⟩ : state = session ∧ state = after := by simpa using hget
  cases hresult : change state.world.environment with
  | error failure =>
    rw [runIn_bind_of_error (runIn_ofResult (.error failure) state)]
    exact Framing.refl _ state
  | ok environment =>
    -- only the world is another one in the session that is set
    rw [runIn_bind_of_ok (runIn_ofResult (.ok environment) state)]
    exact Store.numbering.refl state.store

/-- Finding the source of a run leaves cells and names alone. -/
theorem covers_sourceOf (source : SourceTerm) : Session.numbering.Covers (sourceOf source) := by
  cases source with
  | generated material => exact covers_bind (covers_namedDataOf material) fun _ => covers_pure _
  | given messages extensions =>
    exact covers_bind (covers_datumOf _) fun _ => covers_bind (covers_datumOf _) fun _ =>
      covers_pure _

/-- Comparing values leaves cells and names alone. -/
theorem covers_runEqual (first second : Term) :
    Session.numbering.Covers (runEqual first second) :=
  covers_bind (covers_datumOf _) fun _ => covers_bind (covers_datumOf _) fun _ => covers_pure _

/-- Reading a variable of the environment leaves cells and names alone. -/
theorem covers_runReadVariable (name : Datum) :
    Session.numbering.Covers (runReadVariable name) :=
  covers_bind (covers_ofResult _) fun _ => covers_bind covers_get fun _ => covers_pure _

/-- Writing a file leaves cells and names alone. -/
theorem covers_runOverwrite (path : String) (content : Term) :
    Session.numbering.Covers (runOverwrite path content) :=
  covers_bind (covers_onWorld _) fun _ => covers_bind (covers_datumOf _) fun _ =>
    covers_bind (covers_ofResult _) fun _ => covers_bind (covers_onWorld _) fun _ =>
      covers_pure _

/-- Reading a file leaves cells and names alone. -/
theorem covers_runOctets (path : String) : Session.numbering.Covers (runOctets path) :=
  covers_bind (covers_onWorld _) fun _ => covers_pure _

/-- Making a directory leaves cells and names alone. -/
theorem covers_runMakeDirectory (path : String) :
    Session.numbering.Covers (runMakeDirectory path) :=
  covers_bind (covers_onWorld _) fun _ => covers_pure _

/-- Listing files leaves cells and names alone. -/
theorem covers_runList : Session.numbering.Covers runList :=
  covers_bind covers_get fun _ => covers_pure _

/-- Setting up logging leaves cells and names alone. -/
theorem covers_runConfigureLogging (settings : Option Term) :
    Session.numbering.Covers (runConfigureLogging settings) :=
  covers_bind (covers_datumOf _) fun _ => covers_bind (covers_onWorld _) fun _ => covers_pure _

/-- Making a sample leaves cells and names alone. -/
theorem covers_runSample (material : List (String × Term)) :
    Session.numbering.Covers (runSample material) :=
  covers_bind (covers_sourceOf _) fun _ => covers_bind (covers_ofResult _) fun _ =>
    covers_pure _

/-- Running the command line leaves cells and names alone. -/
theorem covers_runCommandLine (arguments : List String) (source : SourceTerm) :
    Session.numbering.Covers (runCommandLine arguments source) :=
  covers_bind (covers_sourceOf source) fun _ => covers_bind (covers_onWorld _) fun _ =>
    covers_pure _

/-- A step answers the datum that it comes to, and leaves what the deed leaves. -/
theorem runIn_answer (deed : Deed Datum) (session : Session) :
    runIn (answer deed) session =
      ((runIn deed session).1.map .datum, (runIn deed session).2) := by
  rw [answer, runIn_bind]
  rcases runIn deed session with ⟨_ | value, after⟩ <;> rfl

/-- What a step can do to a store. -/
inductive Effect (before : Store) : Step → Store → Prop where
  /-- Cells and names are left alone. -/
  | numbered {step : Step} {after : Store} (h : Store.numbering.Passes before after) :
    Effect before step after
  /-- A name is bound to the value that was built for it. -/
  | bound {name : String} {value : Term} {held : Held} {between : Store}
    (hbuilt : runIn value.build before = (.ok held, between)) :
    Effect before (.bind name value) (between.bind name held)
  /-- The list that a name is bound to takes a value. -/
  | replacedItem {name : String} {key value : Datum} {content : Held} {index : Nat}
    {items : List Held}
    (hbound : Keyed.get? name before.names = some (.cell index))
    (hfound : before.cells[index]? = some (.list items))
    (hput : Held.replaceItem items key (.fixed value) = .ok content) :
    Effect before (.assign name key value) (before.replace index content)
  /-- The table that a name is bound to takes a value. -/
  | putEntry {name : String} {key value : Datum} {index : Nat}
    {entries : List (Datum × Held)}
    (hbound : Keyed.get? name before.names = some (.cell index))
    (hfound : before.cells[index]? = some (.table entries)) (hkey : key.changeable? = none) :
    Effect before (.assign name key value)
      (before.replace index (.table (Table.put key (.fixed value) entries)))
  /-- A note is attached to what a name is bound to, and a model takes just that note if its
  name is not reserved. -/
  | attached {name field : String} {value : Term} {held : Held} {between : Store} {index : Nat}
    {datum other : Datum} {notes rest : List (String × Held)}
    (hbuilt : runIn value.build before = (.ok held, between))
    (hbound : Keyed.get? name before.names = some (.cell index))
    (hfound : before.cells[index]? = some (.noted datum notes))
    (htakes : takesNote field datum = true)
    (hrest : ∀ model, datum = .model model → isReserved field = false →
      field ≠ Datum.className ∧ other = datum ∧ rest = Keyed.put field held notes) :
    Effect before (.setField name field value) (between.replace index (.noted other rest))
  /-- Registries that a name is bound to lose notes. -/
  | detached {name field : String} {index serial : Nat} {shown : List (String × Datum)}
    {notes rest : List (String × Held)}
    (hbound : Keyed.get? name before.names = some (.cell index))
    (hfound : before.cells[index]? = some (.noted (.registries serial shown) notes)) :
    Effect before (.removeField name field)
      (before.replace index (.noted (.registries serial shown) rest))

/-- What a step with an answer does to the store is what its deed does. -/
theorem effect_answer {step : Step} {deed : Deed Datum} {session : Session}
    (h : Effect session.store step (runIn deed session).2.store) :
    Effect session.store step (runIn (answer deed) session).2.store := by
  rw [runIn_answer]
  exact h

/-- Where a deed starts with building a value, its effect is what follows once the value is
built. -/
theorem effect_build_bind {step : Step} {value : Term} {next : Held → Deed Datum}
    {session : Session}
    (h : ∀ held between, runIn value.build session.store = (.ok held, between) →
      Store.numbering.Passes session.store between →
      Effect session.store step (runIn (next held) { session with store := between }).2.store) :
    Effect session.store step (runIn (onStore value.build >>= next) session).2.store := by
  have hnumbered := value.covers_build session.store
  rcases hbuilt : runIn value.build session.store with ⟨failure | held, between⟩
  · rw [hbuilt] at hnumbered
    rw [runIn_bind, runIn_onStore, hbuilt]
    exact .numbered hnumbered
  · rw [hbuilt] at hnumbered
    rw [runIn_bind, runIn_onStore, hbuilt]
    exact h held between hbuilt hnumbered

/-- Where a deed starts with a look at the session, its effect is that of what follows. -/
theorem effect_same_bind {α : Type} {before : Store} {step : Step} {look : Deed α}
    {next : α → Deed Datum} {session : Session} (hlook : (same Session).Covers look)
    (hnumbered : Store.numbering.Passes before session.store)
    (h : ∀ value, runIn look session = (.ok value, session) →
      Effect before step (runIn (next value) session).2.store) :
    Effect before step (runIn (look >>= next) session).2.store := by
  rcases hrun : runIn look session with ⟨failure | value, after⟩
  · obtain rfl := eq_of_same hlook hrun
    rw [runIn_bind_of_error hrun]
    exact .numbered hnumbered
  · obtain rfl := eq_of_same hlook hrun
    rw [runIn_bind_of_ok hrun]
    exact h value hrun

/-- What a refusal under a name does to the store. -/
theorem effect_refusal {before : Store} {step : Step} {name : String} {refuse : Datum → Failure}
    {session : Session} (hnumbered : Store.numbering.Passes before session.store) :
    Effect before step
      (runIn (do throw (refuse (← datumUnder name)) : Deed Datum) session).2.store :=
  effect_same_bind (same_datumUnder name) hnumbered fun _ _ => .numbered hnumbered

/-- Binding a name. -/
theorem effect_bindName (name : String) (value : Term) (session : Session) :
    Effect session.store (.bind name value) (runIn (bindName name value) session).2.store := by
  refine effect_build_bind fun held between hbuilt _ => ?_
  have hset : runIn (modify fun session : Session =>
        { session with store := session.store.bind name held } : Deed PUnit)
      { session with store := between } =
      (.ok ⟨⟩, { session with store := between.bind name held }) := rfl
  rw [runIn_bind_of_ok hset, runIn_datumUnder]
  exact .bound hbuilt

/-- A content that is exchanged for a result. -/
theorem store_replace (index : Nat) (content : Held) (name : String) (session : Session) :
    (runIn (do replace index content; datumUnder name) session).2.store =
      session.store.replace index content := by
  have hreplace : runIn (replace index content) session =
      (.ok ⟨⟩, { session with store := session.store.replace index content }) := rfl
  rw [runIn_bind_of_ok hreplace, runIn_datumUnder]

/-- Putting a value into a list or a table. -/
theorem effect_assign (name : String) (key value : Datum) (session : Session) :
    Effect session.store (.assign name key value)
      (runIn (Deed.assign name key value) session).2.store := by
  have hnumbered := Store.numbering.refl session.store
  refine effect_same_bind (same_cellUnder name) hnumbered fun cell hcell => ?_
  split
  · next index items =>
    obtain ⟨-, hbound, hfound⟩ := cellUnder_eq_some hcell
    cases hput : Held.replaceItem items key (.fixed value) with
    | error failure => exact .numbered hnumbered
    | ok content =>
      rw [runIn_bind_of_ok (runIn_ofResult (.ok content) _), store_replace]
      exact .replacedItem hbound hfound hput
  · next index entries =>
    obtain ⟨-, hbound, hfound⟩ := cellUnder_eq_some hcell
    unfold Held.putEntry
    cases hkey : key.changeable? with
    | some typeName => exact .numbered hnumbered
    | none =>
      rw [runIn_bind_of_ok (runIn_ofResult (.ok _) _), store_replace]
      exact .putEntry hbound hfound hkey
  · exact effect_refusal hnumbered

/-- Setting a field or attaching a note. -/
theorem effect_setField (name field : String) (value : Term) (session : Session) :
    Effect session.store (.setField name field value)
      (runIn (Deed.setField name field value) session).2.store := by
  refine effect_same_bind (same_heldUnder name) (Store.numbering.refl _) fun _ _ => ?_
  refine effect_build_bind fun held between hbuilt hnumbered => ?_
  obtain ⟨hcells, hnames⟩ := id hnumbered
  refine effect_same_bind (same_cellUnder name) hnumbered fun cell hcell => ?_
  split
  · next index datum notes =>
    obtain ⟨-, hbound, hfound⟩ := cellUnder_eq_some hcell
    split
    · next htakes =>
      refine effect_same_bind (same_attach datum field held notes) hnumbered fun both hboth => ?_
      obtain ⟨other, rest⟩ := both
      refine .attached hbuilt (hnames ▸ hbound) (hcells ▸ hfound) htakes ?_
      rintro model rfl hfield
      exact attach_model_eq_ok hfield hboth
    · exact .numbered hnumbered
  · exact effect_refusal hnumbered

/-- Removing a field or notes. -/
theorem effect_removeField (name field : String) (session : Session) :
    Effect session.store (.removeField name field)
      (runIn (Deed.removeField name field) session).2.store := by
  have hnumbered := Store.numbering.refl session.store
  refine effect_same_bind (same_cellUnder name) hnumbered fun cell hcell => ?_
  split
  · next index serial shown notes =>
    obtain ⟨-, hbound, hfound⟩ := cellUnder_eq_some hcell
    split
    · exact .detached hbound hfound
    · split
      · exact .numbered hnumbered
      · exact .numbered hnumbered
  · exact effect_refusal hnumbered

/-- What a step does to the store, whether it fails or not. -/
theorem effect_run (step : Step) (session : Session) :
    Effect session.store step (runIn step.run session).2.store := by
  cases step with
  | call content => exact effect_answer (.numbered (covers_runCall content session))
  | bind name value => exact effect_answer (effect_bindName name value session)
  | assign name key value => exact effect_answer (effect_assign name key value session)
  | setField name field value => exact effect_answer (effect_setField name field value session)
  | removeField name field => exact effect_answer (effect_removeField name field session)
  | property name field => exact effect_answer (.numbered (covers_property name field session))
  | equal first second => exact effect_answer (.numbered (covers_runEqual first second session))
  | setVariable name value =>
    exact effect_answer (.numbered (covers_changeEnvironment _ session))
  | removeVariable name => exact effect_answer (.numbered (covers_changeEnvironment _ session))
  | readVariable name => exact effect_answer (.numbered (covers_runReadVariable name session))
  | overwrite path data => exact effect_answer (.numbered (covers_runOverwrite path data session))
  | octets path => exact effect_answer (.numbered (covers_runOctets path session))
  | makeDirectory path =>
    -- without this the walk through the files is unfolded to match the two sides
    rw [run]
    exact effect_answer (.numbered (covers_runMakeDirectory path session))
  | list => exact effect_answer (.numbered (covers_runList session))
  | configureLogging settings =>
    exact effect_answer (.numbered (covers_runConfigureLogging settings session))
  | sample material => exact effect_answer (.numbered (covers_runSample material session))
  | commandLine arguments source =>
    exact .numbered (covers_runCommandLine arguments source session)

end Step

namespace Session

/-- The session in which the step of a request runs. -/
def heard (session : Session) (listening : Bool) : Session :=
  { session with world := { session.world with listening, log := [] } }

/-- A request leaves what its step leaves. -/
theorem after_answer (session : Session) (step : Step) (listening : Bool) :
    (session.answer ⟨step, listening⟩).2 = (runIn step.run (session.heard listening)).2 := rfl

/-- What a request does to the store. -/
theorem effect_of_request (session : Session) (request : Request) :
    request.step.Effect session.store (session.answer request).2.store := by
  rw [after_answer]
  exact Step.effect_run request.step (session.heard request.listening)

end Session

end TlsTranscript
