import TlsTranscript.Proofs.Action
import TlsTranscript.Settings.Load

/-!
# Loading of settings

What a load does to the environment: it gives values to names that have none and leaves
every other name alone. The names that a file gives values to do not depend on the
environment, so a load that has set all of them finds nothing left to set when it is done
again, and has the same result. Once the two settings are in the environment, no file has
a say in them.
-/

namespace TlsTranscript

/-- A put and then a change of all values is the change and then the put. -/
theorem Keyed.map_put {κ α β : Type} [DecidableEq κ] (change : α → β) (key : κ) (value : α)
    (entries : Keyed κ α) :
    (put key value entries).map (Prod.map id change) =
      put key (change value) (entries.map (Prod.map id change)) := by
  induction entries with
  | nil => rfl
  | cons entry rest ih =>
    obtain ⟨other, previous⟩ := entry
    by_cases h : key = other
    · simp [put, h]
    · simp [put, h, ih]

namespace EnvFile

/-- The names that bindings give values to, and those that they only name, are the same
in every environment. -/
theorem map_isSome_resolve (environment : Keyed String String) (bindings : List Binding) :
    (resolve environment bindings).map (Prod.map id Option.isSome) =
      Keyed.ofEntries (bindings.map fun binding => (binding.name, binding.value.isSome)) := by
  have hfold : ∀ before : Keyed String (Option String),
      (bindings.foldl (bindNext environment) before).map (Prod.map id Option.isSome) =
        (bindings.map fun binding => (binding.name, binding.value.isSome)).foldl
          (fun known entry => Keyed.put entry.1 entry.2 known)
          (before.map (Prod.map id Option.isSome)) := by
    induction bindings with
    | nil => intro before; rfl
    | cons binding rest ih =>
      intro before
      rw [List.foldl_cons, ih, bindNext, Keyed.map_put, Option.isSome_map]
      rfl
  exact hfold []

end EnvFile

namespace Environment

/-- A later environment extends an earlier one if every name keeps the value that it
has. -/
def Extends (later earlier : Environment) : Prop :=
  ∀ name value, Keyed.get? name earlier = some value → Keyed.get? name later = some value

/-- An environment extends itself. -/
theorem Extends.refl (environment : Environment) : environment.Extends environment :=
  fun _ _ h => h

/-- What is kept twice is kept. -/
theorem Extends.trans {last later earlier : Environment} (h : later.Extends earlier)
    (h' : last.Extends later) : last.Extends earlier :=
  fun name value hv => h' name value (h name value hv)

/-- The environment has a value for every name that is given one. -/
def Knows (environment : Environment) (values : List (String × Option String)) : Prop :=
  ∀ binding ∈ values, binding.2.isSome → (Keyed.get? binding.1 environment).isSome

/-- Whether all names are known depends on which names are given values, not on the
values. -/
theorem Knows.of_map_isSome {environment : Environment}
    {values others : List (String × Option String)} (h : environment.Knows values)
    (hnames : others.map (Prod.map id Option.isSome) =
      values.map (Prod.map id Option.isSome)) : environment.Knows others := by
  intro binding hb hsome
  have hmem : (binding.1, binding.2.isSome) ∈ values.map (Prod.map id Option.isSome) := by
    rw [← hnames]
    exact List.mem_map_of_mem hb
  obtain ⟨given, hg, heq⟩ := List.mem_map.mp hmem
  obtain ⟨hname, hvalue⟩ := Prod.mk.inj heq
  have hknown := h given hg (hvalue.trans hsome)
  rwa [show given.1 = binding.1 from hname] at hknown

/-- Setting a variable puts its value into the environment. -/
theorem eq_put_of_set {environment later : Environment} {name value : String}
    (h : environment.set name value = .ok later) : later = Keyed.put name value environment := by
  unfold set at h
  split at h
  · cases h
  · split at h
    · cases h
    · split at h
      · cases h
      · exact (Except.ok.inj h).symm

/-- A name with a value keeps it. -/
theorem provide_of_isSome {environment : Environment} {name : String} (value : Option String)
    (h : (Keyed.get? name environment).isSome) :
    environment.provide name value = .ok environment := by
  obtain ⟨known, hk⟩ := Option.isSome_iff_exists.mp h
  simp only [provide, hk]

/-- A name that is given no value changes nothing. -/
theorem provide_none (environment : Environment) (name : String) :
    environment.provide name none = .ok environment := by
  cases h : Keyed.get? name environment <;> simp [provide, h]

/-- A value for a name that lacks one leaves all other names alone. -/
theorem provide_extends {environment later : Environment} {name : String}
    {value : Option String} (h : environment.provide name value = .ok later) :
    later.Extends environment := by
  cases hname : Keyed.get? name environment with
  | some known =>
    rw [provide_of_isSome value (by rw [hname]; rfl)] at h
    obtain rfl := Except.ok.inj h
    exact Extends.refl _
  | none =>
    cases value with
    | none =>
      rw [provide_none] at h
      obtain rfl := Except.ok.inj h
      exact Extends.refl _
    | some given =>
      simp only [provide, hname] at h
      obtain rfl := eq_put_of_set h
      intro other known hknown
      have hne : other ≠ name := by
        rintro rfl
        rw [hname] at hknown
        cases hknown
      rw [Keyed.get?_put, if_neg hne, hknown]

/-- A name that is given a value has one afterwards. -/
theorem isSome_of_provide {environment later : Environment} {name value : String}
    (h : environment.provide name (some value) = .ok later) :
    (Keyed.get? name later).isSome := by
  cases hname : Keyed.get? name environment with
  | some known => rw [provide_extends h name known hname]; rfl
  | none =>
    simp only [provide, hname] at h
    rw [eq_put_of_set h, Keyed.get?_put, if_pos rfl]
    rfl

/-- Values for the names that lack them leave all other names alone, whether one of them
is refused or not. -/
theorem provideAll_extends (values : List (String × Option String)) :
    ∀ environment : Environment, (environment.provideAll values).1.Extends environment := by
  induction values with
  | nil => exact Extends.refl
  | cons binding rest ih =>
    obtain ⟨name, value⟩ := binding
    intro environment
    cases h : environment.provide name value with
    | error failure =>
      rw [provideAll, h]
      exact Extends.refl environment
    | ok more =>
      rw [provideAll, h]
      exact (provide_extends h).trans (ih more)

/-- If no value is refused, every name that is given one has one afterwards. -/
theorem knows_provideAll (values : List (String × Option String)) :
    ∀ environment : Environment, (environment.provideAll values).2 = none →
      (environment.provideAll values).1.Knows values := by
  induction values with
  | nil => exact fun _ _ _ hb => absurd hb List.not_mem_nil
  | cons binding rest ih =>
    obtain ⟨name, value⟩ := binding
    intro environment hnone
    cases h : environment.provide name value with
    | error failure =>
      rw [provideAll, h] at hnone
      cases hnone
    | ok more =>
      rw [provideAll, h] at hnone ⊢
      intro given hg hsome
      rcases List.mem_cons.mp hg with rfl | hrest
      · obtain ⟨content, rfl⟩ := Option.isSome_iff_exists.mp hsome
        obtain ⟨known, hknown⟩ := Option.isSome_iff_exists.mp (isSome_of_provide h)
        rw [provideAll_extends rest more name known hknown]
        rfl
      · exact ih more hnone given hrest hsome

/-- If all names are known, nothing is left to set. -/
theorem provideAll_of_knows {environment : Environment}
    {values : List (String × Option String)} (h : environment.Knows values) :
    environment.provideAll values = (environment, none) := by
  induction values with
  | nil => rfl
  | cons binding rest ih =>
    obtain ⟨name, value⟩ := binding
    have hsame : environment.provide name value = .ok environment := by
      cases value with
      | none => exact provide_none environment name
      | some given => exact provide_of_isSome _ (h _ (.head _) rfl)
    rw [provideAll, hsame]
    exact ih fun given hg => h given (.tail _ hg)

end Environment

namespace Settings

/-- The environment takes the values of a file if it refuses none of them. A file that
cannot be read gives none. -/
def Takes (environment : Environment) (files : FileTree)
    (path : Except Failure (Option GivenPath)) : Prop :=
  ∀ values, fileValues environment files path = .ok values →
    (environment.provideAll values).2 = none

/-- Where files are forbidden, none gives a value. -/
theorem fileValues_of_forbids {environment : Environment} (h : environment.forbidsFiles = true)
    (files : FileTree) (path : Except Failure (Option GivenPath)) :
    fileValues environment files path = .ok [] := by
  unfold fileValues
  rw [if_pos h]

/-- A file that has been read gives values to the same names in every environment, unless
the environment forbids to read it. -/
theorem knows_of_fileValues {environment later : Environment} {files : FileTree}
    {path : Except Failure (Option GivenPath)} {values : List (String × Option String)}
    (h : fileValues environment files path = .ok values) (hk : later.Knows values)
    (hforbids : environment.forbidsFiles = true → later = environment) :
    ∃ others, fileValues later files path = .ok others ∧ later.Knows others := by
  have hempty : later.Knows [] := fun _ hb => absurd hb List.not_mem_nil
  cases hl : later.forbidsFiles with
  | true => exact ⟨[], fileValues_of_forbids hl files path, hempty⟩
  | false =>
    have he : environment.forbidsFiles = false := by
      cases hf : environment.forbidsFiles with
      | false => rfl
      | true => rw [hforbids hf, hf] at hl; cases hl
    simp only [fileValues, he, hl, Bool.false_eq_true, if_false] at h ⊢
    cases path with
    | error failure => cases h
    | ok place =>
      cases place with
      | none => exact ⟨[], rfl, hempty⟩
      | some place =>
        simp only [valuesAt] at h ⊢
        split at h
        · next content hfile =>
          cases htext : EnvFile.textOf content with
          | error failure =>
            rw [htext] at h
            cases h
          | ok text =>
            rw [htext] at h
            obtain rfl := Except.ok.inj h
            refine ⟨_, rfl, hk.of_map_isSome ?_⟩
            rw [EnvFile.map_isSome_resolve, EnvFile.map_isSome_resolve]
        · exact ⟨[], rfl, hempty⟩

variable {path : Except Failure (Option GivenPath)} {w again : World}

section Reading

variable {read : Reader}

/-- A file is read first, and nothing is changed if that fails. Then its values are set up
to the first that is refused. -/
theorem runIn_applyBy (read : Reader) (path : Except Failure (Option GivenPath)) (w : World) :
    (applyBy read path).runIn w =
      match read w.environment w.files path with
      | .error failure => (.error failure, w)
      | .ok values =>
        ((w.environment.provideAll values).2.elim (.ok ()) .error,
          { w with environment := (w.environment.provideAll values).1 }) := by
  rw [applyBy, Action.runIn_bind_of_ok (Action.runIn_get w)]
  cases hv : read w.environment w.files path with
  | error failure => rw [Action.runIn_bind_of_error (Action.runIn_ofResult _ w)]
  | ok values =>
    rw [Action.runIn_bind_of_ok (Action.runIn_ofResult _ w)]
    cases hf : w.environment.provideAll values with
    | mk environment failure =>
      rw [Action.runIn_bind_of_ok (Action.runIn_set _ w)]
      cases failure <;> simp only [hf] <;> rfl

/-- A load past its file answers the settings of the environment. -/
theorem runIn_loadBy_of_ok {after : World} (h : (applyBy read path).runIn w = (.ok (), after)) :
    (loadBy read path).runIn w = (ofEnvironment after.environment, after) := by
  rw [loadBy, Action.runIn_bind_of_ok h, Action.runIn_bind_of_ok (Action.runIn_get after)]
  rfl

/-- A load fails as its file does. -/
theorem runIn_loadBy_of_error {failure : Failure} {after : World}
    (h : (applyBy read path).runIn w = (.error failure, after)) :
    (loadBy read path).runIn w = (.error failure, after) :=
  Action.runIn_bind_of_error h

/-- The world after a load is the world after its file. -/
theorem runIn_loadBy_snd (read : Reader) (path : Except Failure (Option GivenPath)) (w : World) :
    ((loadBy read path).runIn w).2 = ((applyBy read path).runIn w).2 := by
  rcases h : (applyBy read path).runIn w with ⟨failure | _, after⟩
  · rw [runIn_loadBy_of_error h]
  · rw [runIn_loadBy_of_ok h]

/-- The bindings of a file change nothing but the environment, and there no name that has
a value. -/
theorem exists_runIn_applyBy (read : Reader) (path : Except Failure (Option GivenPath))
    (w : World) :
    ∃ environment : Environment, environment.Extends w.environment ∧
      ((applyBy read path).runIn w).2 = { w with environment := environment } := by
  rw [runIn_applyBy]
  cases read w.environment w.files path with
  | error failure => exact ⟨w.environment, .refl _, rfl⟩
  | ok values => exact ⟨_, Environment.provideAll_extends values _, rfl⟩

/-- A load changes nothing but the environment, and there no name that has a value. -/
theorem exists_runIn_loadBy (read : Reader) (path : Except Failure (Option GivenPath))
    (w : World) :
    ∃ environment : Environment, environment.Extends w.environment ∧
      ((loadBy read path).runIn w).2 = { w with environment := environment } := by
  rw [runIn_loadBy_snd]
  exact exists_runIn_applyBy read path w

end Reading

/-- A file is read and applied as its values are. -/
theorem runIn_applyFile (path : Except Failure (Option GivenPath)) (w : World) :
    (applyFile path).runIn w =
      match fileValues w.environment w.files path with
      | .error failure => (.error failure, w)
      | .ok values =>
        ((w.environment.provideAll values).2.elim (.ok ()) .error,
          { w with environment := (w.environment.provideAll values).1 }) :=
  runIn_applyBy fileValues path w

/-- A load past its file answers the settings of the environment. -/
theorem runIn_loadFrom_of_ok {after : World} (h : (applyFile path).runIn w = (.ok (), after)) :
    (loadFrom path).runIn w = (ofEnvironment after.environment, after) :=
  runIn_loadBy_of_ok h

/-- A load fails as its file does. -/
theorem runIn_loadFrom_of_error {failure : Failure} {after : World}
    (h : (applyFile path).runIn w = (.error failure, after)) :
    (loadFrom path).runIn w = (.error failure, after) :=
  runIn_loadBy_of_error h

/-- The world after a load is the world after its file. -/
theorem runIn_loadFrom_snd (path : Except Failure (Option GivenPath)) (w : World) :
    ((loadFrom path).runIn w).2 = ((applyFile path).runIn w).2 :=
  runIn_loadBy_snd fileValues path w

/-- The bindings of a file change nothing but the environment, and there no name that has
a value. -/
theorem exists_runIn_applyFile (path : Except Failure (Option GivenPath)) (w : World) :
    ∃ environment : Environment, environment.Extends w.environment ∧
      ((applyFile path).runIn w).2 = { w with environment := environment } :=
  exists_runIn_applyBy fileValues path w

/-- A load changes nothing but the environment, and there no name that has a value. -/
theorem exists_runIn_loadFrom (path : Except Failure (Option GivenPath)) (w : World) :
    ∃ environment : Environment, environment.Extends w.environment ∧
      ((loadFrom path).runIn w).2 = { w with environment := environment } :=
  exists_runIn_loadBy fileValues path w

/-- A load that succeeds has set all values of its file. -/
theorem takes_of_loadFrom {path : Except Failure (Option GivenPath)} {w after : World}
    {settings : Settings} (h : (loadFrom path).runIn w = (.ok settings, after)) :
    Takes w.environment w.files path := by
  intro values hv
  obtain ⟨⟨⟩, between, happly, -⟩ := Action.runIn_bind_eq_ok h
  have hrun := runIn_applyFile path w
  rw [hv] at hrun
  cases hf : (w.environment.provideAll values).2 with
  | none => rfl
  | some failure =>
    have hfails : (applyFile path).runIn w =
        (.error failure, { w with environment := (w.environment.provideAll values).1 }) := by
      rw [hrun]
      simp only [hf]
      rfl
    cases hfails.symm.trans happly

/-- A file that is done again finds all its names set. -/
theorem runIn_applyFile_again (htakes : Takes w.environment w.files path)
    (hfiles : again.files = w.files)
    (henv : again.environment = ((applyFile path).runIn w).2.environment) :
    (applyFile path).runIn again = (((applyFile path).runIn w).1, again) := by
  rw [runIn_applyFile path w] at henv ⊢
  rw [runIn_applyFile path again, hfiles]
  cases hv : fileValues w.environment w.files path with
  | error failure =>
    rw [hv] at henv
    rw [henv, hv]
  | ok values =>
    rw [hv] at henv
    have hnone : (w.environment.provideAll values).2 = none := htakes values hv
    have hknows : again.environment.Knows values := by
      rw [henv]
      exact Environment.knows_provideAll values _ hnone
    have hforbids : w.environment.forbidsFiles = true →
        again.environment = w.environment := by
      intro hf
      rw [fileValues_of_forbids hf] at hv
      obtain rfl := Except.ok.inj hv
      exact henv
    obtain ⟨others, hothers, hk⟩ := knows_of_fileValues hv hknows hforbids
    rw [hothers]
    simp only [Environment.provideAll_of_knows hk, hnone, ← hfiles]

/-- A load that is done again has the same result and changes nothing, if the environment
took the values of the file and the files are the same. -/
theorem runIn_loadFrom_again (htakes : Takes w.environment w.files path)
    (hfiles : again.files = w.files)
    (henv : again.environment = ((loadFrom path).runIn w).2.environment) :
    (loadFrom path).runIn again = (((loadFrom path).runIn w).1, again) := by
  rw [runIn_loadFrom_snd] at henv
  have happlied := runIn_applyFile_again htakes hfiles henv
  rcases h : (applyFile path).runIn w with ⟨failure | _, after⟩
  · rw [h] at happlied
    rw [runIn_loadFrom_of_error h, runIn_loadFrom_of_error happlied]
  · rw [h] at happlied henv
    rw [runIn_loadFrom_of_ok h, runIn_loadFrom_of_ok happlied, henv]

/-- The settings of an environment depend on two names. -/
theorem ofEnvironment_congr {environment other : Environment}
    (hlevel : Keyed.get? levelName environment = Keyed.get? levelName other)
    (hdirectory : Keyed.get? directoryName environment = Keyed.get? directoryName other) :
    ofEnvironment environment = ofEnvironment other := by
  rw [ofEnvironment, ofEnvironment, hlevel, hdirectory]

/-- Both settings are in the environment. -/
structure Bound (environment : Environment) : Prop where
  /-- There is a log level. -/
  level : (Keyed.get? levelName environment).isSome
  /-- There is a directory for transcripts. -/
  directory : (Keyed.get? directoryName environment).isSome

/-- Settings that are in the environment stay in it. -/
theorem Bound.mono {environment later : Environment} (hb : Bound environment)
    (h : later.Extends environment) : Bound later := by
  obtain ⟨level, hl⟩ := Option.isSome_iff_exists.mp hb.level
  obtain ⟨directory, hd⟩ := Option.isSome_iff_exists.mp hb.directory
  exact ⟨by rw [h _ _ hl]; rfl, by rw [h _ _ hd]; rfl⟩

/-- Settings that are in the environment stay the same while it is extended. -/
theorem ofEnvironment_of_extends {environment later : Environment} (hb : Bound environment)
    (h : later.Extends environment) : ofEnvironment later = ofEnvironment environment := by
  obtain ⟨level, hl⟩ := Option.isSome_iff_exists.mp hb.level
  obtain ⟨directory, hd⟩ := Option.isSome_iff_exists.mp hb.directory
  exact ofEnvironment_congr (by rw [h _ _ hl, hl]) (by rw [h _ _ hd, hd])

/-- A load that gets past its file has the settings that are in the environment, whatever
the file holds. -/
theorem runIn_loadFrom_of_bound (hb : Bound w.environment)
    (hpast : ((applyFile path).runIn w).1 = .ok ()) :
    ((loadFrom path).runIn w).1 = ofEnvironment w.environment := by
  obtain ⟨environment, hext, hafter⟩ := exists_runIn_applyFile path w
  rcases h : (applyFile path).runIn w with ⟨failure | _, after⟩
  · rw [h] at hpast
    cases hpast
  · rw [h] at hafter
    obtain rfl : after = { w with environment := environment } := hafter
    rw [runIn_loadFrom_of_ok h, ofEnvironment_of_extends hb hext]

end Settings

end TlsTranscript
