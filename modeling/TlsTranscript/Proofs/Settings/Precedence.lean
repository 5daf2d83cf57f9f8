import TlsTranscript.Proofs.Session.Variables

/-!
# Environment over file over default

Settings are decided by the environment first, then by an environment file, then by their
defaults. A name with an empty value is set like any other; a name that a file mentions
without a value is not. The level is what is left of its setting without the blanks around it,
in upper case, and it is either one of the known levels or refused. A load never takes a
variable away, and what it returns can always be used to set up logging.
-/

namespace TlsTranscript

namespace Keyed

variable {κ α : Type} [DecidableEq κ]

/-- A put adds its key to the others. -/
theorem mem_keys_put {key other : κ} {value : α} {entries : Keyed κ α} :
    other ∈ (put key value entries).map Prod.fst ↔
      other = key ∨ other ∈ entries.map Prod.fst := by
  induction entries with
  | nil => simp [put]
  | cons entry rest ih =>
    by_cases h : key = entry.1
    · simp [put, h]
    · simp [put, h, ih, or_left_comm]

/-- A put keeps every key apart from the others. -/
theorem nodup_put {key : κ} {value : α} {entries : Keyed κ α}
    (h : (entries.map Prod.fst).Nodup) : ((put key value entries).map Prod.fst).Nodup := by
  induction entries with
  | nil => simp [put]
  | cons entry rest ih =>
    obtain ⟨hentry, hrest⟩ := List.nodup_cons.mp h
    by_cases hkey : key = entry.1
    · simpa [put, hkey] using h
    · have hother : entry.1 ∉ (put key value rest).map Prod.fst := fun hmem =>
        (mem_keys_put.mp hmem).elim (fun heq => hkey heq.symm) hentry
      simpa only [put, if_neg hkey, List.map_cons, List.nodup_cons] using ⟨hother, ih hrest⟩

/-- Under a key that is not there nothing is found. -/
theorem get?_of_not_mem {key : κ} {entries : Keyed κ α} (h : key ∉ entries.map Prod.fst) :
    get? key entries = none := by
  induction entries with
  | nil => rfl
  | cons entry rest ih =>
    rw [List.map_cons, List.mem_cons, not_or] at h
    rw [get?, if_neg h.1, ih h.2]

end Keyed

/-- A file binds every name once. -/
theorem EnvFile.nodup_resolve (environment : Keyed String String) (bindings : List Binding) :
    ((resolve environment bindings).map Prod.fst).Nodup := by
  have hfold : ∀ before : Keyed String (Option String), (before.map Prod.fst).Nodup →
      ((bindings.foldl (bindNext environment) before).map Prod.fst).Nodup := by
    induction bindings with
    | nil => exact fun _ h => h
    | cons binding rest ih => exact fun before h => ih _ (Keyed.nodup_put h)
  exact hfold [] List.nodup_nil

namespace Environment

/-- A name that is provided with a value has the value unless it has one already. -/
theorem get?_provide {environment later : Environment} {name : String} {value : Option String}
    (h : environment.provide name value = .ok later) (other : String) :
    Keyed.get? other later =
      (Keyed.get? other environment).or (if other = name then value else none) := by
  cases hname : Keyed.get? name environment with
  | some known =>
    rw [provide_of_isSome value (by rw [hname]; rfl)] at h
    obtain rfl := Except.ok.inj h
    by_cases ho : other = name
    · rw [ho, hname, Option.some_or]
    · rw [if_neg ho, Option.or_none]
  | none =>
    cases value with
    | none =>
      rw [provide_none] at h
      obtain rfl := Except.ok.inj h
      rw [ite_self, Option.or_none]
    | some given =>
      simp only [provide, hname] at h
      rw [eq_put_of_set h, Keyed.get?_put]
      by_cases ho : other = name
      · rw [if_pos ho, if_pos ho, ho, hname, Option.none_or]
      · rw [if_neg ho, if_neg ho, Option.or_none]

/-- Names that are all provided with their values have these values unless they have some
already. -/
theorem get?_provideAll {values : List (String × Option String)}
    (hnodup : (values.map Prod.fst).Nodup) {environment : Environment}
    (h : (environment.provideAll values).2 = none) (name : String) :
    Keyed.get? name (environment.provideAll values).1 =
      (Keyed.get? name environment).or (Keyed.get? name values).join := by
  induction values generalizing environment with
  | nil => exact (Option.or_none).symm
  | cons binding rest ih =>
    obtain ⟨hfirst, hrest⟩ := List.nodup_cons.mp hnodup
    cases hprovide : environment.provide binding.1 binding.2 with
    | error failure =>
      rw [provideAll, hprovide] at h
      cases h
    | ok more =>
      rw [provideAll, hprovide] at h ⊢
      rw [ih hrest h, get?_provide hprovide, Option.or_assoc, Keyed.get?]
      by_cases hname : name = binding.1
      · rw [if_pos hname, if_pos hname, hname, Keyed.get?_of_not_mem hfirst]
        cases binding.2 <;> rfl
      · rw [if_neg hname, if_neg hname, Option.none_or]

end Environment

/-- A text is a core between characters of a class, and no end of the core is of the class. -/
structure Text.Trims (drop : Char → Bool) (text core : List Char) : Prop where
  /-- All that is left out is of the class and stands at the ends. -/
  around : ∃ left right, text = left ++ core ++ right ∧ ∀ c ∈ left ++ right, drop c = true
  /-- The core does not begin with the class. -/
  first : ∀ c ∈ core.head?, drop c = false
  /-- The core does not end with the class. -/
  last : ∀ c ∈ core.getLast?, drop c = false

/-- A trimmed text is the core of the text. -/
theorem Text.trims_trim (drop : Char → Bool) (text : List Char) :
    Trims drop text (trim drop text) := by
  have hends : ∀ characters : List Char, ∀ c ∈ (characters.dropWhile drop).head?,
      drop c = false := by
    intro characters c hc
    have hhead := List.head?_dropWhile_not drop characters
    rwa [hc] at hhead
  obtain ⟨inner, hinner⟩ : ∃ inner, inner = text.dropWhile drop := ⟨_, rfl⟩
  have hcore : inner = trim drop text ++ (inner.reverse.takeWhile drop).reverse := by
    rw [trim, trimEnd, ← hinner, ← List.reverse_append, List.takeWhile_append_dropWhile,
      List.reverse_reverse]
  constructor
  · refine ⟨text.takeWhile drop, (inner.reverse.takeWhile drop).reverse, ?_, fun c hc => ?_⟩
    · rw [List.append_assoc, ← hcore, hinner, List.takeWhile_append_dropWhile]
    · rcases List.mem_append.mp hc with hleft | hright
      · exact List.all_eq_true.mp List.all_takeWhile c hleft
      · exact List.all_eq_true.mp List.all_takeWhile c (List.mem_reverse.mp hright)
  · intro c hc
    refine hends text c ?_
    rw [← hinner, hcore, List.head?_append, Option.mem_def.mp hc, Option.some_or]
    exact Option.mem_some_self c
  · intro c hc
    rw [trim, trimEnd, List.getLast?_reverse] at hc
    exact hends _ c hc

namespace Settings

/-- What is chosen for a name: the value that the environment holds, else the one that a file
gives, else a default. -/
def chosen (environment : Environment) (values : Keyed String (Option String))
    (name default : String) : String :=
  match Keyed.get? name environment with
  | some value => value
  | none =>
    match Keyed.get? name values with
    | some (some value) => value
    | _ => default

/-- The values of a file are given to one name each. -/
theorem nodup_fileValues {environment : Environment} {files : FileTree}
    {path : Except Failure (Option GivenPath)} {values : Keyed String (Option String)}
    (h : fileValues environment files path = .ok values) : (values.map Prod.fst).Nodup := by
  unfold fileValues valuesAt at h
  split at h
  · obtain rfl := Except.ok.inj h
    exact List.nodup_nil
  split at h
  · split at h
    · next content hfile =>
      cases htext : EnvFile.textOf content with
      | error failure =>
        rw [htext] at h
        cases h
      | ok text =>
        rw [htext] at h
        obtain rfl := Except.ok.inj h
        exact EnvFile.nodup_resolve environment _
    · obtain rfl := Except.ok.inj h
      exact List.nodup_nil
  · obtain rfl := Except.ok.inj h
    exact List.nodup_nil
  · cases h

/-- What is found after a file is what is chosen. -/
theorem getD_get?_provideAll {environment : Environment} {values : Keyed String (Option String)}
    (hnodup : (values.map Prod.fst).Nodup) (h : (environment.provideAll values).2 = none)
    (name default : String) :
    (Keyed.get? name (environment.provideAll values).1).getD default =
      chosen environment values name default := by
  rw [Environment.get?_provideAll hnodup h, chosen]
  cases Keyed.get? name environment with
  | some value => rfl
  | none =>
    cases Keyed.get? name values with
    | none => rfl
    | some given => cases given <;> rfl

/-- A load past its file answers what is chosen between the environment and the file. -/
theorem runIn_loadBy_of_values {read : Reader} {path : Except Failure (Option GivenPath)}
    {w : World} {values : Keyed String (Option String)}
    (h : read w.environment w.files path = .ok values) (hnodup : (values.map Prod.fst).Nodup)
    (hpast : ((applyBy read path).runIn w).1 = .ok ()) :
    ((loadBy read path).runIn w).1 =
      if levelOf (chosen w.environment values levelName "WARNING") ∈ levels then
        .ok ⟨levelOf (chosen w.environment values levelName "WARNING"),
          chosen w.environment values directoryName "transcripts"⟩
      else .error (.unknownLevel (levelOf (chosen w.environment values levelName "WARNING"))) := by
  have hrun := runIn_applyBy read path w
  rw [h] at hrun
  have hnone : (w.environment.provideAll values).2 = none := by
    rw [hrun] at hpast
    cases hfailure : (w.environment.provideAll values).2 with
    | none => rfl
    | some failure =>
      simp only [hfailure] at hpast
      cases hpast
  simp only [hnone] at hrun
  rw [runIn_loadBy_of_ok hrun]
  simp only [ofEnvironment, getD_get?_provideAll hnodup hnone, List.contains_iff_mem]

/-- Where no file is, nothing is given and nothing fails. -/
theorem runIn_applyFile_of_missing {path : GivenPath} {w : World}
    (h : ∀ content, w.files.find path.toOctets ≠ .ok (.file content)) :
    fileValues w.environment w.files (.ok (some path)) = .ok [] ∧
      (applyFile (.ok (some path))).runIn w = (.ok (), w) := by
  have hvalues : fileValues w.environment w.files (.ok (some path)) = .ok [] := by
    have hnothing : valuesAt w.environment w.files path = .ok [] := by
      unfold valuesAt
      split
      · next content hfile => exact absurd hfile (h content)
      · rfl
    unfold fileValues
    split
    · rfl
    · exact hnothing
  rw [runIn_applyFile, hvalues]
  exact ⟨rfl, rfl⟩

/-- A load that succeeds answers a known level. -/
theorem logLevel_of_loadBy {read : Reader} {path : Except Failure (Option GivenPath)} {w : World}
    {settings : Settings} (h : ((loadBy read path).runIn w).1 = .ok settings) :
    settings.logLevel ∈ levels := by
  rcases happly : (applyBy read path).runIn w with ⟨failure | _, after⟩
  · rw [runIn_loadBy_of_error happly] at h
    cases h
  · rw [runIn_loadBy_of_ok happly, ofEnvironment] at h
    dsimp only at h
    split at h
    · next hlevel =>
      rw [← Except.ok.inj h]
      exact List.contains_iff_mem.mp hlevel
    · cases h

end Settings

namespace Operation

/-- What a load of settings answers, and the world after it, are those of the load by its
reader. -/
theorem runIn_answerSettingsBy (read : Settings.Reader) (file : Datum) (w : World) :
    (answerSettingsBy read file).runIn w =
      (((Settings.loadBy read (settingsPath file)).runIn w).1.map fun settings =>
          .model (.settings settings),
        ((Settings.loadBy read (settingsPath file)).runIn w).2) := by
  rw [answerSettingsBy, Action.runIn_bind]
  rcases (Settings.loadBy read (settingsPath file)).runIn w with ⟨_ | settings, after⟩ <;> rfl

/-- Settings that a load returns come from its file. -/
theorem loadBy_of_answerSettingsBy {read : Settings.Reader} {file : Datum} {w : World}
    {settings : Settings}
    (h : ((answerSettingsBy read file).runIn w).1 = .ok (.model (.settings settings))) :
    ((Settings.loadBy read (settingsPath file)).runIn w).1 = .ok settings := by
  rw [runIn_answerSettingsBy] at h
  cases hanswer : ((Settings.loadBy read (settingsPath file)).runIn w).1 with
  | error failure =>
    simp only [hanswer] at h
    cases h
  | ok answered =>
    simp only [hanswer] at h
    injection h with hmodel
    injection hmodel with hcontent
    injection hcontent with hsettings
    rw [hsettings]

end Operation

/-- Settings are decided by the environment before the file and by the file before the
defaults, in whatever way the file is read, as long as it gives each name once. A load leaves
every variable alone, also where it fails, and a file that is not there is no failure. Whenever
the file is read and applied without a failure, each of the two settings is the value in the
environment, an empty one included, else the value that the file gives, else the default. The
level is the first of them without the blanks around it, in upper case; the settings are
returned if it is one of the eight levels, and otherwise the level is refused and quoted.
Settings that are returned set up logging at their level, wherever that is done. The operation
of a session reads its file by `Settings.fileValues`, which gives each name once. -/
theorem Operation.answerSettingsBy_precedence (read : Settings.Reader) (file : Datum)
    (w : World) :
    let load := (answerSettingsBy read file).runIn w
    let levels := ["CRITICAL", "FATAL", "ERROR", "WARN", "WARNING", "INFO", "DEBUG", "NOTSET"]
    load.2.environment.Extends w.environment ∧
    (((Settings.applyBy read (settingsPath file)).runIn w).1 = .ok () →
      ∃ values, read w.environment w.files (settingsPath file) = .ok values ∧
        ((values.map Prod.fst).Nodup →
          let chosen := Settings.chosen w.environment values
          let setting := chosen "TLSDEBUG_LOG_LEVEL" "WARNING"
          let level := Settings.levelOf setting
          (∃ core, Text.Trims Text.isBlank setting.toList core ∧
            level = String.ofList (Text.upper core)) ∧
          (level ∈ levels → load.1 =
            .ok (.model (.settings ⟨level, chosen "TLSDEBUG_TRANSCRIPT_DIR" "transcripts"⟩))) ∧
          (level ∉ levels → load.1 = .error (.unknownLevel level) ∧
            (Failure.unknownLevel level).message =
              "TLSDEBUG_LOG_LEVEL: unknown level " ++ Text.quoted level))) ∧
    (∀ settings, load.1 = .ok (.model (.settings settings)) → settings.logLevel ∈ levels ∧
      ∀ other : World, (Step.levelFor (.model (.settings settings))).runIn other =
        (.ok (.text settings.logLevel), other)) ∧
    (loadSettings.run [file] = answerSettingsBy Settings.fileValues file ∧
      (∀ values, Settings.fileValues w.environment w.files (settingsPath file) = .ok values →
        (values.map Prod.fst).Nodup) ∧
      ∀ path, settingsPath file = .ok (some path) →
        (∀ content, w.files.find path.toOctets ≠ .ok (.file content)) →
          Settings.fileValues w.environment w.files (settingsPath file) = .ok [] ∧
            ((Settings.applyFile (settingsPath file)).runIn w).1 = .ok ()) := by
  intro load levels
  have hload : load = _ := runIn_answerSettingsBy read file w
  refine ⟨?_, fun hpast => ?_, fun settings hsettings => ?_, rfl,
    fun values => Settings.nodup_fileValues, fun path hpath hmissing => ?_⟩
  · obtain ⟨environment, hext, hafter⟩ :=
      Settings.exists_runIn_loadBy read (settingsPath file) w
    rw [hload]
    dsimp only
    rw [hafter]
    exact hext
  · cases hvalues : read w.environment w.files (settingsPath file) with
    | error failure =>
      rw [Settings.runIn_applyBy, hvalues] at hpast
      cases hpast
    | ok values =>
      refine ⟨values, rfl, fun hnodup => ?_⟩
      intro chosen setting level
      have hanswer := Settings.runIn_loadBy_of_values hvalues hnodup hpast
      refine ⟨⟨_, Text.trims_trim Text.isBlank setting.toList, rfl⟩, fun hlevel => ?_,
        fun hlevel => ⟨?_, rfl⟩⟩
      · rw [hload, hanswer.trans (if_pos hlevel)]
        rfl
      · rw [hload, hanswer.trans (if_neg hlevel)]
        rfl
  · exact ⟨Settings.logLevel_of_loadBy (loadBy_of_answerSettingsBy hsettings), fun other => rfl⟩
  · obtain ⟨hvalues, happly⟩ := Settings.runIn_applyFile_of_missing hmissing
    rw [hpath]
    exact ⟨hvalues, congrArg Prod.fst happly⟩

/-- A file whose level stands between blanks that are none of ASCII, with a letter that is one
of ASCII only in upper case. -/
def Settings.unusualFile : String :=
  "TLSDEBUG_LOG_LEVEL='\u00a0\u0131nfo\u3000'\nTLSDEBUG_TRANSCRIPT_DIR=other\n"

/-- A world with this file and an environment. -/
def Settings.unusualWorld (environment : Environment) : World where
  files := [(.ofNames [Utf8.encode defaultFile], .file (Utf8.encode unusualFile))]
  environment := environment

/-- The level and the directory are those in the file; an empty directory in the environment
comes before the one in the file and stays. -/
theorem Operation.answerSettingsBy_precedence_unusual :
    let free := Settings.unusualWorld []
    let bound := Settings.unusualWorld [(Settings.directoryName, "")]
    Settings.fileValues free.environment free.files (settingsPath .absent) =
        .ok [("TLSDEBUG_LOG_LEVEL", some "\u00a0\u0131nfo\u3000"),
          ("TLSDEBUG_TRANSCRIPT_DIR", some "other")] ∧
      ((loadSettings.run [.absent]).runIn free).1 =
        .ok (.model (.settings ⟨"INFO", "other"⟩)) ∧
      ((loadSettings.run [.absent]).runIn bound).1 = .ok (.model (.settings ⟨"INFO", ""⟩)) ∧
      Keyed.get? Settings.directoryName
        ((loadSettings.run [.absent]).runIn bound).2.environment = some "" := by
  intro free bound
  have hread : ∀ w, w = free ∨ w = bound →
      Settings.fileValues w.environment w.files (settingsPath .absent) =
        .ok [("TLSDEBUG_LOG_LEVEL", some "\u00a0\u0131nfo\u3000"),
          ("TLSDEBUG_TRANSCRIPT_DIR", some "other")] := by
    rintro w (rfl | rfl) <;> rfl
  have hpast : ∀ w, w = free ∨ w = bound →
      ((Settings.applyBy Settings.fileValues (settingsPath .absent)).runIn w).1 = .ok () := by
    intro w hw
    rw [Settings.runIn_applyBy, hread w hw]
    rcases hw with rfl | rfl <;> rfl
  have hnodup : (["TLSDEBUG_LOG_LEVEL", "TLSDEBUG_TRANSCRIPT_DIR"] : List String).Nodup := by
    decide
  have hlevel : Settings.levelOf "\u00a0\u0131nfo\u3000" = "INFO" := by decide
  refine ⟨hread free (.inl rfl), ?_, ?_, ?_⟩
  · obtain ⟨-, hload, -, hrun, -⟩ :=
      answerSettingsBy_precedence Settings.fileValues .absent free
    obtain ⟨values, hgiven, hchosen⟩ := hload (hpast free (.inl rfl))
    obtain rfl := Except.ok.inj ((hread free (.inl rfl)).symm.trans hgiven)
    have hanswer := (hchosen hnodup).2.1 (hlevel ▸ by decide)
    rwa [hrun, ← hlevel]
  · obtain ⟨-, hload, -, hrun, -⟩ :=
      answerSettingsBy_precedence Settings.fileValues .absent bound
    obtain ⟨values, hgiven, hchosen⟩ := hload (hpast bound (.inr rfl))
    obtain rfl := Except.ok.inj ((hread bound (.inr rfl)).symm.trans hgiven)
    have hanswer := (hchosen hnodup).2.1 (hlevel ▸ by decide)
    rwa [hrun, ← hlevel]
  · obtain ⟨hext, -, -, hrun, -⟩ := answerSettingsBy_precedence Settings.fileValues .absent bound
    rw [hrun]
    exact hext Settings.directoryName "" rfl

end TlsTranscript
