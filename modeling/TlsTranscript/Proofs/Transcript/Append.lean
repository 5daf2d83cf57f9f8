import TlsTranscript.Proofs.Action
import TlsTranscript.Proofs.Files.Tree
import TlsTranscript.Proofs.Transcript.Lines

/-!
# Transcripts only grow

A call that appends lines makes the directories it needs, opens its file and adds
the lines up to the first one that cannot be written: a datum that is no text, or a
text with a surrogate. Whatever calls come in whatever order, every file that they
lead to holds what it held before and behind that what each call has written, and no
other file changes.
-/

namespace TlsTranscript

namespace Transcript

/-- A call that appends lines to a file with a name in a directory. -/
structure Call where
  /-- The lines. -/
  lines : List Line
  /-- The name of the file. -/
  name : Datum
  /-- The directory. -/
  directory : Datum

namespace Call

/-- What a call does. -/
def action (call : Call) : Action GivenPath :=
  appendRow (.ok call.lines) call.name call.directory

/-- The path that a call leads to. -/
def path? (call : Call) : Option GivenPath :=
  match call.directory.pathOperand with
  | .ok directory => (joinPath directory call.name).toOption
  | .error _ => none

/-- The place that a call leads to. -/
def place? (call : Call) : Option (List Bytes) := call.path?.map GivenPath.place

/-- What a call writes. -/
def written (call : Call) : Bytes := octetsOfLines (leadingTexts call.lines)

/-- The records of a call, one if all its lines can be written. -/
def records (call : Call) : List LogRecord :=
  if arePlain call.lines then
    (call.path?.map fun path => .transcriptWritten path.display).toList
  else []

/-- A call with a directory and a name of its own whose file can be opened once the
directory is made. -/
structure Opens (call : Call) (files : FileTree) : Prop where
  /-- The directory is given. -/
  directoryGiven : call.directory.isSomething = true
  /-- The name is given. -/
  nameGiven : call.name.isSomething = true
  /-- The directory can be made, and the file can be opened in it. -/
  opened : ∃ directory path found, call.directory.pathOperand = .ok directory ∧
    joinPath directory call.name = .ok path ∧
      (files.provideDirectories true directory).2 = none ∧
        (files.provideDirectories true directory).1.open? path = .ok found

end Call

/-- A given directory is taken as it is. -/
theorem runIn_directoryFor {directory : Datum} (h : directory.isSomething = true) (w : World) :
    (directoryFor directory).runIn w = (.ok directory, w) := by
  unfold directoryFor
  rw [if_pos h]
  rfl

/-- A given name is taken as it is. -/
theorem runIn_nameFor {name : Datum} (h : name.isSomething = true) (w : World) :
    (nameFor name).runIn w = (.ok name, w) := by
  unfold nameFor
  rw [if_pos h]
  rfl

/-- Making directories changes the files and fails as the files say. -/
theorem runIn_makeDirectories (welcome : Bool) (path : GivenPath) (w : World) :
    (makeDirectories welcome path).runIn w =
      ((w.files.provideDirectories welcome path).2.elim (.ok ⟨⟩) fun failure =>
          .error (failure.inCall "mkdir"),
        { w with files := (w.files.provideDirectories welcome path).1 }) := by
  unfold makeDirectories
  rw [Action.runIn_bind_of_ok (Action.runIn_get w)]
  rcases w.files.provideDirectories welcome path with ⟨files, _ | failure⟩ <;> rfl

/-- Adding lines at a path where a file can be opened. -/
theorem runIn_appendTo (w : World) {path : GivenPath} (row : Except Failure (List Line))
    {after : FileTree} (ha : w.files.append path (octetsOfLines (textsOf row)) = .ok after) :
    (appendTo path row).runIn w =
      match (linesOfRow row).2 with
      | none => (.ok path,
          { w with files := after, log := .transcriptWritten path.display :: w.log })
      | some failure => (.error failure, { w with files := after }) := by
  have hon : onFiles (w.files.append path (encode (linesOfRow row).1)) = pure after := by
    rw [encode_fst_linesOfRow, ha]
    rfl
  unfold appendTo
  rw [Action.runIn_bind_of_ok (Action.runIn_get w)]
  simp only [hon, pure_bind]
  rw [Action.runIn_bind_of_ok (Action.runIn_set _ w)]
  cases (linesOfRow row).2 <;> rfl

/-- What a call answers: its path, or the failure of its first line that cannot be
written. -/
def Call.result (call : Call) (path : GivenPath) : Except Failure GivenPath :=
  match (linesOf call.lines).2 with
  | none => .ok path
  | some failure => .error failure

/-- A call answers its path exactly if all its lines can be written. -/
theorem Call.result_eq_ok_iff (call : Call) (path : GivenPath) :
    call.result path = .ok path ↔ arePlain call.lines = true := by
  rw [← snd_linesOf_eq_none_iff, result]
  cases (linesOf call.lines).2 with
  | none => simp
  | some failure => simp

/-- A call that opens its file adds what it writes at the end of it, makes at most new
directories elsewhere, and answers and records what its lines make of it. -/
theorem Call.runIn_action {call : Call} (w : World) (h : call.Opens w.files) :
    ∃ path files, call.path? = some path ∧
      w.files.Appended files path call.written ∧
        call.action.runIn w =
          (call.result path, { w with files := files, log := call.records ++ w.log }) := by
  obtain ⟨directory, path, found, hd, hj, hmade, hopen⟩ := h.opened
  have hpath : call.path? = some path := by
    simp only [path?, hd, hj]
    rfl
  have hgrows := FileTree.provideDirectories_grows true w.files directory
  rcases hprovided : w.files.provideDirectories true directory with ⟨made, failure⟩
  rw [hprovided] at hmade hopen hgrows
  obtain rfl : failure = none := hmade
  obtain ⟨files, ha, happended⟩ := FileTree.appended_of_grows hgrows hopen call.written
  refine ⟨path, files, hpath, happended, ?_⟩
  have hmake : (makeDirectories true directory).runIn w =
      (.ok ⟨⟩, { w with files := made }) := by
    rw [runIn_makeDirectories, hprovided]
    rfl
  have hdo : (Action.ofResult call.directory.pathOperand).runIn w = (.ok directory, w) := by
    rw [Action.runIn_ofResult, hd]
  have hjoin : ∀ v : World,
      (Action.ofResult (joinPath directory call.name)).runIn v = (.ok path, v) := fun v => by
    rw [Action.runIn_ofResult, hj]
  have hlines : linesOfRow (.ok call.lines) = linesOf call.lines := rfl
  unfold action appendRow
  rw [Action.runIn_bind_of_ok (runIn_directoryFor h.directoryGiven w),
    Action.runIn_bind_of_ok (runIn_nameFor h.nameGiven w), Action.runIn_bind_of_ok hdo,
    Action.runIn_bind_of_ok hmake,
    Action.runIn_bind_of_ok (hjoin _), runIn_appendTo { w with files := made } (.ok _) ha,
    hlines]
  have htexts := snd_linesOf_eq_none_iff call.lines
  unfold result records
  cases hl : (linesOf call.lines).2 with
  | none =>
    rw [if_pos (htexts.mp hl), hpath]
    rfl
  | some failure =>
    have hnot : ¬arePlain call.lines = true := fun ht => by
      rw [htexts.mpr ht] at hl
      cases hl
    rw [if_neg hnot]
    rfl

/-- Calls one after the other, whether they fail or not: their answers, and the world
after the last one. -/
def runCalls : List Call → World → List (Except Failure GivenPath) × World
  | [], w => ([], w)
  | call :: rest, w =>
    let (result, after) := call.action.runIn w
    let (results, last) := runCalls rest after
    (result :: results, last)

/-- Calls that open their files, each in the world that the calls before it have
left. -/
def AllOpen : List Call → World → Prop
  | [], _ => True
  | call :: rest, w => call.Opens w.files ∧ AllOpen rest (call.action.runIn w).2

/-- A call of such a run leads to a path. -/
theorem AllOpen.exists_path {calls : List Call} {w : World} (h : AllOpen calls w) {call : Call}
    (hm : call ∈ calls) : ∃ path, call.path? = some path := by
  induction calls generalizing w with
  | nil => cases hm
  | cons first rest ih =>
    rcases List.mem_cons.mp hm with rfl | hm
    · obtain ⟨path, -, hpath, -⟩ := Call.runIn_action w h.1
      exact ⟨path, hpath⟩
    · exact ih h.2 hm

/-- What calls write to a place, call by call. -/
def writtenTo (calls : List Call) (names : List Bytes) : Bytes :=
  (calls.filter fun call => call.place? = some names).flatMap Call.written

/-- After a run every place holds what it held and behind that what the calls that
lead to it have written. -/
theorem contentAt_runCalls {calls : List Call} {w : World} (h : AllOpen calls w)
    (names : List Bytes) :
    (runCalls calls w).2.files.contentAt names =
      w.files.contentAt names ++ writtenTo calls names := by
  induction calls generalizing w with
  | nil => simp [runCalls, writtenTo]
  | cons call rest ih =>
    obtain ⟨path, files, hpath, happended, hrun⟩ := Call.runIn_action w h.1
    have hplace : call.place? = some path.place := by rw [Call.place?, hpath, Option.map_some]
    have hrest := ih h.2
    have hfinal : (runCalls (call :: rest) w).2 = (runCalls rest (call.action.runIn w).2).2 := rfl
    rw [hfinal, hrest, hrun, writtenTo, writtenTo, List.filter_cons, hplace]
    by_cases hn : path.place = names
    · rw [if_pos (by rw [hn, decide_eq_true_eq]), List.flatMap_cons, ← List.append_assoc, ← hn,
        happended.contentAt_place]
    · rw [if_neg (by simpa using hn), happended.contentAt_of_ne (Ne.symm hn)]

/-- A call that opens its file leaves a file at its place and keeps every file that was
there. -/
theorem Call.lookup?_action {call : Call} {w : World} (h : call.Opens w.files)
    {names : List Bytes}
    (hf : (∃ content, w.files.lookup? names = some (.file content)) ∨ call.place? = some names) :
    ∃ content, (call.action.runIn w).2.files.lookup? names = some (.file content) := by
  obtain ⟨path, files, hpath, happended, hrun⟩ := Call.runIn_action w h
  rw [hrun]
  by_cases hn : names = path.place
  · exact ⟨_, hn ▸ happended.file⟩
  · rcases hf with ⟨content, he⟩ | hp
    · exact ⟨content, (happended.file_iff hn content).mpr he⟩
    · rw [place?, hpath, Option.map_some] at hp
      exact absurd (Option.some.inj hp).symm hn

/-- A file stays a file, and a place that a call leads to is one after the run. -/
theorem lookup?_runCalls {calls : List Call} {w : World} (h : AllOpen calls w)
    {names : List Bytes}
    (hf : (∃ content, w.files.lookup? names = some (.file content)) ∨
      ∃ call ∈ calls, call.place? = some names) :
    ∃ content, (runCalls calls w).2.files.lookup? names = some (.file content) := by
  induction calls generalizing w with
  | nil =>
    rcases hf with hf | ⟨call, hc, -⟩
    · exact hf
    · cases hc
  | cons call rest ih =>
    refine ih h.2 ?_
    rcases hf with hf | ⟨other, hm, hp⟩
    · exact .inl (Call.lookup?_action h.1 (.inl hf))
    · rcases List.mem_cons.mp hm with rfl | hm
      · exact .inl (Call.lookup?_action h.1 (.inr hp))
      · exact .inr ⟨other, hm, hp⟩

/-- Files that no call leads to stay as they are, and no other files come to be. -/
theorem file_runCalls_iff {calls : List Call} {w : World} (h : AllOpen calls w)
    {names : List Bytes} (hn : ∀ call ∈ calls, call.place? ≠ some names) (content : Bytes) :
    (runCalls calls w).2.files.lookup? names = some (.file content) ↔
      w.files.lookup? names = some (.file content) := by
  induction calls generalizing w with
  | nil => exact Iff.rfl
  | cons call rest ih =>
    obtain ⟨path, files, hpath, happended, hrun⟩ := Call.runIn_action w h.1
    have hne : names ≠ path.place := by
      rintro rfl
      exact hn call List.mem_cons_self (by rw [Call.place?, hpath, Option.map_some])
    have hrest := ih h.2 fun other hm => hn other (List.mem_cons_of_mem _ hm)
    rw [hrun] at hrest
    have hfinal : (runCalls (call :: rest) w).2 = (runCalls rest (call.action.runIn w).2).2 := rfl
    rw [hfinal, hrun]
    exact hrest.trans (happended.file_iff hne content)

/-- What a call answers and records: its path and one record if all its lines can be
written, else the failure of the first that cannot be and no record. -/
def Call.Answers (call : Call) (result : Except Failure GivenPath) : Prop :=
  ∃ path, call.path? = some path ∧
    (arePlain call.lines = true → result = .ok path ∧
      call.records = [.transcriptWritten path.display]) ∧
    (arePlain call.lines = false → (∃ failure front line rest, result = .error failure ∧
      call.lines = front ++ line :: rest ∧ arePlain front = true ∧ line.plain? = none ∧
        line.FailsWith failure) ∧ call.records = [])

/-- A call that opens its file answers as its lines make it. -/
theorem Call.answers_result {call : Call} {path : GivenPath} (h : call.path? = some path) :
    call.Answers (call.result path) := by
  refine ⟨path, h, fun ht => ⟨(call.result_eq_ok_iff path).mpr ht, ?_⟩, fun hf => ⟨?_, ?_⟩⟩
  · rw [records, if_pos ht, h]
    rfl
  · unfold result
    cases hl : (linesOf call.lines).2 with
    | none =>
      rw [(snd_linesOf_eq_none_iff call.lines).mp hl] at hf
      cases hf
    | some failure =>
      obtain ⟨front, line, rest, hfront⟩ := exists_of_snd_linesOf hl
      exact ⟨failure, front, line, rest, rfl, hfront⟩
  · rw [records, if_neg (ne_true_of_eq_false hf)]

/-- Every call of a run answers as its lines make it, and the log holds the records of
the calls in their order. -/
theorem answers_runCalls {calls : List Call} {w : World} (h : AllOpen calls w) :
    (runCalls calls w).1.length = calls.length ∧
      (∀ entry ∈ calls.zip (runCalls calls w).1, entry.1.Answers entry.2) ∧
        (runCalls calls w).2.log = (calls.flatMap Call.records).reverse ++ w.log := by
  induction calls generalizing w with
  | nil => exact ⟨rfl, nofun, rfl⟩
  | cons call rest ih =>
    obtain ⟨path, files, hpath, -, hrun⟩ := Call.runIn_action w h.1
    obtain ⟨hlength, hanswers, hlog⟩ := ih h.2
    have hresults : (runCalls (call :: rest) w).1 =
      (call.action.runIn w).1 :: (runCalls rest (call.action.runIn w).2).1 := rfl
    have hfinal : (runCalls (call :: rest) w).2 = (runCalls rest (call.action.runIn w).2).2 := rfl
    refine ⟨?_, ?_, ?_⟩
    · rw [hresults, List.length_cons, List.length_cons, hlength]
    · rw [hresults, List.zip_cons_cons, List.forall_mem_cons]
      refine ⟨?_, hanswers⟩
      rw [hrun]
      exact Call.answers_result hpath
    · have hone : call.records.reverse = call.records := by
        rw [Call.records, hpath]
        split <;> rfl
      rw [hfinal, hlog, hrun, List.flatMap_cons, List.reverse_append, hone, List.append_assoc]

/-- What calls write whose lines can all be written is what all these lines come
to. -/
theorem flatMap_written {calls : List Call} (h : ∀ call ∈ calls, arePlain call.lines = true) :
    calls.flatMap Call.written = octetsOfLines (leadingTexts (calls.flatMap Call.lines)) := by
  induction calls with
  | nil => rfl
  | cons call rest ih =>
    obtain ⟨hcall, hrest⟩ := List.forall_mem_cons.mp h
    rw [List.flatMap_cons, List.flatMap_cons, ih hrest, leadingTexts_append hcall,
      octetsOfLines, octetsOfLines, List.flatMap_append]
    rfl

/-- The lines that calls add at a place. -/
def linesTo (calls : List Call) (names : List Bytes) : List Line :=
  (calls.filter fun call => call.place? = some names).flatMap Call.lines

/-- Transcripts only grow. After any run of calls that open their files, failing calls
included, the file at every place that a call leads to holds what it held before and
behind that, call by call, the texts in front of the first line that cannot be written; a
call answers its path and leaves its record exactly if all its lines can be written, and
fails as the first that cannot be does; no other file changes; and how texts are divided
among calls makes no difference. -/
theorem runCalls_appends (calls : List Call) (w : World) (h : AllOpen calls w) :
    (∀ call ∈ calls, ∃ names, call.place? = some names ∧
      (runCalls calls w).2.files.lookup? names =
        some (.file (w.files.contentAt names ++ writtenTo calls names))) ∧
    (∀ names, (∀ call ∈ calls, call.place? ≠ some names) → ∀ content,
      ((runCalls calls w).2.files.lookup? names = some (.file content) ↔
        w.files.lookup? names = some (.file content))) ∧
    ((runCalls calls w).1.length = calls.length ∧
      (∀ entry ∈ calls.zip (runCalls calls w).1, entry.1.Answers entry.2) ∧
        (runCalls calls w).2.log = (calls.flatMap Call.records).reverse ++ w.log) ∧
    (∀ others, AllOpen others w → ∀ names,
      (∃ call ∈ calls, call.place? = some names) →
      (∃ call ∈ others, call.place? = some names) →
      (∀ call ∈ calls ++ others, call.place? = some names → arePlain call.lines = true) →
      linesTo calls names = linesTo others names →
      (runCalls calls w).2.files.lookup? names = (runCalls others w).2.files.lookup? names) := by
  have hfile : ∀ {calls : List Call}, AllOpen calls w → ∀ {names},
      (∃ call ∈ calls, call.place? = some names) →
        (runCalls calls w).2.files.lookup? names =
          some (.file (w.files.contentAt names ++ writtenTo calls names)) := by
    intro calls h names ht
    obtain ⟨content, he⟩ := lookup?_runCalls h (.inr ht)
    have hc := contentAt_runCalls h names
    rw [FileTree.contentAt, he] at hc
    rw [he, ← hc]
  refine ⟨fun call hm => ?_, fun names hn content => file_runCalls_iff h hn content,
    answers_runCalls h, fun others ho names ht hto htexts hlines => ?_⟩
  · obtain ⟨path, hpath⟩ := h.exists_path hm
    have hp : call.place? = some path.place := by rw [Call.place?, hpath, Option.map_some]
    exact ⟨path.place, hp, hfile h ⟨call, hm, hp⟩⟩
  · have hw : ∀ part : List Call, (∀ call ∈ part, call ∈ calls ++ others) →
        writtenTo part names = octetsOfLines (leadingTexts (linesTo part names)) := by
      intro part hpart
      refine flatMap_written fun call hc => ?_
      obtain ⟨hmem, hp⟩ := List.mem_filter.mp hc
      exact htexts call (hpart call hmem) (by simpa using hp)
    rw [hfile h ht, hfile ho hto, hw calls fun _ => List.mem_append_left _,
      hw others fun _ => List.mem_append_right _, hlines]

/-- A call that fails at a surrogate and a call to the same file that fails at a datum which
is no text: the file holds the first line of each. -/
theorem runCalls_appends_twice :
    let calls : List Call := [⟨[.ofString "x\n\n", .text [.char 'u', .surrogate 0], .ofString "y"],
      .text "a", .text "d"⟩, ⟨[.ofString "z", .other .absent rfl], .text "a", .text "d"⟩]
    AllOpen calls {} ∧ (runCalls calls {}).2.files.lookup? [[0x64], [0x61]] =
      some (.file [0x78, 0x0A, 0x7A, 0x0A]) := by
  intro calls
  have hopen : AllOpen calls {} := by
    refine ⟨⟨rfl, rfl, .text "d", .text "d/a", _, rfl, rfl, rfl, rfl⟩,
      ⟨rfl, rfl, .text "d", .text "d/a", _, rfl, rfl, rfl, rfl⟩, trivial⟩
  obtain ⟨names, hp, he⟩ := (runCalls_appends calls {} hopen).1 _ List.mem_cons_self
  obtain rfl : [[0x64], [0x61]] = names := Option.some.inj hp
  exact ⟨hopen, he⟩

/-- It is not enough that all lines of a call are texts: one with a surrogate is not written,
and the call fails without a record. -/
theorem runCalls_fails_at_surrogate :
    let call : Call := ⟨[.text [.surrogate 0]], .text "a", .text "d"⟩
    AllOpen [call] {} ∧ (∀ line ∈ call.lines, ∃ value, line = .text value) ∧
      (runCalls [call] {}).1 = [.error (.unencodable ⟨0, 0, 1⟩)] ∧
      (runCalls [call] {}).2.log = [] := by
  intro call
  have hopen : call.Opens {} := ⟨rfl, rfl, .text "d", .text "d/a", _, rfl, rfl, rfl, rfl⟩
  exact ⟨⟨hopen, trivial⟩, by simp [call], rfl, rfl⟩

end Transcript

end TlsTranscript
