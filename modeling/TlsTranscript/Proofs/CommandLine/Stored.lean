import TlsTranscript.Proofs.CommandLine.Stages
import TlsTranscript.Proofs.Rendering.Trace
import TlsTranscript.Proofs.Transcript.Compare
import TlsTranscript.Proofs.Transcript.Success

/-!
# What is printed is stored

A run with a transcript prints its lines as they are, and stores each without the line
feeds at its end. No line of a rendering ends with a line feed, so both come to the same
octets. The digest that is printed behind the lines is that of the whole file.
-/

namespace TlsTranscript

open Text

namespace Datum

variable {registries : Registries}

/-- What is rendered where an extension is asked for is rendered anywhere. -/
theorem rendered_of_renderedExtension {datum : Datum} {rendered : Rendered}
    (h : datum.renderedExtension registries = .ok rendered) :
    datum.rendered registries = .ok rendered := by
  unfold renderedExtension at h
  split at h
  · exact h
  · cases h

/-- A text that is not empty is something. -/
theorem isSomething_text {text : String} (h : text ≠ "") : (Datum.text text).isSomething = true :=
  bne_iff_ne.mpr h

/-- No rendering ends with a line feed. -/
theorem chomp_of_rendered {datum : Datum} {rendered : Rendered}
    (h : datum.rendered .assigned = .ok rendered) : chomp rendered.text = rendered.text := by
  obtain ⟨model, -, hm⟩ := exists_model_of_rendered h
  rw [← Model.line_of_rendered hm]
  exact model.chomp_line (Registries.assigned_allAvoid (by decide))

/-- The records of a row of renderings are for those who look for a fault. -/
theorem level_of_mem_row {renderedOf : Datum → Except Failure Rendered}
    (h : ∀ datum rendered, renderedOf datum = .ok rendered →
      datum.rendered registries = .ok rendered) {items : List Datum} {entry : LogRecord}
    (hmem : entry ∈ (Rendered.row renderedOf items).2) : entry.level = .debug := by
  obtain ⟨item, -, rendered, hr, hentry⟩ := Rendered.exists_of_mem_row hmem
  obtain ⟨model, -, hm⟩ := exists_model_of_rendered (h item rendered hr)
  exact Model.level_of_mem_log hm hentry

end Datum

namespace CommandLine

/-- The line of the extensions stands behind the first two messages, or behind all if there
are fewer. -/
theorem linesOf_eq_insertIdx (texts : List String) (extensions : String) :
    linesOf texts extensions =
      texts.insertIdx (min 2 texts.length) ("extensions: " ++ extensions) := by
  match texts with
  | [] => rfl
  | [_] => rfl
  | _ :: _ :: rest =>
    have hmin : min 2 (rest.length + 1 + 1) = 2 := Nat.min_eq_left (by omega)
    simp only [List.length_cons, hmin]
    rfl

/-- There is one line more than there are messages. -/
theorem length_linesOf (texts : List String) (extensions : String) :
    (linesOf texts extensions).length = texts.length + 1 := by
  simp only [linesOf, List.length_append, List.length_cons, List.length_take, List.length_drop]
  omega

/-- The line of the extensions does not end with a line feed. -/
theorem chomp_extensions (parts : List String) :
    chomp ("extensions: " ++ bracketed "[" "]" parts) =
      "extensions: " ++ bracketed "[" "]" parts := by
  have hend : ("extensions: " ++ bracketed "[" "]" parts).toList =
      ("extensions: " ++ ("[" ++ ", ".intercalate parts)).toList ++ [']'] := by
    simp only [bracketed, String.toList_append, List.append_assoc]
    rfl
  exact chomp_of_concat hend (by decide)

/-- If no text ends with a line feed, no line does. -/
theorem chomp_of_mem_linesOf {texts parts : List String}
    (h : ∀ text ∈ texts, chomp text = text) :
    ∀ line ∈ linesOf texts (bracketed "[" "]" parts), chomp line = line := by
  intro line hl
  rcases List.mem_append.mp hl with htake | hrest
  · exact h line (List.mem_of_mem_take htake)
  · rcases List.mem_cons.mp hrest with rfl | hdrop
    · exact chomp_extensions parts
    · exact h line (List.mem_of_mem_drop hdrop)

/-- What is printed of lines without line feeds at their ends is what is stored of
them. -/
theorem encode_printed {lines : List String} (h : ∀ line ∈ lines, chomp line = line) :
    Utf8.encode (printed lines) = Transcript.octetsOfLines lines := by
  have hprinted : printed lines = String.ofList (joinLines (lines.map String.toList)) := by
    refine String.toList_inj.mp ?_
    rw [String.toList_ofList, printed, String.toList_join, joinLines, List.flatMap_map,
      List.flatMap_map]
    exact List.flatMap_congr fun line _ => String.toList_append
  rw [hprinted, ← Transcript.octetsOfLines_eq_encode h]

/-- A line behind others is printed behind them. -/
theorem printed_concat (lines : List String) (line : String) :
    printed (lines ++ [line]) = printed lines ++ line ++ "\n" := by
  refine String.toList_inj.mp ?_
  simp [printed, String.toList_join, String.toList_append, List.append_assoc]

/-- The name behind the option for a transcript is taken for one, or the arguments are
refused. -/
theorem requestOf_transcript (name : String) :
    requestOf ["--transcript", name] = .ok (.run (some name)) ∨
      ∃ fault, requestOf ["--transcript", name] = .error fault := by
  have hoption : classify "--transcript".toList = .ok (.long .transcript none) := rfl
  have hseparator : ("--transcript" : String) ≠ "--" := by decide
  have hfirst : ∀ words, classifyAll [name] = .ok words →
      requestOf ["--transcript", name] =
        requestFrom none [] (("--transcript", .long .transcript none) :: words) := by
    intro words hw
    simp only [requestOf, classifyAll, if_neg hseparator, hoption]
    simp only [classifyAll] at hw
    rw [hw]
  by_cases hname : name = "--"
  · refine .inr ⟨.noValue, ?_⟩
    subst hname
    rfl
  · cases hword : classify name.toList with
    | error fault =>
      refine .inr ⟨fault, ?_⟩
      simp only [requestOf, classifyAll, if_neg hseparator, hoption, if_neg hname, hword]
    | ok word =>
      have hwords : classifyAll [name] = .ok [(name, word)] := by
        simp only [classifyAll, if_neg hname, hword]
      rw [hfirst _ hwords]
      cases word with
      | value => exact .inl rfl
      | _ => exact .inr ⟨.noValue, rfl⟩

/-- What the structures of a run are rendered to: the messages one by one, and the
extensions one by one, in every world. -/
structure Renders (source : Source) (items parts : List Datum) (texts shown : List String) :
    Prop where
  /-- The structures are these messages and extensions. -/
  structures : ∃ messages extensions, source.structures = .ok (messages, extensions) ∧
    messages.items = .ok items ∧ extensions.items = .ok parts
  /-- The messages have these renderings. -/
  messages : List.Forall₂ (fun item text =>
    ∀ v, ((Datum.render (.ok .assigned) item).runIn v).1 = .ok text) items texts
  /-- The extensions have these renderings. -/
  extensions : List.Forall₂ (fun part text =>
    ∀ v, ((Datum.renderExtension (.ok .assigned) part).runIn v).1 = .ok text) parts shown

/-- A row of renderings that comes to an end has a text for each item that does not end
with a line feed, and leaves only records for those who look for a fault. -/
theorem row_of_runIn_mapM {action : Datum → Action String}
    {renderedOf : Datum → Except Failure Rendered}
    (h : ∀ item, (action item).ComesTo (renderedOf item))
    (hr : ∀ item rendered, renderedOf item = .ok rendered →
      item.rendered .assigned = .ok rendered)
    {items : List Datum} {texts : List String} {w after : World}
    (hrun : (items.mapM action).runIn w = (.ok texts, after)) :
    List.Forall₂ (fun item text => ∀ v, ((action item).runIn v).1 = .ok text) items texts ∧
      (∀ text ∈ texts, chomp text = text) ∧
      ∃ records, (∀ entry ∈ records, LogRecord.level entry = .debug) ∧
        after = { w with log := records ++ w.log } := by
  rw [Action.runIn_mapM h] at hrun
  obtain ⟨hrow, hafter⟩ := Prod.mk.inj hrun
  have hall : List.Forall₂ (fun text item => chomp text = text ∧
      ∀ v, ((action item).runIn v).1 = .ok text) texts items := by
    refine List.Forall₂.flip ((Rendered.forall₂_of_row hrow).imp ?_)
    rintro item text ⟨rendered, hitem, rfl⟩
    exact ⟨Datum.chomp_of_rendered (hr item rendered hitem), fun v => by rw [h item v, hitem]⟩
  obtain ⟨hchomp, htexts⟩ := (List.forall₂_and_left texts items).mp hall
  refine ⟨htexts.flip, hchomp, (Rendered.row renderedOf items).2.reverse, ?_, hafter.symm⟩
  intro entry hmem
  exact Datum.level_of_mem_row hr (List.mem_reverse.mp hmem)

/-- A rendering that comes to an end has rendered all structures, and leaves the count of
its lines in the log, behind records for those who look for a fault. -/
theorem exists_renders {source : Source} {lines : List String} {w after : World}
    (h : (render source).runIn w = (.ok lines, after)) :
    ∃ items parts texts shown records, Renders source items parts texts shown ∧
      lines = linesOf texts (bracketed "[" "]" shown) ∧ (∀ line ∈ lines, chomp line = line) ∧
      (∀ entry ∈ records, LogRecord.level entry = .debug) ∧
      after = { w with log := .linesRendered (items.length + 1) :: (records ++ w.log) } := by
  obtain ⟨⟨messages, extensions⟩, w₁, hstructures, hrows⟩ := Action.runIn_bind_eq_ok h
  obtain ⟨texts, w₂, hmessages, hrest⟩ := Action.runIn_bind_eq_ok hrows
  obtain ⟨extensionLine, w₃, hextensions, hnote⟩ := Action.runIn_bind_eq_ok hrest
  obtain ⟨items, w₄, hitems, hmessageRow⟩ := Action.runIn_bind_eq_ok hmessages
  obtain ⟨parts, w₅, hparts, hextensionRow⟩ := Action.runIn_bind_eq_ok hextensions
  obtain ⟨shown, w₆, hrow, hline⟩ := Action.runIn_bind_eq_ok hextensionRow
  obtain ⟨hs, rfl⟩ := Prod.mk.inj hstructures
  obtain ⟨hi, rfl⟩ := Prod.mk.inj hitems
  obtain ⟨hp, rfl⟩ := Prod.mk.inj hparts
  obtain ⟨hl, rfl⟩ := Prod.mk.inj hline
  obtain rfl := Except.ok.inj hl
  obtain ⟨htexts, hchomp, first, hfirst, rfl⟩ :=
    row_of_runIn_mapM (Datum.comesTo_render registries?_assigned) (fun _ _ hr => hr) hmessageRow
  obtain ⟨hshown, -, second, hsecond, rfl⟩ :=
    row_of_runIn_mapM (Datum.comesTo_renderExtension registries?_assigned)
      (fun _ _ => Datum.rendered_of_renderedExtension) hrow
  obtain ⟨hlines, rfl⟩ := Prod.mk.inj hnote
  obtain rfl := Except.ok.inj hlines
  refine ⟨items, parts, texts, shown, second ++ first,
    ⟨⟨messages, extensions, hs, hi, hp⟩, htexts, hshown⟩, rfl,
    chomp_of_mem_linesOf hchomp, ?_, ?_⟩
  · intro entry hmem
    exact (List.mem_append.mp hmem).elim (hsecond entry) (hfirst entry)
  · rw [length_linesOf, ← htexts.length_eq, List.append_assoc]
    rfl

/-- What a run with a transcript has printed and stored. -/
structure Stores (lines : List String) (path : GivenPath) (output : String)
    (before after : FileTree) : Prop where
  /-- The lines are printed, and behind them the path and the digest of the whole file. -/
  output : output = printed lines ++ "transcript " ++ path.display ++ " sha256=" ++
    Sha256.hexDigest (before.contentAt path.place ++ Utf8.encode (printed lines)) ++ "\n"
  /-- The file held its old content if there was one. -/
  old : ∀ content, before.read path = .ok content → before.contentAt path.place = content
  /-- The file held nothing if it was not there. -/
  new : before.lookup? path.place = none → before.contentAt path.place = []
  /-- What is printed of the lines stands at the end of the file, and no other file is
  changed. -/
  appended : before.Appended after path (Utf8.encode (printed lines))
  /-- The whole file is its old content and what is printed of the lines. -/
  read : after.read path =
    .ok (before.contentAt path.place ++ Utf8.encode (printed lines))

/-- A run that stores its lines has a directory for transcripts: without one, the store
asks for the settings again, and they have none either. -/
theorem transcriptDir_ne_of_store {settings : Settings} {name stored : String}
    {lines : List String} {w loaded rendered after : World} (hname : name ≠ "")
    (hload : Settings.load.runIn w = (.ok settings, loaded))
    (hrendered : ∃ records, rendered = { loaded with log := records ++ loaded.log })
    (h : (store settings name lines).runIn rendered = (.ok stored, after)) :
    settings.transcriptDir ≠ "" := by
  intro hempty
  obtain ⟨records, rfl⟩ := hrendered
  have hfiles : (Settings.load.runIn w).2.files = w.files := Settings.keepsFiles_loadFrom _ w
  have hagain : Settings.load.runIn { loaded with log := records ++ loaded.log } =
      ((Settings.load.runIn w).1, { loaded with log := records ++ loaded.log }) := by
    rw [hload] at hfiles
    refine Settings.runIn_loadFrom_again (Settings.takes_of_loadFrom hload) hfiles ?_
    exact congrArg (fun result => result.2.environment) hload.symm
  rw [hload] at hagain
  obtain ⟨failure, last, happend⟩ := Transcript.append_fails_of_empty hagain hempty
    (Datum.isSomething_text hname)
  rw [store, hempty, Action.runIn_bind_of_error happend] at h
  cases h

/-- Lines that are stored stand at the end of their file, and the answer names its path
and its digest. -/
theorem exists_of_store {settings : Settings} {name stored : String} {lines : List String}
    {w after : World} (hname : name ≠ "") (hdirectory : settings.transcriptDir ≠ "")
    (hlines : ∀ line ∈ lines, chomp line = line)
    (h : (store settings name lines).runIn w = (.ok stored, after)) :
    ∃ path, Transcript.joinPath (.text settings.transcriptDir) (.text name) = .ok path ∧
      Stores lines path (printed (lines ++ [stored])) w.files after.files ∧
      after.log = .transcriptWritten path.display :: w.log := by
  let call : Transcript.Call :=
    ⟨lines.map .ofString, .text name, .text settings.transcriptDir⟩
  obtain ⟨path, between, hcall, hanswer⟩ := Action.runIn_bind_eq_ok h
  rw [Transcript.append_map_text] at hcall
  have hopens : call.Opens w.files := Transcript.Call.opens_of_action
    (Datum.isSomething_text hdirectory) (Datum.isSomething_text hname) hcall
  obtain ⟨joined, files, hpath, happended, hrun⟩ := Transcript.Call.runIn_action w hopens
  have htexts : Transcript.arePlain call.lines = true := Transcript.arePlain_map_ofString lines
  have hwritten : call.written = Utf8.encode (printed lines) := by
    rw [Transcript.Call.written, Transcript.leadingTexts_map_ofString, encode_printed hlines]
  rw [hwritten] at happended
  have hrecords : call.records = [.transcriptWritten joined.display] := by
    rw [Transcript.Call.records, if_pos htexts, hpath]
    rfl
  rw [(call.result_eq_ok_iff joined).mpr htexts, hrecords] at hrun
  obtain ⟨hsame, rfl⟩ := Prod.mk.inj (hcall.symm.trans hrun)
  obtain rfl := Except.ok.inj hsame
  obtain ⟨digest, last, hdigest, hline⟩ := Action.runIn_bind_eq_ok hanswer
  have hread := happended.read
  obtain ⟨hd, rfl⟩ := Prod.mk.inj (hdigest.symm.trans (Transcript.runIn_digestOf hread))
  obtain rfl := Except.ok.inj hd
  obtain ⟨hl, rfl⟩ := Prod.mk.inj hline
  obtain rfl := Except.ok.inj hl
  refine ⟨path, (Transcript.Call.path?_eq_some_iff rfl).mp hpath,
    ⟨?_, fun _ => FileTree.contentAt_of_read, FileTree.contentAt_of_none, happended, hread⟩, rfl⟩
  rw [printed_concat]
  simp only [String.append_assoc]

/-- A run with a transcript that comes to an end prints what it stores: the renderings of
the messages in their order, with the line of the extensions behind the first two, stand at
the end of the transcript as they stand in the output, and behind them the output names the
path and the digest of the whole file. One line more than there are messages is counted. -/
theorem execute_stores_printed {arguments : List String} {source : Source} {name : String}
    {w after : World} {report : Report} (hname : name ≠ "")
    (hrequest : arguments = ["--transcript", name] ∨
      requestOf arguments = .ok (.run (some name)))
    (hrun : (execute arguments source).runIn w = (.ok report, after))
    (hexit : report.exit = 0) :
    ∃ items parts texts shown settings path records,
      Renders source items parts texts shown ∧
      (Settings.load.runIn w).1 = .ok settings ∧
      Transcript.joinPath (.text settings.transcriptDir) (.text name) = .ok path ∧
      Stores (texts.insertIdx (min 2 items.length)
          ("extensions: " ++ bracketed "[" "]" shown))
        path report.output w.files after.files ∧
      (∀ entry ∈ records, LogRecord.level entry = .debug) ∧
      after.log = .transcriptWritten path.display :: .linesRendered (items.length + 1) ::
        (records ++ w.log) := by
  have hrequested : requestOf arguments = .ok (.run (some name)) := by
    rcases hrequest with rfl | hrequested
    · rcases requestOf_transcript name with hrequested | ⟨fault, hfault⟩
      · exact hrequested
      · rw [execute, hfault] at hrun
        obtain rfl := Except.ok.inj (congrArg Prod.fst hrun)
        cases hexit
    · exact hrequested
  rw [execute, hrequested] at hrun
  obtain ⟨settings, loaded, hload, hrest⟩ := Action.runIn_bind_eq_ok hrun
  obtain ⟨lines, rendered, hrender, hrest⟩ := Action.runIn_bind_eq_ok hrest
  simp only [Option.getD_some, if_neg hname] at hrest
  obtain ⟨stored, last, hstore, hreport⟩ := Action.runIn_bind_eq_ok hrest
  obtain ⟨hr, rfl⟩ := Prod.mk.inj hreport
  obtain rfl := Except.ok.inj hr
  obtain ⟨items, parts, texts, shown, records, hrenders, hlines, hchomp, hlevels, hafter⟩ :=
    exists_renders hrender
  have hdirectory := transcriptDir_ne_of_store hname hload ⟨_ :: records, hafter⟩ hstore
  obtain ⟨path, hjoin, hstores, hlog⟩ := exists_of_store hname hdirectory hchomp hstore
  obtain ⟨environment, -, hloaded⟩ := Settings.exists_runIn_loadFrom (.ok (some _)) w
  obtain rfl : loaded = { w with environment := environment } :=
    (congrArg Prod.snd hload).symm.trans hloaded
  subst hafter
  rw [linesOf_eq_insertIdx, ← hrenders.messages.length_eq] at hlines
  subst hlines
  exact ⟨items, parts, texts, shown, settings, path, records, hrenders, congrArg Prod.fst hload,
    hjoin, hstores, hlevels, hlog⟩

/-- The line of an alert and that of a protocol whose name ends with a line feed stand
behind the line that the transcript holds already, and the digest that is printed is that of
all three. -/
theorem execute_stores_printed_alert :
    let before : FileTree :=
      [(.ofNames [[0x64]], .directory), (.ofNames [[0x64], [0x61]], .file [0x78, 0x0A])]
    let w : World := { files := before, environment := [(Settings.directoryName, "d")] }
    let alert : Datum := .model (.message (.alert ⟨2, 40⟩))
    let protocols : Datum := .model (.extension (.alpn [[0x68, 0x32, 0x0A]]))
    ∃ report after, (execute ["--transcript", "a"]
        (.given (.list [alert]) (.list [protocols]))).runIn w = (.ok report, after) ∧
      report.output = "Alert \x7b severity: fatal, code: 40 \x7d\nextensions: [ALPN([h2\n])]\n" ++
        "transcript d/a sha256=" ++
        "0db544147ec9ee3d11939c9f18aa3fba979253ca877a5ca85e20534321bcae8f\n" ∧
      after.files.read (.text "d/a") = .ok (Utf8.encode
        "x\nAlert \x7b severity: fatal, code: 40 \x7d\nextensions: [ALPN([h2\n])]\n") ∧
      Stores ["Alert \x7b severity: fatal, code: 40 \x7d", "extensions: [ALPN([h2\n])]"]
        (.text "d/a") report.output before after.files := by
  intro before w alert protocols
  have hexit : ((execute ["--transcript", "a"]
      (.given (.list [alert]) (.list [protocols]))).runIn w).1.toOption.map Report.exit =
        some 0 := by
    decide +kernel
  rcases hrun : (execute ["--transcript", "a"]
    (.given (.list [alert]) (.list [protocols]))).runIn w with ⟨failure | report, after⟩
  · rw [hrun] at hexit
    cases hexit
  -- the run has come to an end: its report and the world after it stay unopened
  rw [hrun] at hexit
  obtain ⟨items, parts, texts, shown, settings, path, records, hrenders, hload, hjoin,
    hstores, -⟩ := execute_stores_printed (by decide) (.inl rfl) hrun (Option.some.inj hexit)
  have hsettings : (Settings.load.runIn w).1.toOption = some ⟨"WARNING", "d"⟩ := by
    decide +kernel
  have halert : ((Datum.render (.ok .assigned) alert).runIn w).1.toOption =
      some "Alert \x7b severity: fatal, code: 40 \x7d" := by
    decide +kernel
  have hprotocols : ((Datum.renderExtension (.ok .assigned) protocols).runIn w).1.toOption =
      some "ALPN([h2\n])" := by
    decide +kernel
  rw [hload] at hsettings
  obtain rfl := Option.some.inj hsettings
  obtain rfl := Except.ok.inj hjoin
  obtain ⟨⟨messages, extensions, hs, hi, hp⟩, htexts, hshown⟩ := hrenders
  obtain ⟨rfl, rfl⟩ := Prod.mk.inj (Except.ok.inj hs)
  obtain rfl := Except.ok.inj hi
  obtain rfl := Except.ok.inj hp
  obtain ⟨text, rfl⟩ : ∃ text, texts = [text] := List.length_eq_one_iff.mp htexts.length_eq.symm
  obtain ⟨part, rfl⟩ : ∃ part, shown = [part] := List.length_eq_one_iff.mp hshown.length_eq.symm
  rw [(List.forall₂_cons.mp htexts).1 w] at halert
  rw [(List.forall₂_cons.mp hshown).1 w] at hprotocols
  obtain rfl := Option.some.inj halert
  obtain rfl := Option.some.inj hprotocols
  refine ⟨report, after, rfl, hstores.output.trans ?_, hstores.read.trans ?_, hstores⟩
  · decide +kernel
  · decide +kernel

end CommandLine

end TlsTranscript
