import TlsTranscript.Proofs.Text.Utf8
import TlsTranscript.Proofs.Transcript.Kept
import TlsTranscript.Proofs.Writing.Assigned

/-!
# Transcripts compared

What transcripts tell of the models that they were made of. Two transcripts of
models without raw text hold the same octets exactly if they were made of the same
models in the same order. A transcript is read back line for line exactly if no
raw text that was decoded into it holds a line end.
-/

namespace TlsTranscript

open Text

variable {naming : Naming} {registries : Registries}

/-- No line of a model ends with a line feed. -/
theorem Model.chomp_line (h : registries.AllAvoid '\n') (model : Model) :
    chomp (model.line registries) = model.line registries := by
  have hc : ¬IsPrintableAscii '\n' := by decide
  cases hr : model.rendered registries with
  | error failure =>
    rw [line, hr]
    rfl
  | ok rendered =>
    have htext := line_of_rendered hr
    by_cases hm : '\n' ∈ rendered.text.toList
    · have hraw : model.rawTexts ≠ [] := by
        intro he
        rw [mem_rendered_iff hc h hr, he] at hm
        obtain ⟨data, hd, -⟩ := hm
        cases hd
      rw [htext]
      cases model with
      | extension content =>
        obtain rfl := Except.ok.inj hr
        cases content with
        | sni names =>
          exact chomp_of_concat (Rendered.toList_tagged "SNI" _ |>.trans
            (by rw [← List.cons_append, ← List.append_assoc])) (by decide)
        | alpn protocols =>
          exact chomp_of_concat (Rendered.toList_tagged "ALPN" _ |>.trans
            (by rw [← List.cons_append, ← List.append_assoc])) (by decide)
        | _ => exact absurd rfl hraw
      | _ => exact absurd rfl hraw
    · exact chomp_of_not_mem (by rw [htext]; exact hm)

/-- Lines that do not end with a line feed are left as they are. -/
theorem map_chomp {lines : List String} (h : ∀ line ∈ lines, chomp line = line) :
    lines.map chomp = lines := by
  have hid := List.map_congr_left h
  rwa [List.map_id'] at hid

namespace Transcript

/-- Lines are written as a text: what is left of each without the line feeds at its end, with
a line feed behind it. -/
theorem octetsOfLines_eq_encode_chomp (lines : List String) :
    octetsOfLines lines =
      Utf8.encode (String.ofList (joinLines ((lines.map chomp).map String.toList))) := by
  have hfeed : Utf8.encodeChar '\n' = [0x0A] := by decide
  rw [Utf8.encode, String.toList_ofList]
  induction lines with
  | nil => rfl
  | cons line rest ih =>
    rw [octetsOfLines, List.flatMap_cons, List.map_cons, List.map_cons, joinLines,
      List.flatMap_cons, List.flatMap_append, List.flatMap_append, ← joinLines, ← ih]
    simp only [List.flatMap_cons, List.flatMap_nil, hfeed, List.append_nil]
    rfl

/-- Lines that do not end with a line feed are written as a text with a line feed
behind each. -/
theorem octetsOfLines_eq_encode {lines : List String}
    (h : ∀ line ∈ lines, chomp line = line) :
    octetsOfLines lines =
      Utf8.encode (String.ofList (joinLines (lines.map String.toList))) := by
  rw [octetsOfLines_eq_encode_chomp, map_chomp h]

/-- Different lines without line feeds are written differently. -/
theorem octetsOfLines_injective {first second : List String}
    (hf : ∀ line ∈ first, '\n' ∉ line.toList) (hs : ∀ line ∈ second, '\n' ∉ line.toList)
    (h : octetsOfLines first = octetsOfLines second) : first = second := by
  have hsplit : ∀ {lines : List String}, (∀ line ∈ lines, '\n' ∉ line.toList) →
      splitLines (joinLines (lines.map String.toList)) = lines.map String.toList := by
    intro lines hl
    refine splitLines_joinLines fun chars hm => ?_
    obtain ⟨line, hline, rfl⟩ := List.mem_map.mp hm
    exact hl line hline
  rw [octetsOfLines_eq_encode fun line hl => chomp_of_not_mem (hf line hl),
    octetsOfLines_eq_encode fun line hl => chomp_of_not_mem (hs line hl)] at h
  have hj := String.ofList_inj.mp (Utf8.encode_injective h)
  have hm : first.map String.toList = second.map String.toList := by
    rw [← hsplit hf, hj, hsplit hs]
  exact List.map_inj_right (fun _ _ => String.toList_inj.mp) |>.mp hm

/-- What is read of lines that were written: the text cut at every line end. -/
theorem decode_octetsOfLines {lines : List String} (h : ∀ line ∈ lines, chomp line = line) :
    decode (octetsOfLines lines) = .ok ((splitLines (unifyLineEnds
      (joinLines (lines.map String.toList)))).map String.ofList) := by
  rw [octetsOfLines_eq_encode h, decode, Utf8.decodeStream_encode]
  simp only [String.toList_ofList]

end Transcript

/-- Registries under which lines tell what they were rendered from: no name holds a
line feed, and names that stand alone tell their codes. -/
structure Registries.TellsLines (registries : Registries) : Prop where
  /-- No name holds a line feed. -/
  newline : registries.AllAvoid '\n'
  /-- Names of severities tell their codes. -/
  severities : registries.NamesTell .alertSeverity
  /-- Names of algorithms tell their codes in pairs. -/
  pairs : registries.PairsTell

/-- Lines tell what they were rendered from with the assigned names. -/
theorem Registries.assigned_tellsLines : assigned.TellsLines where
  newline := assigned_allAvoid (by decide)
  severities := assigned_namesTell_alertSeverity
  pairs := assigned_pairsTell

namespace Model

/-- A line without raw text holds no line feed. -/
theorem newline_not_mem_line (h : registries.AllAvoid '\n') {model : Model}
    (hr : model.kind.showsRawText = false) : '\n' ∉ (model.line registries).toList := by
  have hc : ¬IsPrintableAscii '\n' := by decide
  cases hm : model.rendered registries with
  | error failure =>
    have he : '\n' ∉ ("" : String).toList := by decide
    rw [line, hm]
    exact he
  | ok rendered =>
    rw [line_of_rendered hm, mem_rendered_iff hc h hm, rawTexts_eq_nil hr]
    rintro ⟨data, hd, -⟩
    cases hd

/-- Whether all raw text that is decoded into the line of a model is free of line
ends. -/
def IsSingleLine (model : Model) : Prop :=
  ∀ data ∈ model.rawTexts, ∀ text, Utf8.decode data = .ok text → SingleLine text.toList

/-- Raw text free of line ends can be tested for. -/
instance (model : Model) : Decidable model.IsSingleLine :=
  decidable_of_iff (∀ data ∈ model.rawTexts, ∀ text ∈ (Utf8.decode data).toOption,
      SingleLine text.toList) <| by
    have htext : ∀ data text,
        text ∈ (Utf8.decode data).toOption ↔ Utf8.decode data = .ok text := by
      intro data text
      cases Utf8.decode data <;> simp [Except.toOption]
    simp only [IsSingleLine, htext]

/-- A line is a single line exactly if the raw text in it is free of line ends. -/
theorem singleLine_line_iff (hn : registries.AllAvoid '\n') (hr : registries.AllAvoid '\r')
    {model : Model} (h : ∃ rendered, model.rendered registries = .ok rendered) :
    SingleLine (model.line registries).toList ↔ model.IsSingleLine := by
  obtain ⟨rendered, hm⟩ := h
  have hiff : ∀ {c : Char}, ¬IsPrintableAscii c → registries.AllAvoid c →
      (c ∉ rendered.text.toList ↔ ∀ data ∈ model.rawTexts, ∀ text,
        Utf8.decode data = .ok text → c ∉ text.toList) := by
    intro c hc ha
    have hplain : c ∉ Rendered.undecodable.toList := not_mem_of_isPlain hc _ (by decide)
    rw [mem_rendered_iff hc ha hm]
    constructor
    · intro hnone data hd text ht hmem
      refine hnone ⟨data, hd, ?_⟩
      simp only [Rendered.ofOctets, ht]
      exact hmem
    · rintro hall ⟨data, hd, hmem⟩
      simp only [Rendered.ofOctets] at hmem
      split at hmem
      · next text ht => exact hall data hd text ht hmem
      · exact hplain hmem
  rw [line_of_rendered hm, SingleLine, hiff (by decide) hn, hiff (by decide) hr]
  constructor
  · exact fun h data hd text ht => ⟨h.1 data hd text ht, h.2 data hd text ht⟩
  · exact fun h => ⟨fun data hd text ht => (h data hd text ht).1,
      fun data hd text ht => (h data hd text ht).2⟩

/-- Rendered models without raw text are told by their lines. -/
theorem eq_of_line (h : registries.TellsLines) {first second : Model}
    (hf : ∃ rendered, first.rendered registries = .ok rendered)
    (hs : ∃ rendered, second.rendered registries = .ok rendered)
    (hr : first.kind.showsRawText = false)
    (he : first.line registries = second.line registries) : first = second := by
  obtain ⟨x, hx⟩ := hf
  obtain ⟨y, hy⟩ := hs
  rw [line_of_rendered hx, line_of_rendered hy] at he
  exact eq_of_rendered hx hy he (ModelKind.ne_of_sort hr rfl) (ModelKind.ne_of_sort hr rfl)
    (fun _ => h.severities) (fun _ => h.pairs)

/-- Lists of rendered models without raw text are told by their lines. -/
theorem eq_of_map_line (h : registries.TellsLines) {xs ys : List Model}
    (hx : ∀ model ∈ xs, (∃ rendered, model.rendered registries = .ok rendered) ∧
      model.kind.showsRawText = false)
    (hy : ∀ model ∈ ys, ∃ rendered, model.rendered registries = .ok rendered)
    (he : xs.map (line registries) = ys.map (line registries)) : xs = ys := by
  induction xs generalizing ys with
  | nil =>
    cases ys with
    | nil => rfl
    | cons y ys => cases he
  | cons x xs ih =>
    cases ys with
    | nil => cases he
    | cons y ys =>
      obtain ⟨⟨hxr, hraw⟩, hxs⟩ := List.forall_mem_cons.mp hx
      obtain ⟨hyr, hys⟩ := List.forall_mem_cons.mp hy
      rw [List.map_cons, List.map_cons, List.cons.injEq] at he
      rw [eq_of_line h hxr hyr hraw he.1, ih hxs hys he.2]

end Model

/-- Digests in digits are the same only if the digests are. -/
theorem Sha256.digest_eq_of_hexDigest {a b : Bytes} (h : hexDigest a = hexDigest b) :
    digest a = digest b := by
  have hd : ∀ {x y : Bytes}, x.flatMap (fun octet => hexPadded 2 (UInt8.code octet)) =
      y.flatMap (fun octet => hexPadded 2 (UInt8.code octet)) → x = y := by
    intro x y he
    induction x generalizing y with
    | nil =>
      cases y with
      | nil => rfl
      | cons octet y =>
        obtain ⟨c, rest, hc, -⟩ := hexPadded_eq_cons 2 (UInt8.code octet)
        rw [List.flatMap_cons, hc] at he
        cases he
    | cons octet x ih =>
      cases y with
      | nil =>
        obtain ⟨c, rest, hc, -⟩ := hexPadded_eq_cons 2 (UInt8.code octet)
        rw [List.flatMap_cons, hc] at he
        cases he
      | cons other y =>
        rw [List.flatMap_cons, List.flatMap_cons] at he
        obtain ⟨ho, hr⟩ := legible_hexPadded_octet.eq_of_append (fun _ _ => trivial)
          (fun _ _ => trivial) he
        rw [ho, ih hr]
  exact hd (String.ofList_inj.mp h)

namespace Transcript

/-- The content of a file that can be read. -/
theorem runIn_contentOf {path : GivenPath} {w : World} {content : Bytes}
    (h : w.files.read path = .ok content) :
    (contentOf (.ofPath path)).runIn w = (.ok content, w) := by
  have ho : (Datum.ofPath path).openOperand = .ok path := by cases path <;> rfl
  have hon : onFiles (w.files.read path) = pure content := by
    rw [h]
    rfl
  unfold contentOf
  rw [ho, Action.runIn_bind_of_ok (Action.runIn_ofResult _ w),
    Action.runIn_bind_of_ok (Action.runIn_get w), hon]
  rfl

/-- The digest of a file that can be read. -/
theorem runIn_digestOf {path : GivenPath} {w : World} {content : Bytes}
    (h : w.files.read path = .ok content) :
    (digestOf (.ofPath path)).runIn w = (.ok (Sha256.hexDigest content), w) := by
  unfold digestOf
  rw [Action.runIn_bind_of_ok (runIn_contentOf h)]
  rfl

/-- The octets of lines of models without raw text tell the models. -/
theorem octetsOfLines_map_line_inj (h : registries.TellsLines) {xs ys : List Model}
    (hx : ∀ model ∈ xs, ∃ rendered, model.rendered registries = .ok rendered)
    (hy : ∀ model ∈ ys, ∃ rendered, model.rendered registries = .ok rendered)
    (hxr : ∀ model ∈ xs, model.kind.showsRawText = false)
    (hyr : ∀ model ∈ ys, model.kind.showsRawText = false) :
    octetsOfLines (xs.map (Model.line registries)) =
      octetsOfLines (ys.map (Model.line registries)) ↔ xs = ys := by
  have hfeed : ∀ {models : List Model}, (∀ model ∈ models, model.kind.showsRawText = false) →
      ∀ line ∈ models.map (Model.line registries), '\n' ∉ line.toList := by
    intro models hm line hl
    obtain ⟨model, hmem, rfl⟩ := List.mem_map.mp hl
    exact Model.newline_not_mem_line h.newline (hm model hmem)
  constructor
  · intro he
    exact Model.eq_of_map_line h (fun model hm => ⟨hx model hm, hxr model hm⟩) hy
      (octetsOfLines_injective (hfeed hxr) (hfeed hyr) he)
  · intro he
    rw [he]

/-- Models that are kept in two fresh files, one after the other: both files hold the
lines of their models in the end. -/
theorem read_of_keep_keep (hn : naming.registries? = some registries) {xs ys : List Model}
    (hx : ∀ model ∈ xs, ∃ rendered, model.rendered registries = .ok rendered)
    (hy : ∀ model ∈ ys, ∃ rendered, model.rendered registries = .ok rendered) {w : World}
    {name directory other elsewhere : Datum} (hf : Fresh w.files name directory)
    (hg : Fresh ((keep naming xs name directory).runIn w).2.files other elsewhere) :
    let first := (keep naming xs name directory).runIn w
    let second := (keep naming ys other elsewhere).runIn first.2
    ∃ p q, first.1 = .ok p ∧ second.1 = .ok q ∧
      second.2.files.read p = .ok (octetsOfLines (xs.map (Model.line registries))) ∧
      second.2.files.read q = .ok (octetsOfLines (ys.map (Model.line registries))) := by
  intro first second
  obtain ⟨p, files, log, hvacant, happended, hrun⟩ := runIn_keep hn hx hf
  obtain ⟨q, files', log', hvacant', happended', hrun'⟩ := runIn_keep hn hy hg
  have hfirst : first = (.ok p, { w with files := files, log := log }) := hrun
  have hsecond : second = (.ok q, { first.2 with files := files', log := log' }) := hrun'
  have hfiles : first.2.files = files := by rw [hfirst]
  have hlast : second.2.files = files' := by rw [hsecond]
  change first.2.files.lookup? q.place = none at hvacant'
  change first.2.files.Appended files' q _ at happended'
  rw [hfiles] at hvacant' happended'
  have hplace : p.place ≠ q.place := by
    intro he
    rw [← he, happended.file] at hvacant'
    cases hvacant'
  have ha := happended'.read_of_ne happended.read hplace
  have hb := happended'.read
  rw [FileTree.contentAt_of_none hvacant, List.nil_append, ← hlast] at ha
  rw [FileTree.contentAt_of_none hvacant', List.nil_append, ← hlast] at hb
  exact ⟨p, q, by rw [hfirst], by rw [hsecond], ha, hb⟩

/-- Keeping comes to an end exactly if all models can be rendered. -/
theorem exists_runIn_keep_iff (hn : naming.registries? = some registries) {models : List Model}
    {w : World} {name directory : Datum} (hf : Fresh w.files name directory) :
    (∃ path, ((keep naming models name directory).runIn w).1 = .ok path) ↔
      ∀ model ∈ models, ∃ rendered, model.rendered registries = .ok rendered := by
  by_cases h : ∀ model ∈ models, ∃ rendered, model.rendered registries = .ok rendered
  · obtain ⟨path, files, log, -, -, hrun⟩ := runIn_keep hn h hf
    exact ⟨fun _ => h, fun _ => ⟨path, by rw [hrun]⟩⟩
  · obtain ⟨failure, log, hrun⟩ := runIn_keep_error hn h w name directory
    refine ⟨fun ⟨path, hp⟩ => ?_, fun ha => absurd ha h⟩
    rw [hrun] at hp
    cases hp

/-- Two streams of messages and extensions without raw text, each kept in a fresh file
of its own. Both are kept exactly if no record has a length with too many digits, and
then the files hold the same octets exactly if the streams are the same: their digests
tell the streams apart unless they collide. -/
theorem keep_tells_streams (hn : naming.registries? = some registries)
    (h : registries.TellsLines) {xs ys : List Model}
    (hx : ∀ model ∈ xs, model.isProtocol = true ∧ model.kind.showsRawText = false)
    (hy : ∀ model ∈ ys, model.isProtocol = true ∧ model.kind.showsRawText = false) {w : World}
    {name directory other elsewhere : Datum} (hf : Fresh w.files name directory)
    (hg : Fresh ((keep naming xs name directory).runIn w).2.files other elsewhere) :
    let first := (keep naming xs name directory).runIn w
    let second := (keep naming ys other elsewhere).runIn first.2
    ((∃ p q, first.1 = .ok p ∧ second.1 = .ok q) ↔
      ∀ model ∈ xs ++ ys, model.isWritable = true) ∧
    ∀ p q, first.1 = .ok p → second.1 = .ok q → ∃ a b,
      second.2.files.read p = .ok a ∧ second.2.files.read q = .ok b ∧ (a = b ↔ xs = ys) ∧
      ((digestOf (.ofPath p)).runIn second.2).1 = .ok (Sha256.hexDigest a) ∧
      ((digestOf (.ofPath q)).runIn second.2).1 = .ok (Sha256.hexDigest b) ∧
      (xs = ys → Sha256.hexDigest a = Sha256.hexDigest b) ∧
      (Sha256.hexDigest a = Sha256.hexDigest b →
        xs = ys ∨ a ≠ b ∧ Sha256.digest a = Sha256.digest b) := by
  intro first second
  have hxp := Model.forall_rendered_iff registries fun model hm => (hx model hm).1
  have hyp := Model.forall_rendered_iff registries fun model hm => (hy model hm).1
  constructor
  · rw [List.forall_mem_append, ← hxp, ← hyp, ← exists_runIn_keep_iff hn hf,
      ← exists_runIn_keep_iff hn hg]
    constructor
    · rintro ⟨p, q, hp, hq⟩
      exact ⟨⟨p, hp⟩, q, hq⟩
    · rintro ⟨⟨p, hp⟩, q, hq⟩
      exact ⟨p, q, hp, hq⟩
  · intro p q hp hq
    have hxr := (exists_runIn_keep_iff hn hf).mp ⟨p, hp⟩
    have hyr := (exists_runIn_keep_iff hn hg).mp ⟨q, hq⟩
    obtain ⟨path, path', hpath, hpath', ha, hb⟩ := read_of_keep_keep hn hxr hyr hf hg
    obtain rfl : path = p := Except.ok.inj (hpath.symm.trans hp)
    obtain rfl : path' = q := Except.ok.inj (hpath'.symm.trans hq)
    have hiff := octetsOfLines_map_line_inj h hxr hyr (fun model hm => (hx model hm).2)
      fun model hm => (hy model hm).2
    refine ⟨_, _, ha, hb, hiff, by rw [runIn_digestOf ha], by rw [runIn_digestOf hb],
      fun he => by rw [he], fun hd => ?_⟩
    by_cases he : xs = ys
    · exact .inl he
    · exact .inr ⟨fun hab => he (hiff.mp hab), Sha256.digest_eq_of_hexDigest hd⟩

/-- Two streams that differ in one group are kept as different octets. -/
theorem keep_tells_streams_of_groups :
    let xs : List Model := [.extension (.ellipticCurves [0x1D]), .extension .earlyData]
    let ys : List Model := [.extension (.ellipticCurves [0x1E]), .extension .earlyData]
    let first := (keep .assigned xs (.text "a") (.text "d")).runIn {}
    let second := (keep .assigned ys (.text "b") (.text "d")).runIn first.2
    ∃ a b, second.2.files.read (.text "d/a") = .ok a ∧
      second.2.files.read (.text "d/b") = .ok b ∧ a ≠ b := by
  intro xs ys first second
  have hx : ∀ model ∈ xs, model.isProtocol = true ∧ model.kind.showsRawText = false := by decide
  have hy : ∀ model ∈ ys, model.isProtocol = true ∧ model.kind.showsRawText = false := by decide
  have hg : Fresh first.2.files (.text "b") (.text "d") := {
    opens := ⟨rfl, rfl, .text "d", .text "d/b", _, rfl, rfl, rfl, rfl⟩
    vacant := fun names h => by
      obtain rfl := Option.some.inj h
      rfl }
  obtain ⟨a, b, ha, hb, hab, -⟩ := (keep_tells_streams rfl Registries.assigned_tellsLines hx hy
    fresh_of_empty hg).2 (.text "d/a") (.text "d/b") rfl rfl
  exact ⟨a, b, ha, hb, fun he => absurd (hab.mp he) (by decide)⟩

/-- A record whose length has too many digits is kept nowhere, so two streams of it are
the same and leave no files to be compared. -/
theorem keep_refuses_long_length :
    let model : Model := .message (.recordHeader ⟨0x16, 0x0301, Nat.pow 10 maxDigits⟩)
    let first := (keep .assigned [model] (.text "a") (.text "d")).runIn {}
    let second := (keep .assigned [model] (.text "a") (.text "d")).runIn first.2
    model.isProtocol = true ∧ model.kind.showsRawText = false ∧
      Fresh {} (.text "a") (.text "d") ∧
      first = (.error (.refused .tooManyDigits), {}) ∧
      second = (.error (.refused .tooManyDigits), {}) := by
  intro model first second
  have hw : model.rendered .assigned = .error (.refused .tooManyDigits) := by
    have hl : (Nat.pow 10 maxDigits < Nat.pow 10 maxDigits) = False := by simp
    simp only [model, Model.rendered, Message.isWritable, isWritable, Int.natAbs_natCast, hl,
      decide_false, Bool.false_eq_true, if_false]
  have hn : Naming.assigned.registries? = some .assigned := rfl
  have hm : ((Datum.model model).render (.ok .assigned)).runIn {} =
      (.error (.refused .tooManyDigits), {}) := by
    rw [Datum.runIn_render hn, hw]
  have hlines : ((Datum.ofModels [model]).renderLines (.ok .assigned)).runIn {} =
      (.error (.refused .tooManyDigits), {}) := by
    rw [Datum.renderLines_ofModels, List.map_cons, List.mapM_cons,
      Action.runIn_bind_of_error hm]
  have hfirst : first = (.error (.refused .tooManyDigits), {}) := by
    simp only [first, keep]
    rw [Action.runIn_bind_of_error hlines]
  refine ⟨rfl, rfl, fresh_of_empty, hfirst, ?_⟩
  simp only [second, hfirst]
  exact hfirst

/-- The lines of a file that can be read. -/
theorem runIn_read {path : GivenPath} {w : World} {lines : List String}
    (hl : ∀ line ∈ lines, chomp line = line)
    (h : w.files.read path = .ok (octetsOfLines lines)) :
    (read (.ofPath path)).runIn w = (.ok ((splitLines (unifyLineEnds
      (joinLines (lines.map String.toList)))).map String.ofList), w) := by
  unfold read
  rw [Action.runIn_bind_of_ok (runIn_contentOf h), decode_octetsOfLines hl]
  rfl

/-- A file that can be read compares as texts exactly if they are its lines once the line
feeds at their ends are taken away. -/
theorem runIn_compareRow {path : GivenPath} {w : World} {found : List String}
    (texts : List WideText) (h : (read (.ofPath path)).runIn w = (.ok found, w)) :
    ((compareRow (.ofPath path) (.ok (texts.map .text))).runIn w).1 =
      .ok (found.map WideText.ofString == texts.map WideText.chomp) := by
  unfold compareRow
  rw [Action.runIn_bind_of_ok h, expected_map_text]
  rfl

/-- A file that can be read compares as lines exactly if they are its lines once the line
feeds at their ends are taken away. -/
theorem runIn_compare_chomp {path : GivenPath} {w : World} {found : List String}
    (lines : List String) (h : (read (.ofPath path)).runIn w = (.ok found, w)) :
    ((compare (.ofPath path) (.list (lines.map .text))).runIn w).1 =
      .ok (found == lines.map chomp) := by
  have hsame : (found.map WideText.ofString ==
      (lines.map WideText.ofString).map WideText.chomp) = (found == lines.map chomp) :=
    Bool.eq_iff_iff.mpr (by rw [beq_iff_eq, beq_iff_eq, WideText.map_ofString_eq_iff])
  rw [compare, rowOf_map_text, ← map_text_map_ofString, runIn_compareRow _ h, hsame]

/-- A file that can be read compares as lines that do not end with a line feed exactly if
they are its lines. -/
theorem runIn_compare {path : GivenPath} {w : World} {found lines : List String}
    (hl : ∀ line ∈ lines, chomp line = line)
    (h : (read (.ofPath path)).runIn w = (.ok found, w)) :
    ((compare (.ofPath path) (.list (lines.map .text))).runIn w).1 = .ok (found == lines) := by
  rw [runIn_compare_chomp lines h, map_chomp hl]

/-- Lines are read back as they were written exactly if each is a single line. -/
theorem map_ofList_splitLines_iff (lines : List String) :
    (splitLines (unifyLineEnds (joinLines (lines.map String.toList)))).map String.ofList =
      lines ↔ ∀ line ∈ lines, SingleLine line.toList := by
  have htexts : ∀ texts : List String, (texts.map String.toList).map String.ofList = texts := by
    simp [Function.comp_def]
  have hchars : ∀ chars : List (List Char),
      (chars.map String.ofList).map String.toList = chars := by
    simp [Function.comp_def]
  constructor
  · intro h line hl
    have hmap := congrArg (List.map String.toList) h
    rw [hchars] at hmap
    exact (splitLines_unifyLineEnds_joinLines_iff _).mp hmap _ (List.mem_map_of_mem hl)
  · intro h
    have hsingle : ∀ chars ∈ lines.map String.toList, SingleLine chars := by
      intro chars hc
      obtain ⟨line, hl, rfl⟩ := List.mem_map.mp hc
      exact h line hl
    rw [(splitLines_unifyLineEnds_joinLines_iff _).mpr hsingle, htexts]

/-- A stream of messages and extensions that is kept in a fresh file with the assigned
names. It is kept exactly if no record has a length with too many digits. It gives one
line for each model, and the transcript is read back as these lines, and compares as
them, exactly if no raw text that was decoded into one of them holds a line end. -/
theorem keep_reads_back {models : List Model}
    (hp : ∀ model ∈ models, model.isProtocol = true) {w : World} {name directory : Datum}
    (hf : Fresh w.files name directory) :
    let kept := (keep .assigned models name directory).runIn w
    ((∃ path, kept.1 = .ok path) ↔ ∀ model ∈ models, model.isWritable = true) ∧
    ∀ path, kept.1 = .ok path → ∃ lines,
      (((Datum.ofModels models).renderLines (.ok .assigned)).runIn w).1 = .ok lines ∧
      lines.length = models.length ∧
      (((read (.ofPath path)).runIn kept.2).1 = .ok lines ↔
        ∀ model ∈ models, model.IsSingleLine) ∧
      (((compare (.ofPath path) (.list (lines.map .text))).runIn kept.2).1 = .ok true ↔
        ∀ model ∈ models, model.IsSingleLine) := by
  intro kept
  have hn : Naming.assigned.registries? = some .assigned := rfl
  have hnewline := Registries.assigned_allAvoid (c := '\n') (by decide)
  have hreturn := Registries.assigned_allAvoid (c := '\r') (by decide)
  constructor
  · rw [exists_runIn_keep_iff hn hf, Model.forall_rendered_iff .assigned hp]
  · intro path hpath
    have hr := (exists_runIn_keep_iff hn hf).mp ⟨path, hpath⟩
    obtain ⟨path', files, log, hvacant, happended, hrun⟩ := runIn_keep hn hr hf
    obtain ⟨log', hlines⟩ := Datum.runIn_renderLines hn hr w
    have hkept : kept = (.ok path', { w with files := files, log := log }) := hrun
    obtain rfl : path' = path := Except.ok.inj (by rw [← hpath, hkept])
    have hchomp : ∀ line ∈ models.map (Model.line .assigned), chomp line = line := by
      intro line hl
      obtain ⟨model, -, rfl⟩ := List.mem_map.mp hl
      exact model.chomp_line hnewline
    have hcontent := happended.read
    rw [FileTree.contentAt_of_none hvacant, List.nil_append] at hcontent
    have hread : (read (.ofPath path')).runIn kept.2 = _ :=
      runIn_read hchomp (by rw [hkept]; exact hcontent)
    have hsingle : (∀ line ∈ models.map (Model.line .assigned), SingleLine line.toList) ↔
        ∀ model ∈ models, model.IsSingleLine := by
      rw [List.forall_mem_map]
      exact forall_congr' fun model => forall_congr' fun hm =>
        Model.singleLine_line_iff hnewline hreturn (hr model hm)
    refine ⟨models.map (Model.line .assigned), by rw [hlines], List.length_map _, ?_, ?_⟩
    · rw [hread, ← hsingle, ← map_ofList_splitLines_iff]
      exact ⟨Except.ok.inj, fun h => by rw [h]⟩
    · rw [runIn_compare hchomp hread, ← hsingle, ← map_ofList_splitLines_iff]
      simp only [Except.ok.injEq, beq_iff_eq]

/-- Host names and names of protocols without line ends are read back, also where they
are not decoded. -/
theorem keep_reads_back_hostName :
    let models : List Model :=
      [.extension (.sni [(0, [0x61, 0x2E, 0x62])]), .extension (.alpn [[0x68, 0x32], [0xFF]])]
    let kept := (keep .assigned models (.text "a") (.text "d")).runIn {}
    ∃ lines, (((Datum.ofModels models).renderLines (.ok .assigned)).runIn {}).1 = .ok lines ∧
      ((read (.text "d/a")).runIn kept.2).1 = .ok lines ∧
      ((compare (.text "d/a") (.list (lines.map .text))).runIn kept.2).1 = .ok true := by
  intro models kept
  have hp : ∀ model ∈ models, model.isProtocol = true := by decide
  have hs : ∀ model ∈ models, model.IsSingleLine := by decide
  obtain ⟨lines, hl, -, hr, hc⟩ :=
    (keep_reads_back hp (w := {}) fresh_of_empty).2 (.text "d/a") rfl
  exact ⟨lines, hl, hr.mpr hs, hc.mpr hs⟩

/-- A host name with a line feed in it is read back as two lines. -/
theorem keep_splits_newline :
    let models : List Model := [.extension (.sni [(0, [0x61, 0x0A, 0x62])])]
    let kept := (keep .assigned models (.text "a") (.text "d")).runIn {}
    let line := "SNI([type=0x0,name=a\nb])"
    (∀ model ∈ models, model.isProtocol = true) ∧ Fresh {} (.text "a") (.text "d") ∧
      kept.1 = .ok (.text "d/a") ∧
      (((Datum.ofModels models).renderLines (.ok .assigned)).runIn {}).1 = .ok [line] ∧
      ((read (.text "d/a")).runIn kept.2).1 = .ok ["SNI([type=0x0,name=a", "b])"] ∧
      ((compare (.text "d/a") (.list [.text line])).runIn kept.2).1 = .ok false :=
  ⟨by decide, fresh_of_empty, rfl, rfl, rfl, rfl⟩

end Transcript

end TlsTranscript
