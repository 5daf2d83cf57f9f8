import TlsTranscript.Proofs.Transcript.Compare
import TlsTranscript.Proofs.Transcript.Destination

/-!
# Lines behind others

Lines that are added to a transcript are read back behind the lines that were read of it
before, each without the line feeds at its end, exactly if no line holds a surrogate, nor a
line end once these are gone. The old content may be anything that is a text and is empty or
ends with a line feed, line ends of every kind included: its last line feed keeps a carriage
return of its own from meeting a line feed of the new lines.
-/

namespace TlsTranscript

open Text

/-- The lines of a text. -/
def Text.linesIn (text : String) : List String :=
  (splitLines (unifyLineEnds text.toList)).map String.ofList

/-- Lines that are put behind a text are found behind its own exactly if each is a single
line. -/
theorem Text.linesIn_append_iff {text : String} (h : Terminated text.toList)
    (lines : List String) :
    linesIn (text ++ String.ofList (joinLines (lines.map String.toList))) =
        linesIn text ++ lines ↔
      ∀ line ∈ lines, SingleLine line.toList := by
  rw [linesIn, linesIn, String.toList_append, String.toList_ofList, unifyLineEnds_append h,
    splitLines_append (terminated_unifyLineEnds h), List.map_append, List.append_right_inj,
    Transcript.map_ofList_splitLines_iff]

namespace Utf8

/-- Texts one after the other are encoded one after the other. -/
theorem encode_append (first second : String) :
    encode (first ++ second) = encode first ++ encode second := by
  simp only [encode, String.toList_append, List.flatMap_append]

end Utf8

namespace Transcript

/-- The lines of a file that holds a text. -/
theorem runIn_read_encode {path : GivenPath} {w : World} {text : String}
    (h : w.files.read path = .ok (Utf8.encode text)) :
    (read (.ofPath path)).runIn w = (.ok (linesIn text), w) := by
  unfold read
  rw [Action.runIn_bind_of_ok (runIn_contentOf h), decode, Utf8.decodeStream_encode]
  rfl

/-- Lines that are written behind a text, as a text. -/
def withLines (text : String) (lines : List String) : String :=
  text ++ String.ofList (joinLines ((lines.map chomp).map String.toList))

/-- A call that opens a file puts the texts that it writes behind what the file held. -/
theorem read_of_opened? (row : Except Failure (List Line)) {name directory : Datum} {w : World}
    {path : GivenPath} (h : opened? name directory w = some path) {text : String}
    (ht : w.files.contentAt path.place = Utf8.encode text) :
    ((appendRow row name directory).runIn w).2.files.read path =
      .ok (Utf8.encode (withLines text (textsOf row))) := by
  have hfiles := files_appendRow row name directory w
  rw [h] at hfiles
  have hread := hfiles.read
  rw [octetsOfLines_eq_encode_chomp, ht] at hread
  rw [withLines, Utf8.encode_append]
  exact hread

/-- Texts that are written behind a text are found behind its lines, each without the line
feeds at its end, exactly if none of them holds a surrogate, nor a line end then. -/
theorem linesIn_withLines_iff {text : String} (ht : Terminated text.toList)
    (texts : List WideText) :
    (linesIn (withLines text (textsOf (.ok (texts.map .text))))).map WideText.ofString =
        (linesIn text).map WideText.ofString ++ texts.map WideText.chomp ↔
      ∀ given ∈ texts, given.IsPlain ∧ (WideText.chomp given).SingleLine := by
  by_cases hplain : ∀ given ∈ texts, given.IsPlain
  · obtain ⟨lines, rfl⟩ := WideText.forall_isPlain_iff.mp hplain
    have hchomp : (lines.map WideText.ofString).map WideText.chomp =
        (lines.map chomp).map WideText.ofString := (WideText.map_ofString_eq_iff.mpr rfl).symm
    rw [textsOf_map_text_map_ofString, hchomp, ← List.map_append,
      (List.map_injective_iff.mpr WideText.ofString_injective).eq_iff, withLines,
      linesIn_append_iff ht, List.forall_mem_map, List.forall_mem_map]
    refine forall₂_congr fun line hm => ?_
    rw [WideText.chomp_ofString, WideText.singleLine_ofString_iff]
    exact ⟨fun h => ⟨hplain _ (List.mem_map_of_mem hm), h⟩, And.right⟩
  · refine ⟨fun h => absurd (fun given hm => ?_) hplain,
      fun h => absurd (fun given hm => (h given hm).1) hplain⟩
    -- A line that is found is a text of characters, and so is each of the texts.
    have hfound : WideText.chomp given ∈ (linesIn (withLines text
        (textsOf (.ok (texts.map .text))))).map WideText.ofString := by
      rw [h]
      exact List.mem_append_right _ (List.mem_map_of_mem hm)
    obtain ⟨line, -, hline⟩ := List.mem_map.mp hfound
    exact WideText.isPlain_chomp_iff.mp (WideText.isPlain_iff.mpr ⟨line, hline⟩)

/-- A call that opens a file answers its path exactly if all its lines can be written. -/
theorem runIn_appendRow_eq_ok_iff {name directory : Datum} {w : World} {path : GivenPath}
    (h : opened? name directory w = some path) (lines : List Line) :
    ((appendRow (.ok lines) name directory).runIn w).1 = .ok path ↔ arePlain lines = true := by
  obtain ⟨made, found, hd, ho⟩ := exists_of_opened? h
  obtain ⟨files, ha, -⟩ :=
    FileTree.appended_of_grows (.refl made.files) ho (octetsOfLines (textsOf (.ok lines)))
  have hlines : linesOfRow (.ok lines) = linesOf lines := rfl
  rw [appendRow_eq_destination_bind, Action.runIn_bind_of_ok hd, runIn_appendTo made _ ha,
    hlines, ← snd_linesOf_eq_none_iff]
  cases (linesOf lines).2 <;> simp

/-- A call that adds lines to a transcript. If it opens a file, it succeeds exactly if no line
holds a surrogate. If the file held a text that is empty or ends with a line feed, the new
lines are read behind the lines that were read before, each without the line feeds at its
end, exactly if none of them holds a surrogate, nor a line end then. A file that was not there
holds just these lines afterwards, and compares as the lines that were given, exactly under
the same condition. -/
theorem append_reads_back (texts : List WideText) (name directory : Datum) (w : World) :
    let added := (appendRow (.ok (texts.map .text)) name directory).runIn w
    ((Call.mk (texts.map .text) name directory).Opens w.files →
      ∃ path, opened? name directory w = some path) ∧
    ∀ path, opened? name directory w = some path →
      (added.1 = .ok path ↔ ∀ given ∈ texts, given.IsPlain) ∧
      (∀ text : String, Terminated text.toList → w.files.read path = .ok (Utf8.encode text) →
        ∃ before found, ((read (.ofPath path)).runIn w).1 = .ok before ∧
          ((read (.ofPath path)).runIn added.2).1 = .ok found ∧
          (found.map WideText.ofString =
              before.map WideText.ofString ++ texts.map WideText.chomp ↔
            ∀ given ∈ texts, given.IsPlain ∧ (WideText.chomp given).SingleLine)) ∧
      (w.files.lookup? path.place = none →
        ∃ found same, ((read (.ofPath path)).runIn added.2).1 = .ok found ∧
          ((compareRow (.ofPath path) (.ok (texts.map .text))).runIn added.2).1 = .ok same ∧
          (found.map WideText.ofString = texts.map WideText.chomp ↔
            ∀ given ∈ texts, given.IsPlain ∧ (WideText.chomp given).SingleLine) ∧
          (same = true ↔
            ∀ given ∈ texts, given.IsPlain ∧ (WideText.chomp given).SingleLine)) := by
  intro added
  refine ⟨Call.Opens.opened?, fun path h => ⟨?_, fun text ht hread => ?_, fun hnone => ?_⟩⟩
  · rw [runIn_appendRow_eq_ok_iff h, arePlain_map_text_iff]
  · have hnow : added.2.files.read path = _ :=
      read_of_opened? _ h (FileTree.contentAt_of_read hread)
    exact ⟨linesIn text, _, by rw [runIn_read_encode hread], by rw [runIn_read_encode hnow],
      linesIn_withLines_iff ht texts⟩
  · have hempty : w.files.contentAt path.place = Utf8.encode "" :=
      FileTree.contentAt_of_none hnone
    have hnow := runIn_read_encode (read_of_opened? (.ok (texts.map .text)) h hempty)
    have hterminated : Terminated "".toList := .inl rfl
    have hsame := linesIn_withLines_iff hterminated texts
    exact ⟨_, _, by rw [hnow], runIn_compareRow texts hnow, hsame, by rw [beq_iff_eq]; exact hsame⟩

/-- No character but a line feed and a carriage return is an end of a line: a byte order mark,
a tab, a form feed, the line separators of Unicode and a zero are read back behind a line that
ends with both. A carriage return at the end of a line is lost. -/
theorem append_reads_back_controls :
    let before : FileTree :=
      [(.ofNames [[0x64]], .directory), (.ofNames [[0x64], [0x61]], .file [0x78, 0x0D, 0x0A])]
    let texts := ["\uFEFFa\tb", "\x0C\u0085\u2028\x00", "", "y\n\n"].map WideText.ofString
    let added :=
      (appendRow (.ok (texts.map .text)) (.text "a") (.text "d")).runIn { files := before }
    let fresh :=
      (appendRow (.ok (texts.map .text)) (.text "b") (.text "d")).runIn { files := before }
    let broken :=
      (appendRow (.ok [.ofString "y\r"]) (.text "a") (.text "d")).runIn { files := before }
    ((read (.text "d/a")).runIn added.2).1 =
        .ok ["x", "\uFEFFa\tb", "\x0C\u0085\u2028\x00", "", "y"] ∧
      ((compareRow (.text "d/b") (.ok (texts.map .text))).runIn fresh.2).1 = .ok true ∧
      ((read (.text "d/a")).runIn broken.2).1 ≠ .ok ["x", "y\r"] := by
  intro before texts added fresh broken
  have hread : ((read (.text "d/a")).runIn { files := before }).1 = .ok ["x"] := rfl
  have hold : Terminated "x\r\n".toList := by decide
  have hgiven : ∀ given ∈ texts, given.IsPlain ∧ (WideText.chomp given).SingleLine := by decide
  have hinjective := List.map_injective_iff.mpr WideText.ofString_injective
  refine ⟨?_, ?_, ?_⟩
  · obtain ⟨-, hback, -⟩ := (append_reads_back texts (.text "a") (.text "d")
      { files := before }).2 (.text "d/a") rfl
    obtain ⟨old, found, ho, hf, hiff⟩ := hback "x\r\n" hold rfl
    obtain rfl := Except.ok.inj (hread.symm.trans ho)
    exact hf.trans (congrArg Except.ok (hinjective (hiff.mpr hgiven)))
  · obtain ⟨-, -, hback⟩ := (append_reads_back texts (.text "b") (.text "d")
      { files := before }).2 (.text "d/b") rfl
    obtain ⟨found, same, -, hc, -, hiff⟩ := hback rfl
    exact hc.trans (congrArg Except.ok (hiff.mpr hgiven))
  · obtain ⟨-, hback, -⟩ := (append_reads_back [WideText.ofString "y\r"] (.text "a") (.text "d")
      { files := before }).2 (.text "d/a") rfl
    obtain ⟨old, found, ho, hf, hiff⟩ := hback "x\r\n" hold rfl
    obtain rfl := Except.ok.inj (hread.symm.trans ho)
    intro he
    have hall := hiff.mp (congrArg (List.map WideText.ofString) (Except.ok.inj (hf.symm.trans he)))
    exact absurd hall (by decide)

/-- A text may be free of line ends and yet not be read back: one with a surrogate is not
written, the file stays empty and does not compare as the text. -/
theorem append_loses_surrogate :
    let texts : List WideText := [[.surrogate 0]]
    let added := (appendRow (.ok (texts.map .text)) (.text "a") (.text "d")).runIn {}
    (∀ given ∈ texts, (WideText.chomp given).SingleLine) ∧
      opened? (.text "a") (.text "d") {} = some (.text "d/a") ∧
      FileTree.lookup? [] (GivenPath.text "d/a").place = none ∧
      added.1 = .error (.unencodable ⟨0, 0, 1⟩) ∧
      ((read (.text "d/a")).runIn added.2).1 = .ok [] ∧
      ((compareRow (.text "d/a") (.ok (texts.map .text))).runIn added.2).1 = .ok false :=
  ⟨by decide, rfl, rfl, rfl, rfl, rfl⟩

end Transcript

end TlsTranscript
