import TlsTranscript.Proofs.Text.LineEnds
import TlsTranscript.Proofs.Transcript.ReadBack

/-!
# Copies of transcripts

A file of any origin that is read as a transcript and written to a fresh file loses nothing
but the kinds of its line ends. Both files hold the same lines; the copy has a line feed for
each line end of the original, and one behind a last line that has none. A copy of the copy
is the copy again.
-/

namespace TlsTranscript

open Text

/-- The lines of a text hold no line ends. -/
theorem Text.singleLine_of_mem_linesIn {text line : String} (h : line ∈ linesIn text) :
    SingleLine line.toList := by
  obtain ⟨chars, hm, rfl⟩ := List.mem_map.mp h
  rw [String.toList_ofList]
  exact ⟨fun hc => (mem_of_mem_splitLines hm _ hc).1 rfl,
    fun hc => not_mem_unifyLineEnds _ (mem_of_mem_splitLines hm _ hc).2⟩

namespace Transcript

/-- The lines of a text as they are written: the text with a line feed for each line end and
one at its end. -/
def rewritten (text : String) : String :=
  String.ofList (joinLines ((linesIn text).map String.toList))

/-- The lines of a text are written as the octets that those of the text come to. -/
theorem encode_rewritten (text : String) :
    Utf8.encode (rewritten text) = normalize (Utf8.encode text) := by
  have hlines : (linesIn text).map String.toList = splitLines (unifyLineEnds text.toList) := by
    simp [linesIn, Function.comp_def]
  rw [rewritten, hlines, Utf8.encode, String.toList_ofList, flatMap_joinLines_splitLines,
    Utf8.encode]

/-- The lines of a text are those of what they are written as. -/
theorem linesIn_rewritten (text : String) : linesIn (rewritten text) = linesIn text := by
  rw [rewritten, linesIn, String.toList_ofList, map_ofList_splitLines_iff]
  exact fun line => singleLine_of_mem_linesIn

/-- The lines of a text as they are written to a file. -/
theorem octetsOfLines_linesIn (text : String) :
    octetsOfLines (linesIn text) = Utf8.encode (rewritten text) :=
  octetsOfLines_eq_encode fun _ hm => chomp_of_not_mem (singleLine_of_mem_linesIn hm).1

/-- A file that holds a text compares as its lines. -/
theorem runIn_compare_linesIn {path : GivenPath} {w : World} {text : String}
    (h : w.files.read path = .ok (Utf8.encode text)) :
    ((compare (.ofPath path) (.list ((linesIn text).map .text))).runIn w).1 = .ok true := by
  have hchomp : ∀ line ∈ linesIn text, chomp line = line := fun _ hm =>
    chomp_of_not_mem (singleLine_of_mem_linesIn hm).1
  rw [runIn_compare hchomp (runIn_read_encode h), beq_self_eq_true]

/-- A file read and its lines added to another one; answers the path of that one. -/
def copy (path : GivenPath) (name directory : Datum) : Action GivenPath := do
  let lines ← read (.ofPath path)
  append (.list (lines.map .text)) name directory

/-- A file at a path has been copied to a file at another path that was not there. -/
structure Copied (path : GivenPath) (name directory : Datum) (w : World) (other : GivenPath)
    (after : World) : Prop where
  /-- The other file was not there. -/
  vacant : w.files.lookup? other.place = none
  /-- The copy has come to an end. -/
  run : (copy path name directory).runIn w = (.ok other, after)

variable {path other : GivenPath} {name directory : Datum} {w after : World} {text : String}

/-- A copy adds the lines of its file. -/
theorem runIn_copy (h : w.files.read path = .ok (Utf8.encode text)) (name directory : Datum) :
    (copy path name directory).runIn w =
      (append (.list ((linesIn text).map .text)) name directory).runIn w := by
  unfold copy
  rw [Action.runIn_bind_of_ok (runIn_read_encode h)]

/-- A file that holds a text can be copied to a fresh file. -/
theorem exists_copied (h : w.files.read path = .ok (Utf8.encode text))
    (hf : Fresh w.files name directory) :
    ∃ other after, Copied path name directory w other after := by
  obtain ⟨other, files, log, hvacant, -, hrun⟩ := runIn_append_fresh (linesIn text) hf
  exact ⟨other, _, hvacant, (runIn_copy h name directory).trans hrun⟩

/-- The copy of a file that holds a text holds the lines of the text as they are written, and
the file holds what it held. -/
theorem Copied.read (hc : Copied path name directory w other after)
    (h : w.files.read path = .ok (Utf8.encode text)) :
    after.files.read path = .ok (Utf8.encode text) ∧
      after.files.read other = .ok (Utf8.encode (rewritten text)) := by
  have hrun := (runIn_copy h name directory).symm.trans hc.run
  rw [append_map_text] at hrun
  have happended := appended_of_appendRow hrun
  rw [textsOf, leadingTexts_map_ofString, octetsOfLines_linesIn] at happended
  refine ⟨happended.read_of_ne h fun he => ?_, ?_⟩
  · have hfile := (FileTree.leads_of_read h).2
    rw [he, hc.vacant] at hfile
    cases hfile
  · have hread := happended.read
    rw [FileTree.contentAt_of_none hc.vacant, List.nil_append] at hread
    exact hread

/-- A copy of a file that holds a text, line ends of every kind included. It can be made to
any fresh file that can be opened. Both files are read as the same lines after it, and each
compares as the lines of the other. The octets of the copy are those of the file with a line
feed for each line end, and one more if there is a last line without an end. A copy of the
copy can be made as well, and has the octets of the copy. -/
theorem copy_normalizes (h : w.files.read path = .ok (Utf8.encode text)) (name directory : Datum) :
    (Fresh w.files name directory → ∃ other after, Copied path name directory w other after) ∧
    ∀ other after, Copied path name directory w other after →
      (∃ lines, ((Transcript.read (.ofPath path)).runIn w).1 = .ok lines ∧
        ((Transcript.read (.ofPath path)).runIn after).1 = .ok lines ∧
        ((Transcript.read (.ofPath other)).runIn after).1 = .ok lines ∧
        ((compare (.ofPath other) (.list (lines.map .text))).runIn after).1 = .ok true ∧
        ((compare (.ofPath path) (.list (lines.map .text))).runIn after).1 = .ok true) ∧
      after.files.read other = .ok (normalize (Utf8.encode text)) ∧
      ∀ next elsewhere,
        (Fresh after.files next elsewhere → ∃ third last,
          Copied other next elsewhere after third last) ∧
        ∀ third last, Copied other next elsewhere after third last →
          last.files.read third = .ok (normalize (Utf8.encode text)) := by
  refine ⟨exists_copied h, fun other after hc => ?_⟩
  obtain ⟨hpath, hother⟩ := hc.read h
  have hlines := linesIn_rewritten text
  have hsame := runIn_compare_linesIn hother
  rw [hlines] at hsame
  refine ⟨⟨linesIn text, ?_, ?_, ?_, hsame, runIn_compare_linesIn hpath⟩, ?_, ?_⟩
  · rw [runIn_read_encode h]
  · rw [runIn_read_encode hpath]
  · rw [runIn_read_encode hother, hlines]
  · rw [hother, encode_rewritten]
  · refine fun next elsewhere => ⟨exists_copied hother, fun third last hagain => ?_⟩
    have htwice : rewritten (rewritten text) = rewritten text := by
      rw [rewritten, hlines, rewritten]
    rw [(hagain.read hother).2, htwice, encode_rewritten]

/-- Each carriage return is counted once, with the line feed behind it or alone: of two in
front of a line feed the second goes with it, one behind a line feed makes an empty line. A
last line without an end gets one, and a copy of the copy changes no more. -/
theorem copy_normalizes_mixed :
    let w : World := { files := [(.ofNames [[0x64]], .directory), (.ofNames [[0x64], [0x70]],
      .file [0x61, 0x0D, 0x0D, 0x0A, 0x0A, 0x0D, 0x62, 0x0D, 0xC3, 0xA9])] }
    let first := (copy (.text "d/p") (.text "q") (.text "d")).runIn w
    let second := (copy (.text "d/q") (.text "r") (.text "d")).runIn first.2
    let lines := ["a", "", "", "", "b", "é"]
    ((read (.text "d/p")).runIn w).1 = .ok lines ∧
      ((read (.text "d/q")).runIn first.2).1 = .ok lines ∧
      first.2.files.read (.text "d/q") =
        .ok [0x61, 0x0A, 0x0A, 0x0A, 0x0A, 0x62, 0x0A, 0xC3, 0xA9, 0x0A] ∧
      second.2.files.read (.text "d/r") = first.2.files.read (.text "d/q") := by
  intro w first second lines
  have h : w.files.read (.text "d/p") = .ok (Utf8.encode "a\r\r\n\n\rb\ré") := rfl
  obtain ⟨⟨found, hbefore, -, hlines, -⟩, hread, hagain⟩ := (copy_normalizes h (.text "q")
    (.text "d")).2 (.text "d/q") first.2 ⟨rfl, rfl⟩
  have hthird := (hagain (.text "r") (.text "d")).2 (.text "d/r") second.2 ⟨rfl, Prod.ext rfl rfl⟩
  have hoctets : normalize (Utf8.encode "a\r\r\n\n\rb\ré") =
    [0x61, 0x0A, 0x0A, 0x0A, 0x0A, 0x62, 0x0A, 0xC3, 0xA9, 0x0A] := by decide
  have hfound : ((read (.text "d/p")).runIn w).1 = .ok lines := rfl
  obtain rfl : found = lines := Except.ok.inj (hbefore.symm.trans hfound)
  exact ⟨hbefore, hlines, hread.trans (congrArg Except.ok hoctets), hthird.trans hread.symm⟩

end Transcript

end TlsTranscript
