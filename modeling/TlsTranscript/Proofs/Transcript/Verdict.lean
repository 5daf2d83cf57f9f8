import TlsTranscript.Proofs.Transcript.History
import TlsTranscript.Proofs.Transcript.ReadBack

/-!
# One verdict for lines and octets

A transcript can be compared in two ways. Its octets can be decoded and cut into lines, and
the lines compared with given ones; or its digest can be compared with that of a fresh file
to which the given lines are added. Both say the same of a transcript that was written by
calls alone, as long as no line holds a line end but the line feeds at its end. Where a given
line holds a surrogate there is no such fresh file, and the comparison says no.
-/

namespace TlsTranscript

open Text

/-- A line loses nothing but its end. -/
theorem Text.mem_of_mem_chomp {line : String} {c : Char} (h : c ∈ (chomp line).toList) :
    c ∈ line.toList := by
  rw [chomp, trimEnd, String.toList_ofList, List.mem_reverse] at h
  exact List.mem_reverse.mp ((List.dropWhile_suffix _).subset h)

namespace Transcript

/-- A line that holds no carriage return, and no line feed but at its end. -/
def IsClean (line : String) : Prop := '\r' ∉ line.toList ∧ '\n' ∉ (chomp line).toList

instance (line : String) : Decidable (IsClean line) := inferInstanceAs (Decidable (_ ∧ _))

/-- A clean line is a single line without the line feeds at its end. -/
theorem IsClean.singleLine {line : String} (h : IsClean line) :
    SingleLine (chomp line).toList :=
  ⟨h.2, fun hm => h.1 (mem_of_mem_chomp hm)⟩

/-- Clean lines that are written to a file are read back, each without the line feeds at its
end. -/
theorem runIn_read_octetsOfLines {lines : List String} (h : ∀ line ∈ lines, IsClean line)
    {path : GivenPath} {w : World} (hread : w.files.read path = .ok (octetsOfLines lines)) :
    (read (.ofPath path)).runIn w = (.ok (lines.map chomp), w) := by
  have hsingle : ∀ line ∈ lines.map chomp, SingleLine line.toList :=
    List.forall_mem_map.mpr fun line hm => (h line hm).singleLine
  have hlines := (map_ofList_splitLines_iff (lines.map chomp)).mpr hsingle
  rw [octetsOfLines_eq_encode_chomp] at hread
  rw [runIn_read_encode hread, linesIn, String.toList_ofList, hlines]

/-- Clean lines are written as the same octets exactly if they are the same without the line
feeds at their ends. -/
theorem octetsOfLines_eq_iff {first second : List String}
    (hf : ∀ line ∈ first, IsClean line) (hs : ∀ line ∈ second, IsClean line) :
    octetsOfLines first = octetsOfLines second ↔ first.map chomp = second.map chomp := by
  have hchomp : ∀ {lines : List String}, (∀ line ∈ lines, IsClean line) →
      octetsOfLines (lines.map chomp) = octetsOfLines lines := fun h => by
    rw [octetsOfLines_eq_encode_chomp, octetsOfLines_eq_encode_chomp, map_chomp]
    exact List.forall_mem_map.mpr fun line hm => chomp_of_not_mem (h line hm).2
  have hfeed : ∀ {lines : List String}, (∀ line ∈ lines, IsClean line) →
      ∀ line ∈ lines.map chomp, '\n' ∉ line.toList :=
    fun h => List.forall_mem_map.mpr fun line hm => (h line hm).2
  constructor
  · intro h
    rw [← hchomp hf, ← hchomp hs] at h
    exact octetsOfLines_injective (hfeed hf) (hfeed hs) h
  · intro h
    rw [← hchomp hf, ← hchomp hs, h]

/-- A text that holds no carriage return, and no line feed but at its end. -/
def IsCleanText (text : WideText) : Prop :=
  .char '\r' ∉ text ∧ .char '\n' ∉ WideText.chomp text

instance (text : WideText) : Decidable (IsCleanText text) :=
  inferInstanceAs (Decidable (_ ∧ _))

/-- A text of characters is clean exactly if they are. -/
theorem isCleanText_ofString_iff {line : String} :
    IsCleanText (.ofString line) ↔ IsClean line := by
  rw [IsCleanText, IsClean, WideText.chomp_ofString, WideText.char_mem_ofString_iff,
    WideText.char_mem_ofString_iff]

/-- A call that succeeds has been given texts without surrogates. -/
theorem isPlain_of_appendRow {texts : List WideText} {name directory : Datum} {w after : World}
    {path : GivenPath}
    (h : (appendRow (.ok (texts.map .text)) name directory).runIn w = (.ok path, after)) :
    ∀ given ∈ texts, given.IsPlain := by
  rw [← arePlain_map_text_iff, ← runIn_appendRow_eq_ok_iff (opened?_of_appendRow h), h]

/-- A comparison and the digests give the same verdict. A file has come to be by calls that
add lines alone, and neither the texts that they have written to it nor the texts that it is
compared with hold a line end but line feeds at their ends. The comparison comes to an end,
and says no if one of the texts holds a surrogate; they cannot be added to any file then. Else
they can be added to every fresh file that can be opened. Wherever they are, the comparison
says yes exactly if the file holds the octets of the fresh one, and the digests of the two
are the same exactly then, apart from collisions. -/
theorem compare_agrees_with_octets {path : GivenPath} {u : World} {written : List String}
    (hwritten : Written path.place u.files written) {content : Bytes}
    (hread : u.files.read path = .ok content) (hclean : ∀ line ∈ written, IsClean line)
    {texts : List WideText} (hgiven : ∀ given ∈ texts, IsCleanText given) :
    ∃ same, ((compareRow (.ofPath path) (.ok (texts.map .text))).runIn u).1 = .ok same ∧
      (same = true → ∀ given ∈ texts, given.IsPlain) ∧
      ∀ (name directory : Datum) (v : World),
        ((∀ given ∈ texts, given.IsPlain) → Fresh v.files name directory →
          ∃ other after, v.files.lookup? other.place = none ∧
            (appendRow (.ok (texts.map .text)) name directory).runIn v = (.ok other, after)) ∧
        ∀ other after,
          (appendRow (.ok (texts.map .text)) name directory).runIn v = (.ok other, after) →
          (∀ given ∈ texts, given.IsPlain) ∧
          (v.files.lookup? other.place = none → ∃ fresh first second,
            after.files.read other = .ok fresh ∧
            (same = true ↔ content = fresh) ∧
            ((digestOf (.ofPath path)).runIn u).1 = .ok first ∧
            ((digestOf (.ofPath other)).runIn after).1 = .ok second ∧
            (same = true → first = second) ∧
            (first = second → same = true ∨
              content ≠ fresh ∧ Sha256.digest content = Sha256.digest fresh)) := by
  have hcontent : content = octetsOfLines written := by
    rw [← FileTree.contentAt_of_read hread, hwritten.contentAt]
  have hcompare := runIn_compareRow texts (runIn_read_octetsOfLines hclean (hcontent ▸ hread))
  refine ⟨_, hcompare, fun hs => ?_, fun name directory v =>
    ⟨fun hplain hfresh => ?_, fun other after h => ⟨isPlain_of_appendRow h, fun hvacant => ?_⟩⟩⟩
  · rw [beq_iff_eq] at hs
    have hchomp : ∀ chomped ∈ texts.map WideText.chomp, chomped.IsPlain := by
      rw [← hs]
      exact WideText.forall_isPlain_iff.mpr ⟨_, rfl⟩
    exact fun given hm => WideText.isPlain_chomp_iff.mp (hchomp _ (List.mem_map_of_mem hm))
  · obtain ⟨lines, rfl⟩ := WideText.forall_isPlain_iff.mp hplain
    obtain ⟨other, files, log, hvacant, -, hrun⟩ := runIn_append_fresh lines hfresh
    rw [append_map_text] at hrun
    exact ⟨other, _, hvacant, by rw [map_text_map_ofString]; exact hrun⟩
  · obtain ⟨lines, rfl⟩ := WideText.forall_isPlain_iff.mp (isPlain_of_appendRow h)
    have hnew : ∀ line ∈ lines, IsClean line := fun line hm =>
      isCleanText_ofString_iff.mp (hgiven _ (List.mem_map_of_mem hm))
    have hfresh := (appended_of_appendRow h).read
    rw [FileTree.contentAt_of_none hvacant, List.nil_append,
      textsOf_map_text_map_ofString] at hfresh
    have hiff : ((written.map chomp).map WideText.ofString ==
        (lines.map WideText.ofString).map WideText.chomp) = true ↔
          content = octetsOfLines lines := by
      rw [beq_iff_eq, WideText.map_ofString_eq_iff, hcontent, octetsOfLines_eq_iff hclean hnew]
    refine ⟨_, _, _, hfresh, hiff, by rw [runIn_digestOf hread], by rw [runIn_digestOf hfresh],
      fun hs => by rw [hiff.mp hs], fun hd => ?_⟩
    by_cases he : content = octetsOfLines lines
    · exact .inl (hiff.mpr he)
    · exact .inr ⟨he, Sha256.digest_eq_of_hexDigest hd⟩

/-- A call that fails at its second line and two calls behind it, one of them to another
file: the transcript compares as what they have written, a line feed at the end of a line
making no difference, and has the digest of a fresh file with it; it does not compare as the
beginning of it. -/
theorem compare_agrees_with_octets_failing :
    let first := (appendRow (.ok [.ofString "x\n\n", .text [.surrogate 0]]) (.text "a")
      (.text "d")).runIn {}
    let second := (appendRow (.ok [.ofString "u"]) (.text "b") (.text "d")).runIn first.2
    let u := ((append (.tuple [.text ""]) (.text "a") (.text "d")).runIn second.2).2
    let texts := ["x", "\n"].map WideText.ofString
    let beginning := ["x"].map WideText.ofString
    let digits := "d1329c6d1284e888680db5b03619fc08bdf1ee0b172c946ca6d1f18f5ea40d61"
    let whole := (appendRow (.ok (texts.map .text)) (.text "c") (.text "d")).runIn {}
    let part := (appendRow (.ok (beginning.map .text)) (.text "c") (.text "d")).runIn {}
    first.1 ≠ .ok (.text "d/a") ∧
      ((compareRow (.text "d/a") (.ok (texts.map .text))).runIn u).1 = .ok true ∧
      ((digestOf (.text "d/a")).runIn u).1 = .ok digits ∧
      ((digestOf (.text "d/c")).runIn whole.2).1 = .ok digits ∧
      ((compareRow (.text "d/a") (.ok (beginning.map .text))).runIn u).1 = .ok false ∧
      part.2.files.read (.text "d/c") ≠ u.files.read (.text "d/a") := by
  intro first second u texts beginning digits whole part
  have hwritten : Written (GivenPath.text "d/a").place u.files ["x\n\n", ""] :=
    ((Written.nothing rfl).call _ _ _).call _ _ _ |>.call _ _ _
  have hread : u.files.read (.text "d/a") = .ok [0x78, 0x0A, 0x0A] := rfl
  have hclean : ∀ line ∈ ["x\n\n", ""], IsClean line := by decide
  have htexts : ∀ given ∈ texts, IsCleanText given := by decide
  have hbeginning : ∀ given ∈ beginning, IsCleanText given := by decide
  have hdigits : Sha256.hexDigest [0x78, 0x0A, 0x0A] = digits := by decide +kernel
  have hgiven : ((digestOf (.text "d/a")).runIn u).1 = .ok digits := by
    rw [← hdigits]
    exact congrArg Prod.fst (runIn_digestOf hread)
  refine ⟨nofun, ?_⟩
  obtain ⟨same, hcompare, -, hverdict⟩ := compare_agrees_with_octets hwritten hread hclean htexts
  obtain ⟨fresh, d, e, hfresh, hiff, hd, he, hdigest, -⟩ :=
    ((hverdict (.text "c") (.text "d") {}).2 (.text "d/c") whole.2 rfl).2 rfl
  obtain rfl : [0x78, 0x0A, 0x0A] = fresh := Except.ok.inj hfresh
  have hsame := hiff.mpr rfl
  have hanother : ((digestOf (.text "d/c")).runIn whole.2).1 = .ok digits :=
    he.trans (hdigest hsame ▸ hd.symm.trans hgiven)
  refine ⟨hsame ▸ hcompare, hgiven, hanother, ?_⟩
  obtain ⟨same', hcompare', -, hverdict'⟩ :=
    compare_agrees_with_octets hwritten hread hclean hbeginning
  obtain ⟨fresh', d', e', hfresh', hiff', -⟩ :=
    ((hverdict' (.text "c") (.text "d") {}).2 (.text "d/c") part.2 rfl).2 rfl
  obtain rfl : [0x78, 0x0A] = fresh' := Except.ok.inj hfresh'
  have hother : same' = false := Bool.eq_false_iff.mpr fun h => absurd (hiff'.mp h) (by decide)
  exact ⟨hother ▸ hcompare', fun h => absurd (Except.ok.inj (hfresh'.symm.trans (h.trans hread)))
    (by decide)⟩

/-- The octets that a call leaves are not all there is to it if it fails: nothing is written of
a text with a surrogate, and yet a file that holds nothing does not compare as that text. -/
theorem compare_differs_at_surrogate :
    let u := ((appendRow (.ok []) (.text "a") (.text "d")).runIn {}).2
    let texts : List WideText := [[.surrogate 0]]
    let fresh := (appendRow (.ok (texts.map .text)) (.text "b") (.text "d")).runIn {}
    Written (GivenPath.text "d/a").place u.files [] ∧ (∀ given ∈ texts, IsCleanText given) ∧
      fresh.1 = .error (.unencodable ⟨0, 0, 1⟩) ∧
      fresh.2.files.read (.text "d/b") = u.files.read (.text "d/a") ∧
      ((compareRow (.text "d/a") (.ok (texts.map .text))).runIn u).1 = .ok false :=
  ⟨(Written.nothing rfl).call _ _ _, by decide, rfl, rfl, rfl⟩

end Transcript

end TlsTranscript
