import TlsTranscript.Proofs.Text.Wide
import TlsTranscript.Transcript

/-!
# What is written of lines

Lines are written one by one up to the first that cannot be: a datum that is no text, or a
text with a surrogate. What stands in front of it are plain texts, and each is written
without the line feeds at its end and with one line feed behind it.
-/

namespace TlsTranscript

/-- A datum that is no text cannot be a line. -/
theorem Datum.exists_lineOperand_error {datum : Datum} (h : datum.text? = none) :
    ∃ failure, datum.lineOperand = .error failure := by
  cases datum with
  | text value => cases h
  | _ => exact ⟨_, rfl⟩

namespace Line

/-- The characters of a line that can be written: a text without surrogates. -/
def plain? : Line → Option String
  | .text value => if value.IsPlain then some value.characters else none
  | .other _ _ => none

/-- A text can be written exactly if it holds no surrogate. -/
theorem isSome_plain?_text (value : WideText) :
    (Line.text value).plain?.isSome = true ↔ value.IsPlain := by
  rw [plain?]
  split
  · next h => exact ⟨fun _ => h, fun _ => rfl⟩
  · next h => exact ⟨nofun, fun hplain => absurd hplain h⟩

/-- The characters of a text of characters. -/
theorem plain?_ofString (line : String) : (ofString line).plain? = some line := by
  rw [ofString, plain?, if_pos (WideText.isPlain_ofString line), WideText.characters_ofString]

/-- A line that can be written is a text of its characters. -/
theorem eq_ofString_of_plain? {line : Line} {chars : String} (h : line.plain? = some chars) :
    line = ofString chars := by
  cases line with
  | other datum noText => cases h
  | text value =>
    rw [plain?] at h
    split at h
    · next hplain =>
      rw [ofString, ← Option.some.inj h, WideText.ofString_characters hplain]
    · cases h

/-- A text of characters as it is looked for: without the line feeds at its end. -/
theorem operand_ofString (line : String) :
    (ofString line).operand = .ok (WideText.ofString (Text.chomp line)) := by
  rw [ofString, operand, WideText.chomp_ofString]

/-- A text of characters is written without the line feeds at its end. -/
theorem written_ofString (line : String) : (ofString line).written = .ok (Text.chomp line) := by
  rw [written, operand_ofString]
  simp only [WideText.plain_ofString]

/-- Whether a line fails with a failure when it is written: a text with that of its first
surrogates, another datum as it does wherever a line is needed. -/
def FailsWith : Line → Failure → Prop
  | .text value, failure =>
    ∃ fault, failure = .unencodable fault ∧ fault.IsOf (WideText.chomp value)
  | .other datum _, failure => datum.lineOperand = .error failure

/-- A line that has no characters of its own is not written. -/
theorem exists_written_error {line : Line} (h : line.plain? = none) :
    ∃ failure, line.written = .error failure ∧ line.FailsWith failure := by
  cases line with
  | other datum noText =>
    obtain ⟨failure, hf⟩ := Datum.exists_lineOperand_error noText
    exact ⟨failure, by rw [written, operand, hf]; rfl, hf⟩
  | text value =>
    have hplain : ¬value.IsPlain := fun hp => by
      rw [← isSome_plain?_text, h] at hp
      cases hp
    obtain ⟨fault, hf, hfirst⟩ :=
      WideText.exists_fault fun hp => hplain (WideText.isPlain_chomp_iff.mp hp)
    exact ⟨.unencodable fault, by rw [written, operand]; simp only [hf], fault, rfl, hfirst⟩

end Line

namespace Transcript

/-- The texts in front of the first line that cannot be written. -/
def leadingTexts : List Line → List String
  | [] => []
  | line :: rest =>
    match line.plain? with
    | some text => text :: leadingTexts rest
    | none => []

/-- Whether lines can be written, all of them: they are texts without surrogates. -/
def arePlain (lines : List Line) : Bool := lines.all fun line => line.plain?.isSome

/-- What lines come to in a file: each without the line feeds at its end and with one
line feed behind it. -/
def octetsOfLines (lines : List String) : Bytes :=
  lines.flatMap fun line => Utf8.encode (Text.chomp line) ++ [0x0A]

/-- A text of characters is written in front of the lines behind it. -/
theorem linesOf_ofString_cons (line : String) (rest : List Line) :
    linesOf (.ofString line :: rest) = (Text.chomp line :: (linesOf rest).1, (linesOf rest).2) := by
  rw [linesOf, Line.written_ofString]

/-- A text of characters is one of the texts in front. -/
theorem leadingTexts_ofString_cons (line : String) (rest : List Line) :
    leadingTexts (.ofString line :: rest) = line :: leadingTexts rest := by
  rw [leadingTexts, Line.plain?_ofString]

/-- A text of characters can be written with the lines behind it. -/
theorem arePlain_ofString_cons (line : String) (rest : List Line) :
    arePlain (.ofString line :: rest) = arePlain rest := by
  rw [arePlain, List.all_cons, Line.plain?_ofString, Option.isSome_some, Bool.true_and, arePlain]

/-- What is written of lines are the texts in front of the first that cannot be written. -/
theorem fst_linesOf (lines : List Line) :
    (linesOf lines).1 = (leadingTexts lines).map Text.chomp := by
  induction lines with
  | nil => rfl
  | cons line rest ih =>
    cases hp : line.plain? with
    | some chars =>
      obtain rfl := Line.eq_ofString_of_plain? hp
      rw [linesOf_ofString_cons, leadingTexts_ofString_cons, List.map_cons, ih]
    | none =>
      obtain ⟨failure, hf, -⟩ := Line.exists_written_error hp
      rw [linesOf, hf, leadingTexts, hp]
      rfl

/-- Writing lines fails exactly if one of them cannot be written. -/
theorem snd_linesOf_eq_none_iff (lines : List Line) :
    (linesOf lines).2 = none ↔ arePlain lines = true := by
  induction lines with
  | nil => exact ⟨fun _ => rfl, fun _ => rfl⟩
  | cons line rest ih =>
    cases hp : line.plain? with
    | some chars =>
      obtain rfl := Line.eq_ofString_of_plain? hp
      rw [linesOf_ofString_cons, arePlain_ofString_cons, ih]
    | none =>
      obtain ⟨failure, hf, -⟩ := Line.exists_written_error hp
      rw [linesOf, hf, arePlain, List.all_cons, hp]
      exact ⟨nofun, nofun⟩

/-- Lines fail with the failure of the first that cannot be written. -/
theorem exists_of_snd_linesOf {lines : List Line} {failure : Failure}
    (h : (linesOf lines).2 = some failure) :
    ∃ front line rest, lines = front ++ line :: rest ∧ arePlain front = true ∧
      line.plain? = none ∧ line.FailsWith failure := by
  induction lines with
  | nil => cases h
  | cons line rest ih =>
    cases hp : line.plain? with
    | some chars =>
      obtain rfl := Line.eq_ofString_of_plain? hp
      rw [linesOf_ofString_cons] at h
      obtain ⟨front, failing, behind, rfl, hfront, hfails⟩ := ih h
      exact ⟨.ofString chars :: front, failing, behind, rfl,
        (arePlain_ofString_cons chars front).trans hfront, hfails⟩
    | none =>
      obtain ⟨other, hw, hfails⟩ := Line.exists_written_error hp
      rw [linesOf, hw] at h
      obtain rfl := Option.some.inj h
      exact ⟨[], line, rest, rfl, rfl, hp, hfails⟩

/-- What is written of lines, in octets. -/
theorem encode_fst_linesOf (lines : List Line) :
    encode (linesOf lines).1 = octetsOfLines (leadingTexts lines) := by
  rw [fst_linesOf, encode, octetsOfLines, List.flatMap_map]

/-- The texts that are written of a row of lines, none if there is no row. -/
def textsOf : Except Failure (List Line) → List String
  | .ok lines => leadingTexts lines
  | .error _ => []

/-- What is written of a row of lines, in octets. -/
theorem encode_fst_linesOfRow (row : Except Failure (List Line)) :
    encode (linesOfRow row).1 = octetsOfLines (textsOf row) := by
  cases row with
  | ok lines => exact encode_fst_linesOf lines
  | error failure => exact encode_fst_linesOf []

/-- Plain texts in front of other lines stay in front. -/
theorem leadingTexts_append {lines : List Line} (h : arePlain lines = true) (more : List Line) :
    leadingTexts (lines ++ more) = leadingTexts lines ++ leadingTexts more := by
  induction lines with
  | nil => rfl
  | cons line rest ih =>
    obtain ⟨hline, hrest⟩ := List.forall_mem_cons.mp (List.all_eq_true.mp h)
    obtain ⟨chars, hp⟩ := Option.isSome_iff_exists.mp hline
    obtain rfl := Line.eq_ofString_of_plain? hp
    rw [List.cons_append, leadingTexts_ofString_cons, leadingTexts_ofString_cons,
      ih (List.all_eq_true.mpr hrest), List.cons_append]

/-- Texts of characters are their own texts in front. -/
theorem leadingTexts_map_ofString (lines : List String) :
    leadingTexts (lines.map .ofString) = lines := by
  induction lines with
  | nil => rfl
  | cons line rest ih => rw [List.map_cons, leadingTexts_ofString_cons, ih]

/-- Texts of characters are lines of characters. -/
theorem map_text_map_ofString (lines : List String) :
    (lines.map WideText.ofString).map Line.text = lines.map .ofString := List.map_map

/-- What is written of texts of characters are these texts. -/
theorem textsOf_map_text_map_ofString (lines : List String) :
    textsOf (.ok ((lines.map WideText.ofString).map .text)) = lines := by
  rw [textsOf, map_text_map_ofString, leadingTexts_map_ofString]

/-- Texts of characters can be written. -/
theorem arePlain_map_ofString (lines : List String) :
    arePlain (lines.map .ofString) = true := by
  induction lines with
  | nil => rfl
  | cons line rest ih => rw [List.map_cons, arePlain_ofString_cons, ih]

/-- The items of a list of texts are lines of characters. -/
theorem rowOf_map_text (lines : List String) :
    rowOf (.list (lines.map .text)) = .ok (lines.map .ofString) := by
  have hrow : rowOf (.list (lines.map .text)) =
    .ok ((lines.map Datum.text).map Line.ofDatum) := rfl
  rw [hrow, List.map_map]
  rfl

/-- A list of texts is added as lines of characters. -/
theorem append_map_text (lines : List String) (name directory : Datum) :
    append (.list (lines.map .text)) name directory =
      appendRow (.ok (lines.map .ofString)) name directory := by
  rw [append, rowOf_map_text]

/-- Texts can be written, all of them, exactly if none holds a surrogate. -/
theorem arePlain_map_text_iff (texts : List WideText) :
    arePlain (texts.map .text) = true ↔ ∀ text ∈ texts, text.IsPlain := by
  rw [arePlain, List.all_map, List.all_eq_true]
  exact forall₂_congr fun text _ => Line.isSome_plain?_text text

/-- Texts are looked for without the line feeds at their ends, whether they can be written or
not. -/
theorem expected_map_text (texts : List WideText) :
    expected (.ok (texts.map .text)) = .ok (texts.map WideText.chomp) := by
  have hrow : expected (.ok (texts.map .text)) = (texts.map Line.text).mapM Line.operand := rfl
  rw [hrow]
  induction texts with
  | nil => rfl
  | cons text rest ih =>
    rw [List.map_cons, List.mapM_cons, Line.operand, ih rfl]
    rfl

end Transcript

end TlsTranscript
