import Mathlib.Data.List.Basic
import Mathlib.Data.List.TakeWhile
import Mathlib.Data.Set.List
import TlsTranscript.Proofs.Text.Lines
import TlsTranscript.Text.Wide

/-!
# Texts that can be written

A text can be written exactly if none of its units is a surrogate, and it is read back from
its characters then. The line feeds at the end of a line make no difference to that. Where
a text cannot be written, the fault is at its first surrogate.
-/

namespace TlsTranscript

namespace WideText

/-- A text without surrogates. -/
def IsPlain (text : WideText) : Prop := ∀ unit ∈ text, unit.isSurrogate = false

instance (text : WideText) : Decidable text.IsPlain :=
  inferInstanceAs (Decidable (∀ unit ∈ text, unit.isSurrogate = false))

/-- The character that a unit is, unless it is a surrogate. -/
def char? : TextUnit → Option Char
  | .char c => some c
  | .surrogate _ => none

/-- The characters among the units of a text. -/
def characters (text : WideText) : String := String.ofList (text.filterMap char?)

/-- Different characters are different units. -/
theorem char_injective : Function.Injective TextUnit.char := fun _ _ => TextUnit.char.inj

/-- A text of characters is told by them. -/
theorem ofString_injective : Function.Injective ofString := fun _ _ h =>
  String.toList_inj.mp (List.map_injective_iff.mpr char_injective h)

/-- The units of a text of characters are these. -/
theorem characters_ofString (text : String) : (ofString text).characters = text := by
  have hchars : char? ∘ TextUnit.char = some := rfl
  rw [characters, ofString, List.filterMap_map, hchars, List.filterMap_some, String.ofList_toList]

/-- A text without surrogates is the text of its characters. -/
theorem ofString_characters {text : WideText} (h : text.IsPlain) :
    ofString text.characters = text := by
  rw [ofString, characters, String.toList_ofList]
  induction text with
  | nil => rfl
  | cons unit rest ih =>
    obtain ⟨hunit, hrest⟩ := List.forall_mem_cons.mp h
    cases unit with
    | char c => rw [List.filterMap_cons, char?, List.map_cons, ih hrest]
    | surrogate offset => cases hunit

/-- A text of characters has no surrogates. -/
theorem isPlain_ofString (text : String) : (ofString text).IsPlain :=
  List.forall_mem_map.mpr fun _ _ => rfl

/-- A text without surrogates is a text of characters. -/
theorem isPlain_iff {text : WideText} : text.IsPlain ↔ ∃ chars, ofString chars = text :=
  ⟨fun h => ⟨text.characters, ofString_characters h⟩, fun ⟨chars, h⟩ => h ▸ isPlain_ofString chars⟩

/-- The characters of a text are those that it is made of. -/
theorem charsFrom_eq_ok_iff (index : Nat) {text : WideText} {chars : List Char} :
    charsFrom index text = .ok chars ↔ text = chars.map .char := by
  induction text generalizing index chars with
  | nil => cases chars <;> simp [charsFrom]
  | cons unit rest ih =>
    cases unit with
    | surrogate offset => cases chars <;> simp [charsFrom]
    | char c =>
      rw [charsFrom]
      cases chars with
      | nil => cases charsFrom (index + 1) rest <;> simp [Except.map]
      | cons other chars =>
        rw [List.map_cons, List.cons.injEq, ← ih (index + 1), TextUnit.char.injEq]
        cases charsFrom (index + 1) rest <;> simp [Except.map]

/-- A text is written as characters exactly if it is made of them. -/
theorem plain_eq_ok_iff {text : WideText} {chars : String} :
    plain text = .ok chars ↔ text = ofString chars := by
  have hchars : plain text = .ok chars ↔ charsFrom 0 text = .ok chars.toList := by
    rw [plain]
    cases charsFrom 0 text with
    | error fault => simp [Except.map]
    | ok found => simp [Except.map, ← String.toList_inj]
  rw [hchars, charsFrom_eq_ok_iff, ofString]

/-- A text of characters is written as they are. -/
theorem plain_ofString (text : String) : plain (ofString text) = .ok text :=
  plain_eq_ok_iff.mpr rfl

/-- Texts without surrogates are texts of characters. -/
theorem forall_isPlain_iff {texts : List WideText} :
    (∀ text ∈ texts, text.IsPlain) ↔ ∃ lines, List.map ofString lines = texts := by
  simp only [isPlain_iff]
  exact (Set.ext_iff.mp (Set.range_list_map ofString) texts).symm

/-- Whether a fault tells of the first surrogates of a text: characters alone stand in front
of them, and it counts those that stand side by side. -/
def Fault.IsOf (fault : Fault) (text : WideText) : Prop :=
  ∃ (front : List Char) (rest : WideText),
    text = front.map .char ++ .surrogate fault.offset :: rest ∧ fault.start = front.length ∧
      fault.count = (rest.takeWhile TextUnit.isSurrogate).length + 1

/-- A change of values is no cause of a fault. -/
theorem eq_error_of_map {α β : Type} {f : α → β} {value : Except Fault α} {fault : Fault}
    (h : value.map f = .error fault) : value = .error fault := by
  cases value with
  | ok result => cases h
  | error other => exact congrArg Except.error (Except.error.inj h)

/-- Where a text has no characters to be written, its first surrogates are told. -/
theorem charsFrom_eq_error (index : Nat) {text : WideText} {fault : Fault}
    (h : charsFrom index text = .error fault) :
    index ≤ fault.start ∧ Fault.IsOf { fault with start := fault.start - index } text := by
  induction text generalizing index with
  | nil => cases h
  | cons unit rest ih =>
    cases unit with
    | surrogate offset =>
      obtain rfl := Except.error.inj h
      exact ⟨Nat.le_refl index, [], rest, rfl, Nat.sub_self index, rfl⟩
    | char c =>
      obtain ⟨hstart, front, behind, rfl, hlength, hcount⟩ := ih (index + 1) (eq_error_of_map h)
      refine ⟨by omega, c :: front, behind, rfl, ?_, hcount⟩
      dsimp only at hlength ⊢
      rw [List.length_cons]
      omega

/-- A text with a surrogate has a fault, that of its first surrogates. -/
theorem exists_fault {text : WideText} (h : ¬text.IsPlain) :
    ∃ fault, plain text = .error fault ∧ fault.IsOf text := by
  cases hp : plain text with
  | ok chars => exact absurd (isPlain_iff.mpr ⟨chars, (plain_eq_ok_iff.mp hp).symm⟩) h
  | error fault =>
    exact ⟨fault, rfl, (charsFrom_eq_error 0 (eq_error_of_map hp)).2⟩

/-- A line of characters loses the line feeds at its end. -/
theorem chomp_ofString (line : String) : chomp (ofString line) = ofString (Text.chomp line) := by
  have hfeed : (fun unit => unit == .char '\n') ∘ TextUnit.char = (· == '\n') := by
    funext c
    exact Bool.eq_iff_iff.mpr (by simp)
  rw [chomp, Text.chomp, ofString, ofString, Text.trimEnd, Text.trimEnd, String.toList_ofList,
    ← List.map_reverse, List.dropWhile_map, hfeed, List.map_reverse]

/-- Lines of characters are texts without the line feeds at their ends exactly if the
characters are. -/
theorem map_ofString_eq_iff {found lines : List String} :
    found.map ofString = (lines.map ofString).map chomp ↔ found = lines.map Text.chomp := by
  have hchomp : chomp ∘ ofString = ofString ∘ Text.chomp := by
    funext line
    rw [Function.comp_apply, Function.comp_apply, chomp_ofString]
  rw [List.map_map, hchomp, ← List.map_map,
    (List.map_injective_iff.mpr ofString_injective).eq_iff]

/-- A line loses no surrogate with the line feeds at its end. -/
theorem isPlain_chomp_iff {line : WideText} : (chomp line).IsPlain ↔ line.IsPlain := by
  have hmem : ∀ unit, unit ∈ chomp line ↔
      unit ∈ line.reverse.dropWhile (· == .char '\n') := fun unit => List.mem_reverse
  constructor
  · intro h unit hm
    rw [← List.mem_reverse,
      ← List.takeWhile_append_dropWhile (p := (· == .char '\n')) (l := line.reverse)] at hm
    rcases List.mem_append.mp hm with hdropped | hkept
    · obtain rfl : unit = .char '\n' := by simpa using List.mem_takeWhile_imp hdropped
      rfl
    · exact h unit ((hmem unit).mpr hkept)
  · intro h unit hm
    exact h unit (List.mem_reverse.mp ((List.dropWhile_suffix _).subset ((hmem unit).mp hm)))

/-- A text without a line end. -/
def SingleLine (text : WideText) : Prop := .char '\n' ∉ text ∧ .char '\r' ∉ text

instance (text : WideText) : Decidable text.SingleLine := inferInstanceAs (Decidable (_ ∧ _))

/-- The characters of a text are its units. -/
theorem char_mem_ofString_iff {c : Char} {text : String} :
    .char c ∈ ofString text ↔ c ∈ text.toList := List.mem_map_of_injective char_injective

/-- A text of characters has no line end exactly if they have none. -/
theorem singleLine_ofString_iff {text : String} :
    (ofString text).SingleLine ↔ Text.SingleLine text.toList := by
  rw [SingleLine, Text.SingleLine, char_mem_ofString_iff, char_mem_ofString_iff]

end WideText

end TlsTranscript
