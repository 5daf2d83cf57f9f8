import TlsTranscript.Text.Hex
import TlsTranscript.Text.Lines

/-!
# Texts with surrogates

The texts of callers are rows of units. Most units are characters. The others are
surrogates: numbers between U+D800 and U+DFFF that are no characters, and two of them side
by side are none either. UTF-8 has octets for characters alone, so a text with a surrogate
cannot be written; the fault tells where the first surrogates stand.
-/

namespace TlsTranscript

/-- A unit of a text. -/
inductive TextUnit where
  /-- A character. -/
  | char (value : Char)
  /-- A surrogate, by its distance from the first one. -/
  | surrogate (offset : Fin 0x800)
  deriving DecidableEq

namespace TextUnit

/-- Whether a unit is a surrogate. -/
def isSurrogate : TextUnit → Bool
  | .char _ => false
  | .surrogate _ => true

end TextUnit

/-- A text that may hold surrogates. -/
abbrev WideText := List TextUnit

namespace WideText

/-- A text of characters. -/
def ofString (text : String) : WideText := text.toList.map .char

/-- A line without the line feeds at its end. -/
def chomp (line : WideText) : WideText := Text.trimEnd (· == .char '\n') line

/-- The first place where a text holds surrogates. -/
structure Fault where
  /-- Index of the first surrogate. -/
  start : Nat
  /-- The first surrogate, by its distance from the first of all. -/
  offset : Fin 0x800
  /-- How many surrogates stand there side by side. -/
  count : Nat
  deriving DecidableEq

/-- The wording of a fault: one surrogate is shown, several are given by their first and
last index. -/
def Fault.message (fault : Fault) : String :=
  if fault.count = 1 then
    "'utf-8' codec can't encode character '\\u" ++
      String.ofList (Text.hexPadded 4 (0xD800 + fault.offset.val : Nat)) ++
      "' in position " ++ Text.decimal fault.start ++ ": surrogates not allowed"
  else
    "'utf-8' codec can't encode characters in position " ++ Text.decimal fault.start ++ "-" ++
      Text.decimal (fault.start + fault.count - 1 : Nat) ++ ": surrogates not allowed"

/-- The characters of a text without surrogates. The number is the index of the first
unit. -/
def charsFrom (index : Nat) : WideText → Except Fault (List Char)
  | [] => .ok []
  | .char c :: rest => (charsFrom (index + 1) rest).map (c :: ·)
  | .surrogate offset :: rest =>
    .error ⟨index, offset, (rest.takeWhile TextUnit.isSurrogate).length + 1⟩

/-- The characters of a text as they can be written, or its first surrogates. -/
def plain (text : WideText) : Except Fault String := (charsFrom 0 text).map String.ofList

end WideText

end TlsTranscript
