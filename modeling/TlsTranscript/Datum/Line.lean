import TlsTranscript.Datum.Operand

/-!
# Lines

What callers give for a line: a text, which may hold surrogates, or any datum that is no
text. A line is looked at in two steps. First it loses the line feeds at its end, which no
datum but a text can do; then it is written, which no text with a surrogate can be.
-/

namespace TlsTranscript

/-- The characters of a datum that is a text. -/
def Datum.text? : Datum → Option String
  | .text value => some value
  | _ => none

/-- What is given for a line. -/
inductive Line where
  /-- A text. -/
  | text (value : WideText)
  /-- A datum that is no text. -/
  | other (datum : Datum) (noText : datum.text? = none)

namespace Line

/-- A text of characters as a line. -/
def ofString (line : String) : Line := .text (.ofString line)

/-- A datum as a line. -/
def ofDatum (datum : Datum) : Line :=
  match h : datum.text? with
  | some line => .ofString line
  | none => .other datum h

/-- A line without the line feeds at its end. -/
def operand : Line → Except Failure WideText
  | .text value => .ok (WideText.chomp value)
  | .other datum _ => datum.lineOperand.map WideText.ofString

/-- A line as it is written, without the line feeds at its end. -/
def written (line : Line) : Except Failure String :=
  match line.operand with
  | .error failure => .error failure
  | .ok value =>
    match WideText.plain value with
    | .ok chars => .ok chars
    | .error fault => .error (.unencodable fault)

end Line

end TlsTranscript
