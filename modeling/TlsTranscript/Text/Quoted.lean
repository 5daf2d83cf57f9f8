import TlsTranscript.Text.Hex
import TlsTranscript.Text.Printable

/-!
# Quoted literals

Texts and octet strings between quotes on one line. Single quotes are the rule;
double quotes stand around content that holds a single quote and no double one.
The quote in use and the backslash are written with a backslash before them, a
tab, a line feed and a carriage return by their letters, and what cannot be
printed by its code in base sixteen.
-/

namespace TlsTranscript

namespace Text

/-- The quote that goes around content with these properties. -/
def quoteMark (hasSingle hasDouble : Bool) : Char :=
  if hasSingle && !hasDouble then '"' else '\''

/-- A text between single quotes, as it stands. -/
def inQuotes (text : String) : String := "'" ++ text ++ "'"

/-- The escape for a code: a backslash, a letter and digits up to a width. -/
def codeEscape (letter : Char) (width code : Nat) : List Char :=
  '\\' :: letter :: Digits.fill width (Digits.ofNat 16 code)

/-- One character inside the given quotes. -/
def quotedChar (quote c : Char) : List Char :=
  if c = quote ∨ c = '\\' then ['\\', c]
  else if c = '\t' then ['\\', 't']
  else if c = '\n' then ['\\', 'n']
  else if c = '\r' then ['\\', 'r']
  else if 0x20 ≤ c.toNat ∧ c.toNat < 0x7F then [c]
  else if isPrintable c then [c]
  else if c.toNat ≤ 0xFF then codeEscape 'x' 2 c.toNat
  else if c.toNat ≤ 0xFFFF then codeEscape 'u' 4 c.toNat
  else codeEscape 'U' 8 c.toNat

/-- A text as a quoted literal. -/
def quoted (text : String) : String :=
  let content := text.toList
  let quote := quoteMark (content.contains '\'') (content.contains '"')
  String.ofList (quote :: content.flatMap (quotedChar quote) ++ [quote])

/-- One octet inside the given quotes. -/
def quotedOctet (quote : Char) (octet : UInt8) : List Char :=
  if octet < 0x80 then
    let c := Char.ofNat octet.toNat
    if c = quote ∨ c = '\\' then ['\\', c]
    else if c = '\t' then ['\\', 't']
    else if c = '\n' then ['\\', 'n']
    else if c = '\r' then ['\\', 'r']
    else if 0x20 ≤ octet ∧ octet < 0x7F then [c]
    else codeEscape 'x' 2 octet.toNat
  else codeEscape 'x' 2 octet.toNat

end Text

/-- An octet string as a quoted literal, marked with the letter b. -/
def Bytes.quoted (data : Bytes) : String :=
  let quote := Text.quoteMark (data.contains 0x27) (data.contains 0x22)
  String.ofList ('b' :: quote :: data.flatMap (Text.quotedOctet quote) ++ [quote])

end TlsTranscript
