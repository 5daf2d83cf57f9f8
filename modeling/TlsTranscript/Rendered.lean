import TlsTranscript.Log
import TlsTranscript.Text.Quoted
import TlsTranscript.Text.Utf8

/-!
# Renderings

A rendering is a text together with the log records written on the way, oldest
first. Renderings are put together side by side, as the items of a bracketed
list or as the labelled fields of a record; the records of the whole are always
those of the parts in the order of the parts.
-/

namespace TlsTranscript

/-- A text with the log records of its making. -/
structure Rendered where
  /-- The text. -/
  text : String
  /-- The records, oldest first. -/
  log : List LogRecord
  deriving DecidableEq

namespace Rendered

/-- A text that is worth no record. -/
def plain (text : String) : Rendered := ⟨text, []⟩

/-- Two renderings side by side. -/
def append (first second : Rendered) : Rendered :=
  ⟨first.text ++ second.text, first.log ++ second.log⟩

instance : Append Rendered := ⟨append⟩

/-- Renderings with a text between neighbours. -/
def join (separator : String) (parts : List Rendered) : Rendered :=
  ⟨separator.intercalate (parts.map text), parts.flatMap log⟩

/-- Renderings as the items of a list in brackets. -/
def list (items : List Rendered) : Rendered :=
  plain "[" ++ join ", " items ++ plain "]"

/-- One field of a record: a label and a value. -/
def field (label : String) (value : Rendered) : Rendered :=
  plain (label ++ ": ") ++ value

/-- A named record of labelled fields between braces. -/
def record (name : String) (fields : List (String × Rendered)) : Rendered :=
  plain (name ++ " \x7b ") ++ join ", " (fields.map fun entry => field entry.1 entry.2) ++
    plain " \x7d"

/-- A named value in parentheses. -/
def tagged (name : String) (content : Rendered) : Rendered :=
  plain (name ++ "(") ++ content ++ plain ")"

/-- What stands for a text that cannot be decoded. -/
def undecodable : String := "<error decoding utf8 string>"

/-- The text of octets. Octets that are not UTF-8 leave a record and a
placeholder. -/
def ofOctets (data : Bytes) : Rendered :=
  match Utf8.decode data with
  | .ok text => plain text
  | .error _ => ⟨undecodable, [.undecodableText (Bytes.quoted data)]⟩

@[simp] theorem text_append (a b : Rendered) : (a ++ b).text = a.text ++ b.text := rfl

@[simp] theorem log_append (a b : Rendered) : (a ++ b).log = a.log ++ b.log := rfl

@[simp] theorem text_plain (text : String) : (plain text).text = text := rfl

@[simp] theorem log_plain (text : String) : (plain text).log = [] := rfl

@[simp] theorem text_join (separator : String) (parts : List Rendered) :
    (join separator parts).text = separator.intercalate (parts.map text) := rfl

@[simp] theorem log_join (separator : String) (parts : List Rendered) :
    (join separator parts).log = parts.flatMap log := rfl

end Rendered

end TlsTranscript
