import TlsTranscript.EnvFile.Statement
import TlsTranscript.Keyed

/-!
# References in environment files

A value may refer to a name, and may give a default for it. The environment
decides first what the name stands for, then the bindings before the value, then
the default. What refers to nothing is left out.

This is assumed of the library that reads environment files when it does not override:
a name between braces, with or without a default, is the only form of a reference, the
environment wins over the file, and of several bindings of a name the last one stays.
-/

namespace TlsTranscript.EnvFile

/-- A reference to a name. -/
structure Reference where
  /-- The name. -/
  name : String
  /-- What stands in if nothing is bound to the name. -/
  default : String
  deriving DecidableEq

/-- The reference at the start of a text that follows its opening bracket, and
what follows the closing bracket. -/
def referenceOf? (text : List Char) : Option (Reference × List Char) :=
  let name := String.ofList (text.takeWhile fun c => c != ':' && c != '\x7d')
  match text.dropWhile fun c => c != ':' && c != '\x7d' with
  | ':' :: '-' :: rest =>
    match rest.dropWhile (· != '\x7d') with
    | _ :: after => some (⟨name, String.ofList (rest.takeWhile (· != '\x7d'))⟩, after)
    | [] => none
  | '\x7d' :: after => some (⟨name, ""⟩, after)
  | _ => none

/-- A part of a value. -/
inductive Piece where
  /-- A character that stands for itself. -/
  | literal (c : Char)
  /-- A reference. -/
  | reference (content : Reference)
  deriving DecidableEq

/-- The parts of a value, at most so many. -/
def piecesUpTo : Nat → List Char → List Piece
  | 0, _ => []
  | _, [] => []
  | count + 1, '$' :: '\x7b' :: rest =>
    match referenceOf? rest with
    | some (reference, after) => .reference reference :: piecesUpTo count after
    | none => .literal '$' :: piecesUpTo count ('\x7b' :: rest)
  | count + 1, c :: rest => .literal c :: piecesUpTo count rest

/-- The parts of a value. Every part takes a character. -/
def pieces (value : String) : List Piece :=
  piecesUpTo value.toList.length value.toList

/-- What a part stands for. -/
def Piece.expand (meaning : Reference → String) : Piece → List Char
  | .literal c => [c]
  | .reference content => (meaning content).toList

/-- A value whose references are replaced. -/
def expand (meaning : Reference → String) (value : String) : String :=
  String.ofList ((pieces value).flatMap (Piece.expand meaning))

/-- The name that a part refers to. -/
def Piece.name? : Piece → Option String
  | .literal _ => none
  | .reference content => some content.name

/-- The names that a value refers to. -/
def namesIn (value : String) : List String :=
  (pieces value).filterMap Piece.name?

/-- The names that bindings bind or refer to. -/
def namesOf (bindings : List Binding) : List String :=
  bindings.flatMap fun binding => binding.name :: namesIn (binding.value.getD "")

/-- What a reference stands for. A name that is bound to no value stands for
nothing, and so does one that nothing is bound to and that has no default. -/
def meaningOf (environment : Keyed String String) (before : Keyed String (Option String))
    (reference : Reference) : String :=
  match Keyed.get? reference.name environment with
  | some value => value
  | none =>
    match Keyed.get? reference.name before with
    | some (some value) => value
    | some none => ""
    | none => reference.default

/-- One more binding, its references replaced. -/
def bindNext (environment : Keyed String String) (before : Keyed String (Option String))
    (binding : Binding) : Keyed String (Option String) :=
  Keyed.put binding.name (binding.value.map (expand (meaningOf environment before))) before

/-- The names of a file with their values; the last binding of a name counts. -/
def resolve (environment : Keyed String String) (bindings : List Binding) :
    Keyed String (Option String) :=
  bindings.foldl (bindNext environment) []

end TlsTranscript.EnvFile
