import TlsTranscript.Text.Blank

/-!
# Statements of environment files

An environment file is a list of statements. A statement binds a name to a
value, or names it without one. The word `export` may stand before the name, a
comment after the value, and values between quotes may run over several lines.
What is no statement is dropped up to the end of the line on which that shows.

Environment files are read by a library. What is assumed of it is its documented
grammar: which characters make a name, what the two kinds of quotes escape, where a
value without quotes ends, and that reading goes on behind a faulty line.
-/

namespace TlsTranscript.EnvFile

open Text

/-- A name with the value bound to it, if any. -/
structure Binding where
  /-- The name. -/
  name : String
  /-- The value, its references not yet replaced. -/
  value : Option String
  deriving DecidableEq

/-- A character that does not end a line. -/
def isInLine (c : Char) : Bool := c != '\n' && c != '\r'

/-- What follows a line end, if a text starts with one. -/
def afterLineEnd : List Char → List Char
  | '\r' :: '\n' :: rest => rest
  | c :: rest => if isInLine c then c :: rest else rest
  | [] => []

/-- What follows the line on which a text starts. -/
def afterLine (text : List Char) : List Char := afterLineEnd (text.dropWhile isInLine)

/-- A text without the word `export` and the blanks behind it. -/
def skipExport (text : List Char) : List Char :=
  match text with
  | 'e' :: 'x' :: 'p' :: 'o' :: 'r' :: 't' :: c :: rest =>
    if isInlineBlank c then rest.dropWhile isInlineBlank else text
  | _ => text

/-- A character of a name without quotes. -/
def isNameChar (c : Char) : Bool := c != '=' && c != '#' && !isBlank c

/-- The name at the start of a text, and what follows it. A comment has none; an
empty name is no name. -/
def nameOf? : List Char → Option (Option String × List Char)
  | [] => none
  | '#' :: rest => some (none, '#' :: rest)
  | '\'' :: rest =>
    let name := rest.takeWhile (· != '\'')
    match rest.dropWhile (· != '\'') with
    | _ :: after => if name.isEmpty then none else some (some (String.ofList name), after)
    | [] => none
  | c :: rest =>
    let name := (c :: rest).takeWhile isNameChar
    if name.isEmpty then none
    else some (some (String.ofList name), (c :: rest).dropWhile isNameChar)

/-- A character put before a content that was found. -/
def prepend (c : Char) (found : List Char × List Char) : List Char × List Char :=
  (c :: found.1, found.2)

/-- The content before a closing quote, and what follows the quote. A backslash
takes the next character with it, so that a quote behind it does not close. -/
def closeQuote? (quote : Char) : List Char → Option (List Char × List Char)
  | [] => none
  | '\\' :: c :: rest =>
    (closeQuote? quote rest).map fun found => prepend '\\' (prepend c found)
  | ['\\'] => none
  | c :: rest =>
    if c = quote then some ([], rest) else (closeQuote? quote rest).map (prepend c)

/-- What stands for an escaped character between single quotes. -/
def singleEscape? : Char → Option Char
  | '\\' => some '\\'
  | '\'' => some '\''
  | _ => none

/-- What stands for an escaped character between double quotes. -/
def doubleEscape? : Char → Option Char
  | '\\' => some '\\'
  | '\'' => some '\''
  | '"' => some '"'
  | 'a' => some (Char.ofNat 7)
  | 'b' => some (Char.ofNat 8)
  | 'f' => some (Char.ofNat 12)
  | 'n' => some '\n'
  | 'r' => some '\r'
  | 't' => some '\t'
  | 'v' => some (Char.ofNat 11)
  | _ => none

/-- A content with its escapes replaced; other backslashes stay. -/
def unescape (escape? : Char → Option Char) : List Char → List Char
  | [] => []
  | '\\' :: c :: rest =>
    match escape? c with
    | some replaced => replaced :: unescape escape? rest
    | none => '\\' :: unescape escape? (c :: rest)
  | c :: rest => c :: unescape escape? rest

/-- A line up to the first blank that only blanks separate from a comment. -/
def cutComment : List Char → List Char
  | [] => []
  | c :: rest =>
    if isBlank c && (rest.dropWhile isBlank).head? == some '#' then []
    else c :: cutComment rest

/-- The value at the start of a text, and what follows it. The first argument
says whether blanks stand before it; a comment behind blanks leaves no value. -/
def valueOf? (afterBlanks : Bool) : List Char → Option (List Char × List Char)
  | [] => some ([], [])
  | '\'' :: rest =>
    (closeQuote? '\'' rest).map fun found => (unescape singleEscape? found.1, found.2)
  | '"' :: rest =>
    (closeQuote? '"' rest).map fun found => (unescape doubleEscape? found.1, found.2)
  | c :: rest =>
    if c = '#' && afterBlanks then some ([], c :: rest)
    else
      let line := (c :: rest).takeWhile isInLine
      some (trimEnd isBlank (cutComment line), (c :: rest).dropWhile isInLine)

/-- A text without the comment at its start; blanks may stand before it. -/
def skipComment (text : List Char) : List Char :=
  match text.dropWhile isInlineBlank with
  | '#' :: rest => rest.dropWhile isInLine
  | _ => text

/-- What follows a line end with blanks before it, if a text starts so. -/
def finishLine? (text : List Char) : Option (List Char) :=
  match text.dropWhile isInlineBlank with
  | [] => some []
  | c :: rest => if isInLine c then none else some (afterLineEnd (c :: rest))

/-- The value behind a name, if there is one, and what follows it. Where there
is no such value, the text at which that shows. -/
def assignment (text : List Char) : Except (List Char) (Option String × List Char) :=
  match text.dropWhile isInlineBlank with
  | '=' :: rest =>
    let start := rest.dropWhile isInlineBlank
    match valueOf? (rest.head?.any isInlineBlank) start with
    | some (value, after) => .ok (some (String.ofList value), after)
    | none => .error start
  | rest => .ok (none, rest)

/-- The statement at the start of a text and what follows it, or the text at
which it shows that there is none. -/
def statement (text : List Char) : Except (List Char) (Option Binding × List Char) :=
  let start := skipExport text
  match nameOf? start with
  | none => .error start
  | some (name, rest) =>
    match assignment rest with
    | .error reached => .error reached
    | .ok (value, rest) =>
      let rest := skipComment rest
      match finishLine? rest with
      | none => .error rest
      | some after => .ok (name.map fun name => ⟨name, value⟩, after)

/-- The bindings of at most so many statements. -/
def bindingsUpTo : Nat → List Char → List Binding
  | 0, _ => []
  | count + 1, text =>
    match text.dropWhile isBlank with
    | [] => []
    | c :: rest =>
      match statement (c :: rest) with
      | .ok (binding, after) => binding.toList ++ bindingsUpTo count after
      | .error reached => bindingsUpTo count (afterLine reached)

/-- The bindings of a file in their order. Every statement takes a character. -/
def bindings (text : List Char) : List Binding :=
  bindingsUpTo (text.length + 1) text

end TlsTranscript.EnvFile
