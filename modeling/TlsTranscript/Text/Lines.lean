import TlsTranscript.Text.Blank

/-!
# Lines

A line feed, a carriage return and the two together each end a line, and no
other character does. Reading turns every line end into a line feed before it
cuts the text into lines.
-/

namespace TlsTranscript.Text

/-- Every line end as a line feed. -/
def unifyLineEnds : List Char → List Char
  | [] => []
  | '\r' :: '\n' :: rest => '\n' :: unifyLineEnds rest
  | '\r' :: rest => '\n' :: unifyLineEnds rest
  | c :: rest => c :: unifyLineEnds rest

/-- The lines of a text whose line ends are line feeds. What follows the last
line feed is a line if it is not empty. -/
def splitLines : List Char → List (List Char)
  | [] => []
  | c :: rest =>
    if c = '\n' then [] :: splitLines rest
    else match splitLines rest with
      | [] => [[c]]
      | line :: lines => (c :: line) :: lines

/-- A line without the line feeds at its end. -/
def chomp (line : String) : String :=
  String.ofList (trimEnd (· == '\n') line.toList)

end TlsTranscript.Text
