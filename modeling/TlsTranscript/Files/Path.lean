import TlsTranscript.Text.Quoted
import TlsTranscript.Text.Utf8

/-!
# Paths

A path is written as names with slashes between them. It is joined from a
directory and a name, and split into what stands before and after its last slash;
this is the same for characters and for octets. A path is given by its text or by
its octets and is shown as it was given. Where it leads is told by its octets
alone; a name that is no text of characters is given by its octets.
-/

namespace TlsTranscript

namespace Path

variable {α : Type} [DecidableEq α]

/-- What stands between the slashes of a path. -/
def parts (slash : α) : List α → List (List α)
  | [] => [[]]
  | c :: rest =>
    if c = slash then [] :: parts slash rest
    else match parts slash rest with
      | [] => [[c]]
      | part :: more => (c :: part) :: more

/-- The names of a path in their order. -/
def names (slash : α) (path : List α) : List (List α) :=
  (parts slash path).filter fun part => !part.isEmpty

/-- A name inside a directory. A directory that ends with a slash gets no second
one, and a name that starts with a slash stands for itself. -/
def join (slash : α) (directory name : List α) : List α :=
  if name.head? = some slash then name
  else if directory.isEmpty || directory.getLast? = some slash then directory ++ name
  else directory ++ slash :: name

/-- What stands after the last slash. -/
def lastPart (slash : α) (path : List α) : List α :=
  (path.reverse.takeWhile (· ≠ slash)).reverse

/-- What stands before the last slash, without the slashes at its end unless it
is slashes only. -/
def beforeLast (slash : α) (path : List α) : List α :=
  let before := path.reverse.dropWhile (· ≠ slash)
  let trimmed := before.dropWhile (· = slash)
  if trimmed.isEmpty then before.reverse else trimmed.reverse

/-- A path as parent and name; slashes at its end do not count. -/
def split (slash : α) (path : List α) : List α × List α :=
  let last := lastPart slash path
  if last.isEmpty then
    let before := beforeLast slash path
    (beforeLast slash before, lastPart slash before)
  else (beforeLast slash path, last)

end Path

/-- A path as it is given. -/
inductive GivenPath where
  /-- By its text. -/
  | text (path : String)
  /-- By its octets. -/
  | octets (path : Bytes)
  deriving DecidableEq

namespace GivenPath

/-- The slash as an octet. -/
def slash : UInt8 := 0x2F

/-- The octets of a path; a text is encoded. -/
def toOctets : GivenPath → Bytes
  | text path => Utf8.encode path
  | octets path => path

/-- The literal of a path. -/
def literal : GivenPath → String
  | text path => Text.quoted path
  | octets path => Bytes.quoted path

/-- The display of a path: a text stands for itself. -/
def display : GivenPath → String
  | text path => path
  | octets path => Bytes.quoted path

/-- Whether a path is empty. -/
def isEmpty : GivenPath → Bool
  | text path => path = ""
  | octets path => path.isEmpty

/-- Whether a path is a single dot. -/
def isDot (path : GivenPath) : Bool := path.toOctets = [0x2E]

/-- A path as parent and name, both given as the path is. -/
def split : GivenPath → GivenPath × GivenPath
  | text path =>
    let (parent, name) := Path.split '/' path.toList
    (text (String.ofList parent), text (String.ofList name))
  | octets path =>
    let (parent, name) := Path.split slash path
    (octets parent, octets name)

/-- The path of a name inside a directory, if both are given in the same way. -/
def join? : GivenPath → GivenPath → Option GivenPath
  | text directory, text name =>
    some (text (String.ofList (Path.join '/' directory.toList name.toList)))
  | octets directory, octets name => some (octets (Path.join slash directory name))
  | _, _ => none

end GivenPath

end TlsTranscript
