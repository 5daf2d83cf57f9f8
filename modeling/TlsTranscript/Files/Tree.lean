import TlsTranscript.Files.Path
import TlsTranscript.Keyed

/-!
# File trees

Files and directories below one root directory, each under the list of names
that leads to it. Names are octets. Paths are followed name by name: empty names
and the name of a single dot lead nowhere, two dots lead back to the parent, and
whatever stands before the last name must be a directory. Following a path may
fail, and so may what is done at its end; a failure names its cause and the path
as it was given. There are no links and no devices, and nothing forbids to open what
is there.
-/

namespace TlsTranscript

/-- Why nothing can be done at a path. -/
inductive FileFault where
  /-- Nothing is there. -/
  | missing
  /-- Something is there already. -/
  | occupied
  /-- The path leads through a file. -/
  | notDirectory
  /-- The path leads to a directory. -/
  | isDirectory
  /-- A name or the whole path is too long. -/
  | nameTooLong
  /-- The path holds an octet that no name may hold. -/
  | embeddedNul
  /-- The path leads through too many directories that are not there. -/
  | tooDeep
  deriving DecidableEq

/-- A fault with the path at which it arose. -/
structure FileFailure where
  /-- The fault. -/
  fault : FileFault
  /-- The path as it was given. -/
  path : GivenPath
  deriving DecidableEq

namespace FileFailure

/-- A numbered wording with the path behind it. -/
def numbered (failure : FileFailure) (number : Nat) (wording : String) : String :=
  "[Errno " ++ Text.decimal number ++ "] " ++ wording ++ ": " ++ failure.path.literal

/-- The wording of a failure. -/
def message (failure : FileFailure) : String :=
  match failure.fault with
  | .missing => failure.numbered 2 "No such file or directory"
  | .occupied => failure.numbered 17 "File exists"
  | .notDirectory => failure.numbered 20 "Not a directory"
  | .isDirectory => failure.numbered 21 "Is a directory"
  | .nameTooLong => failure.numbered 36 "File name too long"
  | .embeddedNul => "embedded null byte"
  | .tooDeep => "maximum recursion depth exceeded"

end FileFailure

/-- What can stand at the end of a list of names. -/
inductive FileEntry where
  /-- A directory. -/
  | directory
  /-- A file with its content. -/
  | file (content : Bytes)
  deriving DecidableEq

/-- A place in a tree: the names that lead to it, behind their number. Places at
different depths are told apart at once. -/
abbrev FilePlace := Nat × List Bytes

/-- The place that names lead to. -/
def FilePlace.ofNames (names : List Bytes) : FilePlace := (names.length, names)

/-- Files and directories by their places. -/
abbrev FileTree := Keyed FilePlace FileEntry

/-- Where a path leads. -/
inductive Spot where
  /-- To a directory that is there. -/
  | directory (names : List Bytes)
  /-- To a name inside a directory that is there. -/
  | inside (parent : List Bytes) (name : Bytes)
  deriving DecidableEq

namespace FileTree

/-- What stands at the end of a list of names; the root is a directory. -/
def lookup? (tree : FileTree) : List Bytes → Option FileEntry
  | [] => some .directory
  | names => Keyed.get? (.ofNames names) tree

/-- An entry put at the end of a list of names. -/
def putEntry (tree : FileTree) (names : List Bytes) (entry : FileEntry) : FileTree :=
  Keyed.put (.ofNames names) entry tree

/-- Whether a name has more octets than a name may have. -/
def isLongName (name : Bytes) : Bool := name.length > 255

/-- The name that leads nowhere. -/
def here : Bytes := [0x2E]

/-- The name that leads to the parent. -/
def above : Bytes := [0x2E, 0x2E]

/-- The directory that names lead to from another directory. -/
def walk (tree : FileTree) : List Bytes → List Bytes → Except FileFault (List Bytes)
  | current, [] => .ok current
  | current, name :: rest =>
    if name = here then walk tree current rest
    else if name = above then walk tree current.dropLast rest
    else if isLongName name then .error .nameTooLong
    else match tree.lookup? (current ++ [name]) with
      | none => .error .missing
      | some (.file _) => .error .notDirectory
      | some .directory => walk tree (current ++ [name]) rest

/-- Where names lead whose last one is given apart. -/
def locateLast (current : List Bytes) (last : Bytes) : Spot :=
  if last = here then .directory current
  else if last = above then .directory current.dropLast
  else .inside current last

/-- Where the octets of a path lead. -/
def locate (tree : FileTree) (path : Bytes) : Except FileFault Spot :=
  if path.contains 0 then .error .embeddedNul
  else if path.isEmpty then .error .missing
  else if path.length ≥ 4096 then .error .nameTooLong
  else
    let names := Path.names GivenPath.slash path
    match names.getLast? with
    | none => .ok (.directory [])
    | some last =>
      match tree.walk [] names.dropLast with
      | .ok current => .ok (locateLast current last)
      | .error fault => .error fault

/-- Whether a path ends with a slash. -/
def endsWithSlash (path : Bytes) : Bool := path.getLast? = some GivenPath.slash

/-- What the octets of a path lead to. A file is not found under a path that ends
with a slash. -/
def find (tree : FileTree) (path : Bytes) : Except FileFault FileEntry :=
  match tree.locate path with
  | .error fault => .error fault
  | .ok (.directory _) => .ok .directory
  | .ok (.inside parent name) =>
    if isLongName name then .error .nameTooLong
    else match tree.lookup? (parent ++ [name]) with
      | none => .error .missing
      | some .directory => .ok .directory
      | some (.file content) =>
        if endsWithSlash path then .error .notDirectory else .ok (.file content)

/-- Whether a path leads to something. -/
def isThere (tree : FileTree) (path : GivenPath) : Bool :=
  match tree.find path.toOctets with
  | .ok _ => true
  | .error _ => false

/-- Whether a path leads to a directory. -/
def isDirectory (tree : FileTree) (path : GivenPath) : Bool :=
  match tree.find path.toOctets with
  | .ok .directory => true
  | _ => false

/-- The content of a file. -/
def read (tree : FileTree) (path : GivenPath) : Except FileFailure Bytes :=
  match tree.find path.toOctets with
  | .ok (.file content) => .ok content
  | .ok .directory => .error ⟨.isDirectory, path⟩
  | .error fault => .error ⟨fault, path⟩

/-- The names and the content of a file that is about to be written. A file that
is not there counts as empty. -/
def open? (tree : FileTree) (path : GivenPath) : Except FileFailure (List Bytes × Bytes) :=
  match tree.locate path.toOctets with
  | .error fault => .error ⟨fault, path⟩
  | .ok (.directory _) => .error ⟨.isDirectory, path⟩
  | .ok (.inside parent name) =>
    if endsWithSlash path.toOctets then .error ⟨.isDirectory, path⟩
    else if isLongName name then .error ⟨.nameTooLong, path⟩
    else match tree.lookup? (parent ++ [name]) with
      | none => .ok (parent ++ [name], [])
      | some .directory => .error ⟨.isDirectory, path⟩
      | some (.file content) => .ok (parent ++ [name], content)

/-- A file written over. -/
def write (tree : FileTree) (path : GivenPath) (content : Bytes) :
    Except FileFailure FileTree :=
  match tree.open? path with
  | .error failure => .error failure
  | .ok (names, _) => .ok (tree.putEntry names (.file content))

/-- Octets added at the end of a file. -/
def append (tree : FileTree) (path : GivenPath) (more : Bytes) : Except FileFailure FileTree :=
  match tree.open? path with
  | .error failure => .error failure
  | .ok (names, content) => .ok (tree.putEntry names (.file (content ++ more)))

/-- A new directory. -/
def makeDirectory (tree : FileTree) (path : GivenPath) : Except FileFailure FileTree :=
  match tree.locate path.toOctets with
  | .error fault => .error ⟨fault, path⟩
  | .ok (.directory _) => .error ⟨.occupied, path⟩
  | .ok (.inside parent name) =>
    if isLongName name then .error ⟨.nameTooLong, path⟩
    else match tree.lookup? (parent ++ [name]) with
      | none => .ok (tree.putEntry (parent ++ [name]) .directory)
      | some _ => .error ⟨.occupied, path⟩

/-- A new directory. A directory that is there already stands for it if it is
welcome. -/
def provideDirectory (welcome : Bool) (tree : FileTree) (path : GivenPath) :
    FileTree × Option FileFailure :=
  match tree.makeDirectory path with
  | .ok changed => (changed, none)
  | .error failure =>
    (tree, if welcome && tree.isDirectory path then none else some failure)

/-- A new directory and the directories above it that are not there yet, at most
so many. A failure leaves the directories made before it. A parent that is
occupied does not end the work: the directory itself says then what is wrong. A
dot behind a parent that had to be made stands for the parent. -/
def provideUpTo (welcome : Bool) : Nat → FileTree → GivenPath → FileTree × Option FileFailure
  | 0, tree, path => (tree, some ⟨.tooDeep, path⟩)
  | depth + 1, tree, path =>
    let (parent, name) := path.split
    if parent.isEmpty || name.isEmpty || tree.isThere parent then
      tree.provideDirectory welcome path
    else
      let (changed, failure) := provideUpTo welcome depth tree parent
      match failure.filter fun failure => failure.fault != .occupied with
      | some failure => (changed, some failure)
      | none => if name.isDot then (changed, none) else provideDirectory welcome changed path

/-- How many directories can be made at once. -/
def greatestDepth : Nat := 990

/-- A new directory and the directories above it that are not there yet. A
directory that is there already is taken if it is welcome. -/
def provideDirectories (welcome : Bool) (tree : FileTree) (path : GivenPath) :
    FileTree × Option FileFailure :=
  tree.provideUpTo welcome greatestDepth path

/-- The text of octets of a path. Octets that are no text show a character that
stands for any. -/
def pathText (path : Bytes) : String :=
  match Utf8.decode path with
  | .ok text => text
  | .error _ => String.ofList (path.map fun octet =>
      if octet < 0x80 then Char.ofNat octet.toNat else Char.ofNat 0xFFFD)

/-- The path of an entry as text; that of a directory ends with a slash. -/
def entryPath (place : FilePlace) (entry : FileEntry) : String :=
  let path := "/".intercalate (place.2.map pathText)
  match entry with
  | .directory => path ++ "/"
  | .file _ => path

/-- The paths of all entries in alphabetical order. -/
def listing (tree : FileTree) : List String :=
  (tree.map fun entry => entryPath entry.1 entry.2).mergeSort fun a b => decide (a ≤ b)

end FileTree

end TlsTranscript
