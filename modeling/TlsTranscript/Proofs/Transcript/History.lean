import TlsTranscript.Proofs.Transcript.Destination

/-!
# Files written by calls alone

A transcript that has come to be by calls that add lines, one after the other and with
whatever else happening to other files in between, holds the texts that these calls have
written, in their order and nothing else. The calls may be given their directory and name or
find them, and they may fail: what a call has written before it failed stays.
-/

namespace TlsTranscript

namespace Transcript

/-- The texts that a call to add lines writes to the file at a place. -/
def textsInto (names : List Bytes) (row : Except Failure (List Line)) (name directory : Datum)
    (w : World) : List String :=
  if (opened? name directory w).map GivenPath.place = some names then textsOf row else []

/-- How a file comes to be by calls that add lines alone: the file trees that may be there
then, and the texts that the calls have written to the file so far. -/
inductive Written (names : List Bytes) : FileTree → List String → Prop
  /-- Nothing is in the file yet, if it is there at all. -/
  | nothing {tree : FileTree} (empty : tree.contentAt names = []) : Written names tree []
  /-- Lines are added by a call, to this file or to another one. -/
  | call {w : World} {texts : List String} (before : Written names w.files texts)
      (row : Except Failure (List Line)) (name directory : Datum) :
      Written names ((appendRow row name directory).runIn w).2.files
        (texts ++ textsInto names row name directory w)
  /-- Something happens to other files. -/
  | elsewhere {tree after : FileTree} {texts : List String} (before : Written names tree texts)
      (same : after.lookup? names = tree.lookup? names) : Written names after texts

/-- Texts one after the other are written one after the other. -/
theorem octetsOfLines_append (first second : List String) :
    octetsOfLines (first ++ second) = octetsOfLines first ++ octetsOfLines second :=
  List.flatMap_append

/-- A call puts the texts that it writes to a file behind what the file held. -/
theorem contentAt_appendRow (names : List Bytes) (row : Except Failure (List Line))
    (name directory : Datum) (w : World) :
    ((appendRow row name directory).runIn w).2.files.contentAt names =
      w.files.contentAt names ++ octetsOfLines (textsInto names row name directory w) := by
  have hfiles := files_appendRow row name directory w
  unfold textsInto
  cases ho : opened? name directory w with
  | none =>
    rw [ho] at hfiles
    rw [hfiles.contentAt, Option.map_none, if_neg (Option.some_ne_none names).symm, octetsOfLines,
      List.flatMap_nil, List.append_nil]
  | some path =>
    rw [ho] at hfiles
    rw [Option.map_some]
    by_cases hn : path.place = names
    · rw [if_pos (congrArg some hn), ← hn, hfiles.contentAt_place]
    · rw [if_neg fun he => hn (Option.some.inj he), hfiles.contentAt_of_ne (Ne.symm hn),
        octetsOfLines, List.flatMap_nil, List.append_nil]

/-- A file that has come to be by calls alone holds the texts that they have written. -/
theorem Written.contentAt {names : List Bytes} {tree : FileTree} {texts : List String}
    (h : Written names tree texts) : tree.contentAt names = octetsOfLines texts := by
  induction h with
  | nothing empty => exact empty
  | call before row name directory ih => rw [contentAt_appendRow, ih, octetsOfLines_append]
  | elsewhere before same ih => rw [FileTree.contentAt, same, ← FileTree.contentAt, ih]

end Transcript

end TlsTranscript
