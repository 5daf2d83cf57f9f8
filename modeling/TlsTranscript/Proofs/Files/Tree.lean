import TlsTranscript.Files.Tree

/-!
# What changes in a file tree

Where a path leads is told by the path alone, as long as it leads anywhere: the
tree decides only whether the directories on the way are there. New directories
stand where nothing was, so nothing that was there is lost, and octets that are
added to a file change that file and no other entry.
-/

namespace TlsTranscript

namespace FileTree

/-- An entry is found where it was put, and elsewhere nothing changes. -/
theorem lookup?_putEntry (tree : FileTree) {names : List Bytes} (hn : names ≠ [])
    (entry : FileEntry) (others : List Bytes) :
    (tree.putEntry names entry).lookup? others =
      if others = names then some entry else tree.lookup? others := by
  cases others with
  | nil => rw [lookup?, if_neg hn.symm, lookup?]
  | cons first rest =>
    have hplace : FilePlace.ofNames (first :: rest) = FilePlace.ofNames names ↔
        first :: rest = names := by
      constructor
      · exact fun h => (Prod.mk.inj h).2
      · exact fun h => h ▸ rfl
    simp only [lookup?, putEntry, Keyed.get?_put, hplace]

/-- A tree in which new directories stand where nothing was, and that is the same
everywhere else. -/
def Grows (before after : FileTree) : Prop :=
  ∀ names, after.lookup? names = before.lookup? names ∨
    before.lookup? names = none ∧ after.lookup? names = some .directory

/-- A tree that stays as it is. -/
theorem Grows.refl (tree : FileTree) : Grows tree tree := fun _ => .inl rfl

/-- New directories in a tree with new directories. -/
theorem Grows.trans {first second third : FileTree} (h : Grows first second)
    (g : Grows second third) : Grows first third := by
  intro names
  rcases h names with hs | ⟨hn, hd⟩
  · rcases g names with gs | ⟨gn, gd⟩
    · exact .inl (gs.trans hs)
    · exact .inr ⟨hs ▸ gn, gd⟩
  · rcases g names with gs | ⟨gn, gd⟩
    · exact .inr ⟨hn, gs.trans hd⟩
    · exact .inr ⟨hn, gd⟩

/-- A new directory makes a tree grow. -/
theorem makeDirectory_grows {tree after : FileTree} {path : GivenPath}
    (h : tree.makeDirectory path = .ok after) : Grows tree after := by
  unfold makeDirectory at h
  split at h
  · cases h
  · cases h
  · next parent name _ =>
    split at h
    · cases h
    · split at h
      · next hnone =>
        obtain rfl := Except.ok.inj h
        intro names
        rw [lookup?_putEntry tree (List.append_ne_nil_of_right_ne_nil _ (List.cons_ne_nil _ _))]
        split
        · next he => exact .inr ⟨he ▸ hnone, rfl⟩
        · exact .inl rfl
      · cases h

/-- A directory that is provided makes a tree grow. -/
theorem provideDirectory_grows (welcome : Bool) (tree : FileTree) (path : GivenPath) :
    Grows tree (tree.provideDirectory welcome path).1 := by
  unfold provideDirectory
  split
  · next changed h => exact makeDirectory_grows h
  · exact Grows.refl tree

/-- Directories that are provided one inside the other make a tree grow. -/
theorem provideUpTo_grows (welcome : Bool) (depth : Nat) (tree : FileTree) (path : GivenPath) :
    Grows tree (provideUpTo welcome depth tree path).1 := by
  induction depth generalizing tree path with
  | zero => exact Grows.refl tree
  | succ depth ih =>
    unfold provideUpTo
    split
    next parent name hp =>
    split
    · exact provideDirectory_grows welcome tree path
    · have hg := ih tree parent
      split
      next changed failure hc =>
      rw [hc] at hg
      split
      · exact hg
      · split
        · exact hg
        · exact hg.trans (provideDirectory_grows welcome changed path)

/-- Directories that are provided make a tree grow. -/
theorem provideDirectories_grows (welcome : Bool) (tree : FileTree) (path : GivenPath) :
    Grows tree (tree.provideDirectories welcome path).1 :=
  provideUpTo_grows welcome greatestDepth tree path

/-- No directory is made under an empty path. -/
theorem provideDirectories_empty (tree : FileTree) :
    tree.provideDirectories true (.text "") = (tree, some ⟨.missing, .text ""⟩) := by
  have hlocate : tree.locate (GivenPath.text "").toOctets = .error .missing := rfl
  have hmake : tree.makeDirectory (.text "") = .error ⟨.missing, .text ""⟩ := by
    simp only [makeDirectory, hlocate]
  have hdirectory : tree.isDirectory (.text "") = false := by
    simp only [isDirectory, find, hlocate]
  have hprovide : tree.provideDirectory true (.text "") = (tree, some ⟨.missing, .text ""⟩) := by
    simp [provideDirectory, hmake, hdirectory]
  rw [provideDirectories, greatestDepth, provideUpTo]
  exact hprovide

/-- Where names lead from a directory, whatever stands there. -/
def follow : List Bytes → List Bytes → List Bytes
  | current, [] => current
  | current, name :: rest =>
    if name = here then follow current rest
    else if name = above then follow current.dropLast rest
    else follow (current ++ [name]) rest

/-- Names lead on from where the names before them have led. -/
theorem follow_append (current names rest : List Bytes) :
    follow current (names ++ rest) = follow (follow current names) rest := by
  induction names generalizing current with
  | nil => rfl
  | cons name names ih =>
    simp only [List.cons_append, follow]
    split
    · exact ih current
    · split
      · exact ih current.dropLast
      · exact ih (current ++ [name])

/-- A walk that gets through ends where its names lead. -/
theorem walk_eq_follow {tree : FileTree} {current names found : List Bytes}
    (h : tree.walk current names = .ok found) : found = follow current names := by
  induction names generalizing current with
  | nil => exact (Except.ok.inj h).symm
  | cons name rest ih =>
    rw [walk] at h
    rw [follow]
    split at h
    · next he => rw [if_pos he, ih h]
    · next he =>
      rw [if_neg he]
      split at h
      · next ha => rw [if_pos ha, ih h]
      · next ha =>
        rw [if_neg ha]
        split at h
        · cases h
        · split at h
          · cases h
          · cases h
          · exact ih h

/-- A walk gets through in every tree that keeps the directories. -/
theorem walk_mono {before after : FileTree}
    (hk : ∀ names, before.lookup? names = some .directory →
      after.lookup? names = some .directory) {current names found : List Bytes}
    (h : before.walk current names = .ok found) : after.walk current names = .ok found := by
  induction names generalizing current with
  | nil => exact h
  | cons name rest ih =>
    rw [walk] at h ⊢
    split at h
    · next he => rw [if_pos he, ih h]
    · next he =>
      rw [if_neg he]
      split at h
      · next ha => rw [if_pos ha, ih h]
      · next ha =>
        rw [if_neg ha]
        split at h
        · cases h
        · next hl =>
          rw [if_neg hl]
          split at h
          · cases h
          · cases h
          · next hd =>
            rw [hk _ hd]
            exact ih h

end FileTree

/-- The place that a path leads to if the directories on the way are there. -/
def GivenPath.place (path : GivenPath) : List Bytes :=
  FileTree.follow [] (Path.names GivenPath.slash path.toOctets)

namespace FileTree

/-- A path that leads to a name for a file inside a directory that is there. -/
structure Leads (tree : FileTree) (path : GivenPath) (parent : List Bytes) (name : Bytes) :
    Prop where
  /-- The directory is there. -/
  located : tree.locate path.toOctets = .ok (.inside parent name)
  /-- The path is not that of a directory. -/
  noSlash : endsWithSlash path.toOctets = false
  /-- The name is not too long. -/
  short : isLongName name = false

/-- A path leads inside a directory exactly if it is well formed, its last name is no
dot and the names before it lead to the directory. -/
theorem locate_eq_inside_iff {tree : FileTree} {path : Bytes} {parent : List Bytes}
    {name : Bytes} :
    tree.locate path = .ok (.inside parent name) ↔
      (path.contains 0 = false ∧ path.isEmpty = false ∧ path.length < 4096) ∧
        (name ≠ here ∧ name ≠ above) ∧
          ∃ front, Path.names GivenPath.slash path = front ++ [name] ∧
            tree.walk [] front = .ok parent := by
  constructor
  · intro h
    simp only [locate] at h
    split at h
    · cases h
    · next hnul =>
      split at h
      · cases h
      · next hempty =>
        split at h
        · cases h
        · next hlong =>
          refine ⟨⟨Bool.eq_false_iff.mpr hnul, Bool.eq_false_iff.mpr hempty,
            Nat.not_le.mp hlong⟩, ?_⟩
          split at h
          · cases h
          · next last hlast =>
            obtain ⟨front, hf⟩ := List.getLast?_eq_some_iff.mp hlast
            rw [hf, List.dropLast_concat] at h
            split at h
            · next current hw =>
              have hs := Except.ok.inj h
              unfold locateLast at hs
              split at hs
              · cases hs
              · next hh =>
                split at hs
                · cases hs
                · next ha =>
                  obtain ⟨rfl, rfl⟩ := Spot.inside.inj hs
                  exact ⟨⟨hh, ha⟩, front, hf, hw⟩
            · cases h
  · rintro ⟨⟨hnul, hempty, hlong⟩, ⟨hh, ha⟩, front, hf, hw⟩
    have hlast : (front ++ [name]).getLast? = some name := List.getLast?_concat
    simp only [locate, hnul, hempty, Bool.false_eq_true, if_false, if_neg (Nat.not_le.mpr hlong),
      hf, hlast, List.dropLast_concat, hw, locateLast, if_neg hh, if_neg ha]

/-- A path leads to its place. -/
theorem Leads.place {tree : FileTree} {path : GivenPath} {parent : List Bytes} {name : Bytes}
    (h : tree.Leads path parent name) : parent ++ [name] = path.place := by
  obtain ⟨-, ⟨hh, ha⟩, front, hf, hw⟩ := locate_eq_inside_iff.mp h.located
  rw [GivenPath.place, hf, follow_append, ← walk_eq_follow hw, follow, if_neg hh, if_neg ha,
    follow]

/-- A path leads to its place in every tree that keeps the directories. -/
theorem Leads.mono {before after : FileTree} {path : GivenPath} {parent : List Bytes}
    {name : Bytes} (h : before.Leads path parent name)
    (hk : ∀ names, before.lookup? names = some .directory →
      after.lookup? names = some .directory) : after.Leads path parent name := by
  obtain ⟨hpath, hname, front, hf, hw⟩ := locate_eq_inside_iff.mp h.located
  exact ⟨locate_eq_inside_iff.mpr ⟨hpath, hname, front, hf, walk_mono hk hw⟩, h.noSlash, h.short⟩

/-- The content of a file, nothing where no file is. -/
def contentAt (tree : FileTree) (names : List Bytes) : Bytes :=
  match tree.lookup? names with
  | some (.file content) => content
  | _ => []

/-- Where nothing is, there is no content. -/
theorem contentAt_of_none {tree : FileTree} {names : List Bytes} (h : tree.lookup? names = none) :
    tree.contentAt names = [] := by
  rw [contentAt, h]

/-- A file can be opened at a path that leads to a name, unless a directory has the
name. -/
theorem open?_eq_ok {tree : FileTree} {path : GivenPath} {names : List Bytes} {content : Bytes}
    (h : tree.open? path = .ok (names, content)) :
    (∃ parent name, tree.Leads path parent name) ∧ names = path.place ∧
      tree.lookup? names ≠ some .directory ∧ content = tree.contentAt names := by
  unfold open? at h
  split at h
  · cases h
  · cases h
  · next parent name hl =>
    split at h
    · cases h
    · next hs =>
      split at h
      · cases h
      · next hn =>
        have hleads : tree.Leads path parent name :=
          ⟨hl, Bool.eq_false_iff.mpr hs, Bool.eq_false_iff.mpr hn⟩
        split at h
        · next he =>
          obtain ⟨rfl, rfl⟩ := Prod.mk.inj (Except.ok.inj h)
          refine ⟨⟨parent, name, hleads⟩, hleads.place, ?_, ?_⟩
          · rw [he]
            exact nofun
          · simp only [contentAt, he]
        · cases h
        · next found he =>
          obtain ⟨rfl, rfl⟩ := Prod.mk.inj (Except.ok.inj h)
          refine ⟨⟨parent, name, hleads⟩, hleads.place, ?_, ?_⟩
          · rw [he]
            exact nofun
          · simp only [contentAt, he]

/-- A file is read at a path that leads to it. -/
theorem read_of_leads {tree : FileTree} {path : GivenPath} {parent : List Bytes} {name : Bytes}
    (h : tree.Leads path parent name) {content : Bytes}
    (he : tree.lookup? path.place = some (.file content)) : tree.read path = .ok content := by
  rw [← h.place] at he
  simp only [read, find, h.located, h.short, h.noSlash, he, Bool.false_eq_true, if_false]

/-- A path at which a file is read leads to the file. -/
theorem leads_of_read {tree : FileTree} {path : GivenPath} {content : Bytes}
    (h : tree.read path = .ok content) :
    (∃ parent name, tree.Leads path parent name) ∧
      tree.lookup? path.place = some (.file content) := by
  have hfind : tree.find path.toOctets = .ok (.file content) := by
    unfold read at h
    split at h
    · next found hfound =>
      rw [hfound, Except.ok.inj h]
    · cases h
    · cases h
  unfold find at hfind
  split at hfind
  · cases hfind
  · cases hfind
  · next parent name hl =>
    split at hfind
    · cases hfind
    · next hn =>
      split at hfind
      · cases hfind
      · cases hfind
      · next found he =>
        split at hfind
        · cases hfind
        · next hs =>
          have hleads : tree.Leads path parent name :=
            ⟨hl, Bool.eq_false_iff.mpr hs, Bool.eq_false_iff.mpr hn⟩
          obtain rfl := FileEntry.file.inj (Except.ok.inj hfind)
          exact ⟨⟨parent, name, hleads⟩, by rw [← hleads.place, he]⟩

/-- The old content of a file that can be read is that at its place. -/
theorem contentAt_of_read {tree : FileTree} {path : GivenPath} {content : Bytes}
    (h : tree.read path = .ok content) : tree.contentAt path.place = content := by
  rw [contentAt, (leads_of_read h).2]

/-- Octets that are added at a path where a file can be opened stand at the end of the
file at its place, and every other entry is as before. -/
theorem append_of_open? {tree : FileTree} {path : GivenPath} {found : List Bytes × Bytes}
    (h : tree.open? path = .ok found) (more : Bytes) :
    ∃ after, tree.append path more = .ok after ∧
      ∀ names, after.lookup? names =
        if names = path.place then some (.file (tree.contentAt path.place ++ more))
        else tree.lookup? names := by
  obtain ⟨names, content⟩ := found
  obtain ⟨⟨parent, name, hl⟩, rfl, -, rfl⟩ := open?_eq_ok h
  refine ⟨tree.putEntry path.place (.file (tree.contentAt path.place ++ more)), ?_, ?_⟩
  · simp only [append, h]
  · refine lookup?_putEntry tree ?_ _
    rw [← hl.place]
    exact List.append_ne_nil_of_right_ne_nil _ (List.cons_ne_nil _ _)

/-- What adding octets at a path comes to, directories on the way included: the file
at the place of the path gets longer, and elsewhere there are at most new
directories. -/
structure Appended (before after : FileTree) (path : GivenPath) (more : Bytes) : Prop where
  /-- No directory stood in the way. -/
  vacant : before.lookup? path.place ≠ some .directory
  /-- The octets stand at the end of the file. -/
  file : after.lookup? path.place = some (.file (before.contentAt path.place ++ more))
  /-- Elsewhere nothing is lost. -/
  frame : ∀ names, names ≠ path.place → after.lookup? names = before.lookup? names ∨
    before.lookup? names = none ∧ after.lookup? names = some .directory
  /-- The path leads to the file. -/
  leads : ∃ parent name, after.Leads path parent name

/-- Octets can be added where a file can be opened once the directories are made. -/
theorem appended_of_grows {before grown : FileTree} (hg : Grows before grown)
    {path : GivenPath} {found : List Bytes × Bytes} (ho : grown.open? path = .ok found)
    (more : Bytes) : ∃ after, grown.append path more = .ok after ∧
      Appended before after path more := by
  obtain ⟨after, ha, he⟩ := append_of_open? ho more
  obtain ⟨names, content⟩ := found
  obtain ⟨⟨parent, name, hl⟩, rfl, hd, -⟩ := open?_eq_ok ho
  have hsame : grown.lookup? path.place = before.lookup? path.place := by
    rcases hg path.place with hs | ⟨-, hdir⟩
    · exact hs
    · exact absurd hdir hd
  refine ⟨after, ha, by rw [← hsame]; exact hd, ?_, ?_, parent, name, hl.mono ?_⟩
  · rw [he, if_pos rfl, contentAt, contentAt, hsame]
  · intro names hn
    rw [he, if_neg hn]
    exact hg names
  · intro names hdir
    rw [he, if_neg]
    · exact hdir
    · rintro rfl
      exact hd hdir

namespace Appended

variable {before after : FileTree} {path : GivenPath} {more : Bytes}

/-- The file that was added to is read as it was with the octets behind it. -/
theorem read (h : Appended before after path more) :
    after.read path = .ok (before.contentAt path.place ++ more) := by
  obtain ⟨parent, name, hl⟩ := h.leads
  exact read_of_leads hl h.file

/-- Directories stay. -/
theorem directory (h : Appended before after path more) {names : List Bytes}
    (hd : before.lookup? names = some .directory) : after.lookup? names = some .directory := by
  by_cases hn : names = path.place
  · rw [hn] at hd
    exact absurd hd h.vacant
  · rcases h.frame names hn with hs | ⟨hnone, -⟩
    · rw [hs, hd]
    · rw [hnone] at hd
      cases hd

/-- Files elsewhere stay as they are, and no other file comes to be. -/
theorem file_iff (h : Appended before after path more) {names : List Bytes}
    (hn : names ≠ path.place) (content : Bytes) :
    after.lookup? names = some (.file content) ↔ before.lookup? names = some (.file content) := by
  rcases h.frame names hn with hs | ⟨hnone, hd⟩
  · rw [hs]
  · simp only [hnone, hd, Option.some.injEq, reduceCtorEq]

/-- A file is still read as it was when another one has been added to. -/
theorem read_of_ne (h : Appended before after path more) {other : GivenPath} {content : Bytes}
    (hread : before.read other = .ok content) (hn : other.place ≠ path.place) :
    after.read other = .ok content := by
  obtain ⟨⟨parent, name, hl⟩, hfile⟩ := leads_of_read hread
  exact read_of_leads (hl.mono fun _ => h.directory) ((h.file_iff hn _).mpr hfile)

/-- The content elsewhere stays as it is. -/
theorem contentAt_of_ne (h : Appended before after path more) {names : List Bytes}
    (hn : names ≠ path.place) : after.contentAt names = before.contentAt names := by
  rcases h.frame names hn with hs | ⟨hnone, hd⟩
  · rw [contentAt, contentAt, hs]
  · simp only [contentAt, hnone, hd]

/-- The content at the place of the path. -/
theorem contentAt_place (h : Appended before after path more) :
    after.contentAt path.place = before.contentAt path.place ++ more := by
  rw [contentAt, h.file]

end Appended

end FileTree

end TlsTranscript
