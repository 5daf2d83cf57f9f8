import TlsTranscript.Proofs.Check.Union

/-!
# Tagged data

A table whose tag is that of a kind of extensions is read as an extension exactly as
the kind is constructed with the entries of the table as arguments: the same extension, or
the same problems, each seen from under the tag. Only what stands under the names that the
kind declares is looked at. Arguments have names, so a table with a key that is no text
constructs nothing, while it is read as if the entry were not there. The tag alone decides
that a table is of no kind, and then there is one problem, that of the tag.
-/

namespace TlsTranscript

namespace Checked

variable {α β : Type}

/-- A result has problems from further out exactly if it has them there. -/
theorem within_eq_invalid {step : Place} {value : Checked α} {problems : List Problem} :
    within step value = .invalid problems ↔
      ∃ inner, value = .invalid inner ∧ inner.map (Problem.within step) = problems := by
  cases value <;> simp [within]

/-- A changed result has the problems of the result. -/
theorem map_eq_invalid {f : α → β} {value : Checked α} {problems : List Problem} :
    map f value = .invalid problems ↔ value = .invalid problems := by
  cases value <;> simp [map]

end Checked

/-- Seen from further out, problems stay apart. -/
theorem Problem.within_injective (step : Place) : Function.Injective (Problem.within step) := by
  rintro ⟨place, defect⟩ ⟨other, otherDefect⟩ h
  obtain ⟨hplace, rfl⟩ := Problem.mk.inj h
  obtain ⟨-, rfl⟩ := List.cons.inj hplace
  rfl

namespace Failure

variable {α : Type} {subject : String} {value : Checked α}

/-- The result of a check is had exactly if the check is valid. -/
theorem ofChecked_eq_ok {result : α} :
    ofChecked subject value = .ok result ↔ value = .valid result := by
  cases value <;> simp [ofChecked]

/-- It fails with the problems of the check. -/
theorem ofChecked_eq_error {problems : List Problem} :
    ofChecked subject value = .error (.invalid subject problems) ↔ value = .invalid problems := by
  cases value <;> simp [ofChecked]

end Failure

namespace Datum

/-- Whether all keys of a table are words. -/
def OnlyWords (entries : List (Datum × Datum)) : Prop :=
  ∀ entry ∈ entries, ∃ word, entry.1 = .text word

/-- The entries of a table under words. -/
def wordEntries (entries : List (Datum × Datum)) : List (Datum × Datum) :=
  (words entries).map fun entry => (.text entry.1, entry.2)

/-- Words that are the keys of a table are found in it again. -/
theorem words_map_text (fields : List (String × Datum)) :
    words (fields.map fun field => (.text field.1, field.2)) = fields := by
  induction fields with
  | nil => rfl
  | cons field rest ih =>
    rw [words] at ih
    simp only [words, List.map_cons, List.filterMap_cons, ih]

/-- The named data of a table are those of its entries under words. -/
theorem words_wordEntries (entries : List (Datum × Datum)) :
    words (wordEntries entries) = words entries :=
  words_map_text (words entries)

/-- All keys of entries under words are words. -/
theorem onlyWords_wordEntries (entries : List (Datum × Datum)) :
    OnlyWords (wordEntries entries) :=
  List.forall_mem_map.mpr fun entry _ => ⟨entry.1, rfl⟩

/-- Entries under words are arguments by name. -/
theorem keywords_of_onlyWords {entries : List (Datum × Datum)} (h : OnlyWords entries) :
    keywords entries = .ok (words entries) := by
  induction entries with
  | nil => rfl
  | cons entry rest ih =>
    obtain ⟨⟨word, hword⟩, hrest⟩ := List.forall_mem_cons.mp h
    obtain ⟨key, value⟩ := entry
    dsimp only at hword
    subst hword
    rw [keywords, ih hrest]
    rfl

/-- A key that is no word is no name of an argument. -/
theorem keywords_of_not_onlyWords {entries : List (Datum × Datum)} (h : ¬OnlyWords entries) :
    keywords entries = .error (.call .nameNotText) := by
  induction entries with
  | nil => exact absurd (fun _ => nofun) h
  | cons entry rest ih =>
    obtain ⟨key, value⟩ := entry
    cases key with
    | text word =>
      have hrest : ¬OnlyWords rest := fun hall =>
        h (List.forall_mem_cons.mpr ⟨⟨word, rfl⟩, hall⟩)
      rw [keywords, ih hrest]
      rfl
    | _ => rfl

end Datum

namespace ModelKind

variable {entries : List (Datum × Datum)}

/-- With words as keys, a kind is constructed as it is built from named data. -/
theorem construct_of_words (h : Datum.OnlyWords entries) {kind : ModelKind} :
    kind.construct entries =
      Failure.ofChecked kind.name (kind.ofEntries (Datum.words entries)) := by
  rw [construct, Datum.keywords_of_onlyWords h]
  rfl

/-- With a key that is no word, no kind is constructed. -/
theorem construct_of_not_words (h : ¬Datum.OnlyWords entries) {kind : ModelKind} :
    kind.construct entries = .error (.call .nameNotText) := by
  rw [construct, Datum.keywords_of_not_onlyWords h]
  rfl

end ModelKind

/-- Values by key agree on keys if they are the same under each of them. -/
def Keyed.AgreeOn {κ α : Type} [DecidableEq κ] (keys : List κ) (entries others : Keyed κ α) :
    Prop :=
  ∀ key ∈ keys, get? key entries = get? key others

section Agreement

variable {α : Type} {entries others : Keyed String Datum}

/-- A required field is checked in what stands under its name. -/
theorem Check.required_congr {name : String} {check : Datum → Checked α}
    (h : Keyed.get? name entries = Keyed.get? name others) :
    required entries name check = required others name check := by
  rw [required, required, h]

/-- A field with a default is checked in what stands under its name. -/
theorem Check.withDefault_congr {name : String} {preset : α} {check : Datum → Checked α}
    (h : Keyed.get? name entries = Keyed.get? name others) :
    withDefault entries name preset check = withDefault others name preset check := by
  rw [withDefault, withDefault, h]

namespace ExtensionKind

open Check

/-- What an extension holds besides its tag is checked in what stands under the names
that its kind declares. -/
theorem ofPayload_congr {kind : ExtensionKind}
    (h : Keyed.AgreeOn (kind.declaredPayload.map Declared.name) entries others) :
    kind.ofPayload entries = kind.ofPayload others := by
  cases kind with
  | earlyData | encryptThenMac | extendedMasterSecret | nextProtocolNegotiation => rfl
  | maxFragmentLength | keyShare | preSharedKey | cookie | heartbeat =>
    rw [ofPayload, ofPayload, required_congr (h _ (.head _))]
  | unknown =>
    rw [ofPayload, ofPayload, required_congr (h _ (.head _)),
      withDefault_congr (h _ (.tail _ (.head _)))]
  | _ => rw [ofPayload, ofPayload, withDefault_congr (h _ (.head _))]

/-- An extension is built from what stands under the names that its kind declares. -/
theorem ofEntries_congr {kind : ExtensionKind}
    (h : Keyed.AgreeOn ((ModelKind.extension kind).declared.map Declared.name) entries others) :
    kind.ofEntries entries = kind.ofEntries others := by
  have htag : Keyed.get? "type" entries = Keyed.get? "type" others := h "type" (.head _)
  have hpayload : kind.ofPayload entries = kind.ofPayload others :=
    ofPayload_congr fun name hname => h name (.tail _ hname)
  rw [ofEntries, ofEntries, withDefault_congr htag, hpayload]

end ExtensionKind

end Agreement

namespace ExtensionKind

/-- Kinds have tags of their own. -/
theorem tag_injective : Function.Injective tag := by
  intro kind other h
  have hfound : ofDeclaredTag? kind.tag = ofDeclaredTag? other.tag := congrArg ofDeclaredTag? h
  rw [ofDeclaredTag?_tag, ofDeclaredTag?_tag] at hfound
  exact Option.some.inj hfound

/-- An extension is built from data with a tag only if it is the tag of the kind. -/
theorem eq_of_tag_of_ofEntries {kind other : ExtensionKind} {entries : Keyed String Datum}
    {content : Extension} (ht : Keyed.get? "type" entries = some (.text kind.tag))
    (h : other.ofEntries entries = .valid content) : other = kind := by
  simp only [ofEntries, Checked.map_eq, Checked.seq_eq, Checked.apply_eq_valid,
    Checked.map_eq_valid] at h
  obtain ⟨_, _, ⟨checked, htag, -⟩, -, -⟩ := h
  rw [Check.withDefault, ht] at htag
  have hread := (describes_checkTag other _ _ (Checked.within_eq_valid.mp htag)).1
  exact (tag_injective (Datum.text.inj hread)).symm

end ExtensionKind

namespace Extension

/-- What is wrong with a tag that is that of no kind. -/
def tagDefect : Option Datum → Defect
  | some tag => .unknownTag (shownTag tag) (ExtensionKind.all.map ExtensionKind.tag)
  | none => .noTag

/-- What has the tag of a kind is what the kind makes of it, seen from under the tag. -/
theorem ofTagged_tag (build : ExtensionKind → Checked Extension) (kind : ExtensionKind) :
    ofTagged build (some (.text kind.tag)) = (build kind).within (.field kind.tag) := by
  simp [ofTagged]

/-- What has the tag of no kind has the problem of its tag. -/
theorem ofTagged_of_forall_ne {tag : Option Datum}
    (h : ∀ kind : ExtensionKind, tag ≠ some (.text kind.tag))
    (build : ExtensionKind → Checked Extension) :
    ofTagged build tag = .invalid [⟨[], tagDefect tag⟩] := by
  cases tag with
  | none => rfl
  | some datum =>
    cases datum with
    | text name =>
      cases hk : ExtensionKind.ofDeclaredTag? name with
      | some kind => exact absurd (by rw [ExtensionKind.tag_of_ofDeclaredTag? hk]) (h kind)
      | none => simp only [ofTagged, hk]; rfl
    | _ => rfl

/-- A table is read as a kind is constructed with its entries: with the same result, which is
of this kind and no other, with the same problems in the same order, each under the tag, and
whatever stands under names that the kind does not declare. -/
structure ReadAs (kind : ExtensionKind) (entries : List (Datum × Datum)) : Prop where
  /-- The same extension is read and constructed. -/
  valid : ∀ content, ofDatum (.table entries) = .valid content ↔
    (ModelKind.extension kind).construct entries = .ok (.extension content)
  /-- What is constructed is of the kind. -/
  ofKind : ∀ model, (ModelKind.extension kind).construct entries = .ok model →
    model.kind = .extension kind
  /-- No other kind is constructed with the entries. -/
  ofNoOther : ∀ other model, (ModelKind.extension other).construct entries = .ok model →
    other = kind
  /-- The problems are those of the kind, each under the tag. -/
  invalid : ∀ problems,
    (ModelKind.extension kind).construct entries = .error (.invalid kind.name problems) ↔
      ofDatum (.table entries) = .invalid (problems.map (Problem.within (.field kind.tag)))
  /-- The kind is constructed, or there are such problems. -/
  fails : ∀ failure, (ModelKind.extension kind).construct entries = .error failure →
    ∃ problems, failure = .invalid kind.name problems
  /-- Nothing that the kind does not declare has a say in either. -/
  ofDeclared : ∀ others, Datum.OnlyWords others →
    Keyed.AgreeOn ((ModelKind.extension kind).declared.map Declared.name) (Datum.words entries)
        (Datum.words others) →
      ofDatum (.table others) = ofDatum (.table entries) ∧
        (ModelKind.extension kind).construct others =
          (ModelKind.extension kind).construct entries

/-- A table with the tag of a kind is what the kind makes of its named data, seen from
under the tag. -/
theorem ofDatum_of_tag {kind : ExtensionKind} {entries : List (Datum × Datum)}
    (ht : Keyed.get? "type" (Datum.words entries) = some (.text kind.tag)) :
    ofDatum (.table entries) =
      (kind.ofEntries (Datum.words entries)).within (.field kind.tag) := by
  rw [ofDatum, Table.get?_word, ht, ofTagged_tag, ExtensionKind.ofTable_eq]

/-- A table that has only words as keys and the tag of a kind is read as the kind is
constructed. -/
theorem readAs_of_tag {kind : ExtensionKind} {entries : List (Datum × Datum)}
    (hwords : Datum.OnlyWords entries)
    (ht : Keyed.get? "type" (Datum.words entries) = some (.text kind.tag)) :
    ReadAs kind entries := by
  have hread := ofDatum_of_tag ht
  have hbuilt : (ModelKind.extension kind).construct entries =
      Failure.ofChecked kind.name ((ModelKind.extension kind).ofEntries (Datum.words entries)) :=
    ModelKind.construct_of_words hwords
  refine ⟨fun content => ?_, fun model h => ?_, fun other model h => ?_, fun problems => ?_,
    fun failure h => ?_, fun others hothers hagree => ?_⟩
  · rw [hread, Checked.within_eq_valid, hbuilt, Failure.ofChecked_eq_ok]
    simp [ModelKind.ofEntries, Checked.map_eq_valid]
  · rw [hbuilt] at h
    exact (ModelKind.madeOf_of_ofEntries (Failure.ofChecked_eq_ok.mp h)).ofKind
  · rw [ModelKind.construct_of_words hwords] at h
    obtain ⟨content, hc, -⟩ := Checked.map_eq_valid.mp (Failure.ofChecked_eq_ok.mp h)
    exact ExtensionKind.eq_of_tag_of_ofEntries ht hc
  · rw [hread, Checked.within_eq_invalid, hbuilt, Failure.ofChecked_eq_error]
    simp only [ModelKind.ofEntries, Checked.map_eq, Checked.map_eq_invalid]
    refine ⟨fun h => ⟨problems, h, rfl⟩, ?_⟩
    rintro ⟨inner, h, hinner⟩
    rwa [(Problem.within_injective _).list_map hinner] at h
  · rw [hbuilt] at h
    cases hc : (ModelKind.extension kind).ofEntries (Datum.words entries) with
    | valid model =>
      rw [hc] at h
      cases h
    | invalid problems =>
      rw [hc] at h
      cases h
      exact ⟨problems, rfl⟩
  · have hsame : kind.ofEntries (Datum.words others) = kind.ofEntries (Datum.words entries) :=
      (ExtensionKind.ofEntries_congr hagree).symm
    have htag : Keyed.get? "type" (Datum.words others) = some (.text kind.tag) :=
      (hagree "type" (.head _)).symm.trans ht
    refine ⟨?_, ?_⟩
    · rw [ofDatum_of_tag htag, hsame, hread]
    · rw [ModelKind.construct_of_words hothers, hbuilt, ModelKind.ofEntries, ModelKind.ofEntries,
        hsame]
      rfl

/-- What a table has under keys that are no words makes no difference where it is read. -/
theorem ofDatum_wordEntries (entries : List (Datum × Datum)) :
    ofDatum (.table (Datum.wordEntries entries)) = ofDatum (.table entries) := by
  have hbuild : ExtensionKind.ofTable (Datum.wordEntries entries) =
      ExtensionKind.ofTable entries := by
    funext kind
    rw [ExtensionKind.ofTable_eq, ExtensionKind.ofTable_eq, Datum.words_wordEntries]
  rw [ofDatum, ofDatum, hbuild, Table.get?_word, Table.get?_word, Datum.words_wordEntries]

/-- A table with a key that is no word constructs nothing, and it is read as the table of its
other entries. -/
structure ReadBesides (kind : ExtensionKind) (entries : List (Datum × Datum)) : Prop where
  /-- The call of the constructor fails before anything is checked. -/
  refused : (ModelKind.extension kind).construct entries = .error (.call .nameNotText)
  /-- The entries under words are read alone. -/
  same : ofDatum (.table (Datum.wordEntries entries)) = ofDatum (.table entries)
  /-- And that as the kind is constructed with them. -/
  readAs : ReadAs kind (Datum.wordEntries entries)

/-- A table whose tag is that of a kind is read as the kind is constructed with its entries, if
all of its keys are words, and otherwise as with those of its entries whose keys are. A table
without a tag, or with one that is that of no kind, has one problem, and only the tag says
which. -/
theorem readAs_or_tagDefect (entries : List (Datum × Datum)) :
    (∀ kind : ExtensionKind, Table.get? (.text "type") entries = some (.text kind.tag) →
      (Datum.OnlyWords entries → ReadAs kind entries) ∧
      (¬Datum.OnlyWords entries → ReadBesides kind entries)) ∧
    ((∀ kind : ExtensionKind, Table.get? (.text "type") entries ≠ some (.text kind.tag)) →
      ofDatum (.table entries) =
        .invalid [⟨[], tagDefect (Table.get? (.text "type") entries)⟩]) := by
  refine ⟨fun kind ht => ?_, fun hne => ofTagged_of_forall_ne hne _⟩
  rw [Table.get?_word] at ht
  refine ⟨fun hwords => readAs_of_tag hwords ht, fun hwords => ?_⟩
  exact {
    refused := ModelKind.construct_of_not_words hwords
    same := ofDatum_wordEntries entries
    readAs := readAs_of_tag (Datum.onlyWords_wordEntries entries)
      (by rw [Datum.words_wordEntries, ht]) }

/-- Two names of a server, one with too large a type and one that is no pair, next to an
entry that the kind does not declare. -/
def faultyNames : List (Datum × Datum) :=
  [(.text "note", .absent), (.text "type", .text "sni"),
    (.text "names", .list [.list [.integer 256, .text "a"], .list [.text "x"]])]

/-- The same names under a tag that is only like one. -/
def mistaggedNames : List (Datum × Datum) :=
  [(.text "type", .text "SNI"),
    (.text "names", .list [.list [.integer 256, .text "a"], .list [.text "x"]])]

/-- Early data with a number among the keys. -/
def numberedEntries : List (Datum × Datum) :=
  [(.text "type", .text "early_data"), (.integer 1, .integer 2)]

/-- The problems of faulty names are three, each under the tag; under a wrong tag there is
only that of the tag; and a number among the keys is passed over where a table is read, but
is no name of an argument. -/
theorem readAs_or_tagDefect_sni :
    ofDatum (.table faultyNames) = .invalid
        [⟨[.field "sni", .field "names", .item 0, .item 0], .aboveLimit 255⟩,
          ⟨[.field "sni", .field "names", .item 1, .item 0], .unreadableInteger⟩,
          ⟨[.field "sni", .field "names", .item 1, .item 1], .missing⟩] ∧
      ofDatum (.table mistaggedNames) =
        .invalid [⟨[], .unknownTag "SNI" (ExtensionKind.all.map ExtensionKind.tag)⟩] ∧
      ofDatum (.table numberedEntries) = .valid .earlyData ∧
      (ModelKind.extension .earlyData).construct numberedEntries =
        .error (.call .nameNotText) := by
  have hwords : Datum.OnlyWords faultyNames := by
    simp [Datum.OnlyWords, faultyNames]
  have hread : ReadAs .sni faultyNames := ((readAs_or_tagDefect faultyNames).1 .sni rfl).1 hwords
  have hbuilt : (ModelKind.extension .sni).construct faultyNames = .error (.invalid "SNI"
      [⟨[.field "names", .item 0, .item 0], .aboveLimit 255⟩,
        ⟨[.field "names", .item 1, .item 0], .unreadableInteger⟩,
        ⟨[.field "names", .item 1, .item 1], .missing⟩]) := rfl
  have hnone : ∀ kind : ExtensionKind,
      Table.get? (.text "type") mistaggedNames ≠ some (.text kind.tag) := by
    intro kind h
    have htag : "SNI" ≠ kind.tag := by cases kind <;> decide
    exact htag (Datum.text.inj (Option.some.inj h))
  have hbesides : ReadBesides .earlyData numberedEntries :=
    ((readAs_or_tagDefect numberedEntries).1 .earlyData rfl).2 fun hall => by
      obtain ⟨word, hword⟩ := hall (.integer 1, .integer 2) (.tail _ (.head _))
      cases hword
  have hvalid : ofDatum (.table (Datum.wordEntries numberedEntries)) = .valid .earlyData := rfl
  exact ⟨(hread.invalid _).mp hbuilt, (readAs_or_tagDefect mistaggedNames).2 hnone,
    hbesides.same.symm.trans hvalid, hbesides.refused⟩

/-- A table with a number among its keys is read as an extension, and no class is constructed
with it. -/
theorem construct_needs_words :
    ofDatum (.table numberedEntries) = .valid .earlyData ∧
      (∀ kind : ModelKind, kind.construct numberedEntries = .error (.call .nameNotText)) ∧
      ¬(∀ content, ofDatum (.table numberedEntries) = .valid content ↔
        (ModelKind.extension .earlyData).construct numberedEntries =
          .ok (.extension content)) := by
  have hread : ofDatum (.table numberedEntries) = .valid .earlyData := rfl
  have hbuilt : ∀ kind : ModelKind,
      kind.construct numberedEntries = .error (.call .nameNotText) := fun _ => rfl
  refine ⟨hread, hbuilt, fun h => ?_⟩
  cases (hbuilt _).symm.trans ((h .earlyData).mp hread)

end Extension

end TlsTranscript
