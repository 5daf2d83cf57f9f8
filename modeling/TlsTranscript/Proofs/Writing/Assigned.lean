import TlsTranscript.Proofs.Writing.Printable

/-!
# Assigned names

What the names of the assigned codes are like: all are printable ASCII, and where a
name stands alone it tells its code, in pairs as well.
-/

namespace TlsTranscript

open Text

/-- What is found under a key stands among the entries. -/
theorem Keyed.mem_of_get? {κ α : Type} [DecidableEq κ] {key : κ} {value : α}
    {entries : Keyed κ α} (h : get? key entries = some value) : (key, value) ∈ entries := by
  induction entries with
  | nil => cases h
  | cons entry rest ih =>
    obtain ⟨other, found⟩ := entry
    rw [get?] at h
    split at h
    · next he =>
      rw [he, Option.some.inj h]
      exact List.mem_cons_self
    · exact List.mem_cons_of_mem _ (ih h)

namespace Registries

variable {registries : Registries} {kind : RegistryKind}

/-- A code that has a name is listed with it. -/
theorem mem_table_of_nameOf? {code : Int} {name : String}
    (h : registries.nameOf? kind code = some name) :
    (code, some name) ∈ registries.table kind :=
  Keyed.mem_of_get? (Option.join_eq_some_iff.mp h)

/-- A character that no listed name holds is held by no name. -/
theorem namesAvoid_of_table {c : Char}
    (h : ∀ entry ∈ registries.table kind, ∀ name ∈ entry.2, c ∉ name.toList) :
    registries.NamesAvoid kind c :=
  fun _ _ hn => h _ (mem_table_of_nameOf? hn) _ rfl

/-- Names that are listed once and look like no mark tell their codes. -/
theorem namesTell_of_table
    (hd : ∀ entry ∈ registries.table kind, ∀ other ∈ registries.table kind,
      entry.2 = other.2 → entry.1 = other.1)
    (hm : ∀ entry ∈ registries.table kind, ∀ name ∈ entry.2, ¬unknownMark <+: name.toList) :
    registries.NamesTell kind where
  distinct _ _ _ hf hs := hd _ (mem_table_of_nameOf? hf) _ (mem_table_of_nameOf? hs) rfl
  unmarked _ _ hn := hm _ (mem_table_of_nameOf? hn) _ rfl

/-- Names of all kinds that are printable ASCII. -/
def AllPrintable (registries : Registries) : Prop :=
  ∀ kind code name, registries.nameOf? kind code = some name →
    ∀ c ∈ name.toList, IsPrintableAscii c

/-- Names that are printable ASCII hold no other character. -/
theorem AllPrintable.allAvoid (h : registries.AllPrintable) {c : Char}
    (hc : ¬IsPrintableAscii c) : registries.AllAvoid c :=
  fun kind code name hn hm => hc (h kind code name hn c hm)

/-- Names are printable ASCII if all that are listed are plain. -/
theorem allPrintable_of_table (h : ∀ kind ∈ RegistryKind.all, ∀ entry ∈ registries.table kind,
    ∀ name ∈ entry.2, isPlain name = true) : registries.AllPrintable := by
  have hall : ∀ kind, kind ∈ RegistryKind.all := by
    intro kind
    cases kind <;> decide
  intro kind code name hn c hc
  exact isPrintableAscii_of_isPlain (h kind (hall kind) _ (mem_table_of_nameOf? hn) name rfl) hc

/-- The assigned names are printable ASCII. -/
theorem assigned_allPrintable : assigned.AllPrintable :=
  allPrintable_of_table (by decide +kernel)

/-- No assigned name holds an unprintable character. -/
theorem assigned_allAvoid {c : Char} (hc : ¬IsPrintableAscii c) : assigned.AllAvoid c :=
  assigned_allPrintable.allAvoid hc

/-- Assigned names of severities tell their codes. -/
theorem assigned_namesTell_alertSeverity : assigned.NamesTell .alertSeverity :=
  namesTell_of_table (by decide) (by decide)

/-- Names of algorithms that tell their codes tell them in pairs too, if no listed name
holds a comma or a closing parenthesis. -/
theorem pairsTell_of_table (hash : registries.NamesTell .hashAlgorithm)
    (sign : registries.NamesTell .signatureAlgorithm)
    (h : ∀ kind ∈ [RegistryKind.hashAlgorithm, .signatureAlgorithm],
      ∀ entry ∈ registries.table kind, ∀ name ∈ entry.2,
        ',' ∉ name.toList ∧ ')' ∉ name.toList) : registries.PairsTell := by
  have havoids : ∀ kind ∈ [RegistryKind.hashAlgorithm, .signatureAlgorithm],
      ∀ c ∈ [',', ')'], registries.NamesAvoid kind c := by
    intro kind hkind
    rw [List.forall_mem_cons, List.forall_mem_singleton]
    exact ⟨namesAvoid_of_table fun entry he name hn => (h kind hkind entry he name hn).1,
      namesAvoid_of_table fun entry he name hn => (h kind hkind entry he name hn).2⟩
  exact {
    hash := hash
    sign := sign
    hashAvoids := havoids _ List.mem_cons_self
    signAvoids := havoids _ (List.mem_cons_of_mem _ List.mem_cons_self) }

/-- Assigned names of hash and signature algorithms tell their codes in pairs. -/
theorem assigned_pairsTell : assigned.PairsTell :=
  pairsTell_of_table (namesTell_of_table (by decide) (by decide))
    (namesTell_of_table (by decide) (by decide)) (by decide)

end Registries

end TlsTranscript
