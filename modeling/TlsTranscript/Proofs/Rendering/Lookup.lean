import Mathlib.Data.List.Forall2
import TlsTranscript.Proofs.Rendering.Rows
import TlsTranscript.Session.Operation

/-!
# Looked-up codes

A code is written as what stands under it in the registries that it has its name from,
and nothing else of them counts. Where all names are texts, what stands under a code is
the name of the code in the tables of integers that structures are written with.
-/

namespace TlsTranscript

/-- An integer is found under the keys that equal it. -/
theorem Datum.matchesPart_integer (code : Int) (key : Datum) :
    (Datum.integer code).matchesPart key = (key.integral? == some code) := by
  have hsame : same (.integer code) key = sameNumber (.integer code) key := by
    cases key <;> simp only [same]
  have hnumber : sameNumber (.integer code) key = (key.integral? == some code) := by
    cases key with
    | float value =>
      simp only [sameNumber, integral?, toInt?]
      cases value.toInt? with
      | none => rfl
      | some found => exact Bool.beq_comm
    | flag value => exact Bool.beq_comm
    | integer value => exact Bool.beq_comm
    | _ => rfl
  have hnan : oneNan (.integer code) key = false := by cases key <;> rfl
  rw [matchesPart, hnan, hsame, hnumber, Bool.false_or]

namespace CodeTable

/-- The name that a datum is. -/
theorem ofText?_of_name? {datum : Datum} {name : Option String} (h : name? datum = some name) :
    datum = .ofText? name := by
  cases datum with
  | absent => rw [← Option.some.inj h]; rfl
  | text value => rw [← Option.some.inj h]; rfl
  | _ => cases h

/-- What stands under an integer in a table whose names are texts is its name in the
table of integers. -/
theorem get?_of_ofData? {entries : Table Datum} {codes : CodeTable}
    (h : ofData? entries = some codes) (code : Int) :
    (Table.get? (.integer code) entries).getD .absent =
      .ofText? (Keyed.get? code codes).join := by
  induction entries generalizing codes with
  | nil =>
    rw [← Option.some.inj h]
    rfl
  | cons entry rest ih =>
    obtain ⟨key, found⟩ := entry
    rw [Table.get?, Datum.matchesPart_integer]
    rw [ofData?] at h
    cases hk : key.integral? with
    | none =>
      simp only [hk] at h
      exact ih h
    | some other =>
      cases hname : name? found with
      | none => simp [hk, hname] at h
      | some name =>
        cases hrest : ofData? rest with
        | none => simp [hk, hname, hrest] at h
        | some others =>
          simp only [hk, hname, hrest, Option.some.injEq] at h
          rw [← h, Keyed.get?]
          by_cases hc : code = other
          · simp [hc, ofText?_of_name? hname]
          · have hne : other ≠ code := Ne.symm hc
            simp [hc, hne, ih hrest]

end CodeTable

namespace Naming

variable {naming : Naming} {registries : Registries}

/-- A table that is put in place is the table of its kind, and those of the other kinds
stay. -/
theorem table_withTable (codes : CodeTable) (kind other : RegistryKind) :
    (registries.withTable codes kind).table other =
      if other = kind then codes else registries.table other := by
  cases kind <;> cases other <;> rfl

/-- The tables of registries of texts are the tables of their naming. -/
theorem table_of_withTables? {kinds : List RegistryKind}
    (h : naming.withTables? kinds = some registries) {kind : RegistryKind} (hk : kind ∈ kinds) :
    ∃ entries, naming.table kind = .table entries ∧
      CodeTable.ofData? entries = some (registries.table kind) := by
  induction kinds generalizing registries with
  | nil => cases hk
  | cons first rest ih =>
    rw [withTables?] at h
    split at h
    · next entries known ht hrest =>
      obtain ⟨codes, hcodes, rfl⟩ := Option.map_eq_some_iff.mp h
      rw [table_withTable]
      by_cases hf : kind = first
      · rw [if_pos hf, hf]
        exact ⟨entries, ht, hcodes⟩
      · rw [if_neg hf]
        exact ih hrest ((List.mem_cons.mp hk).resolve_left hf)
    · cases h

/-- Where all names are texts, what stands under a code is its name. -/
theorem nameOf_integer (hn : naming.registries? = some registries) (kind : RegistryKind)
    (code : Int) :
    naming.nameOf kind (.integer code) = .ok (.ofText? (registries.nameOf? kind code)) := by
  have htable : ∃ entries, naming.table kind = .table entries ∧
      CodeTable.ofData? entries = some (registries.table kind) := by
    cases naming with
    | assigned =>
      obtain rfl := Option.some.inj hn
      exact ⟨_, rfl, CodeTable.ofData?_toData _⟩
    | given tables => exact table_of_withTables? hn (by cases kind <;> decide)
  obtain ⟨entries, ht, hcodes⟩ := htable
  have hkey : (Datum.integer code).changeable? = none := rfl
  simp only [nameOf, ht, hkey, CodeTable.get?_of_ofData? hcodes, Registries.nameOf?]

/-- What stands under a code where codes have their names from. -/
def lookUp (naming : Except Failure Naming) (kind : RegistryKind) (code : Datum) :
    Except Failure Datum := do
  let naming ← naming
  naming.nameOf kind code

end Naming

/-- The name of a kind stands for it. -/
theorem RegistryKind.kindOperand_name (kind : RegistryKind) :
    (Datum.text kind.name).kindOperand = .ok kind := by
  cases kind <;> rfl

/-- Registries that are asked for the name of a code answer what stands under it. -/
theorem Operation.nameIn_eq (registries : Datum) (kind : RegistryKind) (code : Datum) :
    nameIn registries (.text kind.name) code = Naming.lookUp (naming registries) kind code := by
  unfold nameIn Naming.lookUp
  cases naming registries with
  | error failure => rfl
  | ok found => rw [RegistryKind.kindOperand_name]; rfl

namespace Datum

/-- Writes a code, what stands under it given. -/
def writeFound (kind : RegistryKind) (code : Datum) (found : Except Failure Datum) :
    Action Datum := do
  match ← Action.ofResult found with
  | .absent =>
    noteMiss kind code
    Action.ofResult (code.unnamedCode kind)
  | name => Action.ofResult (code.namedCode kind name)

/-- A code is written as what stands under it. -/
theorem writeCode_eq (kind : RegistryKind) (naming : Except Failure Naming) (code : Datum) :
    code.writeCode kind naming = code.writeFound kind (Naming.lookUp naming kind code) := by
  cases naming with
  | error failure => rfl
  | ok found => rfl

end Datum

end TlsTranscript
