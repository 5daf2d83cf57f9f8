import TlsTranscript.Proofs.Rendering.Laid

/-!
# Codes stay readable

Whatever the registries are, a code that is written can be told from what is written of it,
or it has a name. A name stands alone or behind the padded number of its code. A code without
a name is recorded, and its mark holds the code in base sixteen and in decimal, for integers
of every size and sign that have a decimal text. Kinds that show the number in front of the
name never show two codes alike, even if a name looks like the mark of another code.
-/

namespace TlsTranscript

open Text

variable {naming : Naming} {registries : Registries}

namespace Datum

/-- A code without a name is refused if it has too many digits for its decimal text. -/
theorem runIn_writeCode_error (hn : naming.registries? = some registries) {kind : RegistryKind}
    {code : Int} (hname : registries.nameOf? kind code = none)
    (hw : Text.isWritable code = false) (w : World) :
    (((integer code).writeCode kind (.ok naming)).runIn w).1 =
      .error (.refused .tooManyDigits) := by
  have hshown : (integer code).displayOperand = .error (.refused .tooManyDigits) := by
    simp only [displayOperand, isWritable, hw, Bool.false_eq_true, if_false]
  have hunnamed : (integer code).unnamedCode kind = .error (.refused .tooManyDigits) := by
    unfold unnamedCode
    rw [hshown]
    cases kind <;> rfl
  rw [writeCode_integer hn, hname]
  simp only [writeFound, ofText?, hunnamed]
  rfl

/-- What is written of a code is its text in the registries. -/
theorem eq_of_runIn_writeCode (hn : naming.registries? = some registries) {kind : RegistryKind}
    {code : Int} {text : Datum} {w : World}
    (h : (((integer code).writeCode kind (.ok naming)).runIn w).1 = .ok text) :
    text = .text (registries.write kind code).text := by
  cases hname : registries.nameOf? kind code with
  | some name =>
    rw [writes_writeCode_of_name hn hname w] at h
    exact (Except.ok.inj h).symm
  | none =>
    cases hw : Text.isWritable code with
    | true =>
      rw [writes_writeCode hn kind hw w] at h
      exact (Except.ok.inj h).symm
    | false =>
      rw [runIn_writeCode_error hn hname hw] at h
      cases h

end Datum

namespace Operation

/-- A code is written as the writer of its kind writes it. -/
theorem run_code (kind : RegistryKind) (datum given : Datum) :
    code.run [.text kind.name, datum, given] = (codeOf kind).run [datum, given] := by
  have hrun : code.run [.text kind.name, datum, given] = (do
      datum.writeCode (← Action.ofResult (Datum.text kind.name).kindOperand)
        (Operation.naming given)) := rfl
  rw [hrun, kind.kindOperand_name]
  rfl

/-- Codes stay readable. With registries in which all names are texts or none, an integer of
a kind is written alike by the writer of the kind and by that of all kinds. A code with a
name, however large it is and even if the name is empty, comes out as the name, behind its
padded number if the kind shows numbers, and nothing is recorded. A code without a name that
has a decimal text leaves one record and comes out in the mark of its kind, in which its
numbers in base sixteen and in decimal read back to it. Two codes of a kind that shows
numbers are never written alike. -/
theorem run_code_stays_readable {given : Datum} (hgiven : Operation.naming given = .ok naming)
    (hn : naming.registries? = some registries) (kind : RegistryKind) :
    let written := fun value : Int => code.run [.text kind.name, .integer value, given]
    (∀ value, written value = (codeOf kind).run [.integer value, given]) ∧
    (∀ value name, registries.nameOf? kind value = some name → ∀ w,
      (written value).runIn w =
        (.ok (.text (if kind.showsNumber then Text.hex16 value ++ "(" ++ name ++ ")" else name)),
          w)) ∧
    (∀ value, registries.nameOf? kind value = none → isWritable value = true → ∀ w,
      ∃ hex shown, hexValue? hex = some value ∧ decimalValue? shown = some value ∧
        (written value).runIn w = (.ok (.text (kind.marker hex shown)),
          { w with log := .unlistedCode kind value :: w.log })) ∧
    (kind.showsNumber = true → ∀ first second text v w,
      ((written first).runIn v).1 = .ok text → ((written second).runIn w).1 = .ok text →
        first = second) := by
  intro written
  have hwritten : ∀ value, written value = (Datum.integer value).writeCode kind (.ok naming) :=
    fun value => (run_code kind _ given).trans (by rw [← hgiven]; rfl)
  refine ⟨fun value => run_code kind _ given, fun value name h w => ?_, fun value h hw w => ?_,
    fun hshows first second text v w hf hs => ?_⟩
  · rw [hwritten, Datum.writes_writeCode_of_name hn h w, Registries.write, h]
    rfl
  · refine ⟨kind.hexShown value, decimal value, kind.hexValue?_hexShown value,
      decimalValue?_decimal value, ?_⟩
    rw [hwritten, Datum.writes_writeCode hn kind hw w, Registries.write, h,
      ← kind.withoutName_eq_marker]
    rfl
  · rw [hwritten] at hf hs
    have htext := (Datum.eq_of_runIn_writeCode hn hf).symm.trans
      (Datum.eq_of_runIn_writeCode hn hs)
    exact (registries.legible_write kind hshows).injective (by rw [Datum.text.inj htext])

/-- An empty name stands behind its code, and a code without a name is marked: below zero,
beyond two octets, and where the registry lists it with nothing for a name. A name that looks
like the mark of another code is not written like that code. -/
theorem run_code_stays_readable_lookalike :
    let suites : Datum := .table [(.integer (-10), .text ""), (.integer 1, .absent),
      (.integer 70000, .text "Unknown cipher/-10")]
    let given : Datum := .registries 0 [("_tables", .table [(.text "cipher_suite", suites)])]
    let written := fun value : Int => code.run [.text "cipher_suite", .integer value, given]
    (written (-10)).runIn {} = (.ok (.text "0x-00a()"), {}) ∧
      (∃ hex shown, hexValue? hex = some 1 ∧ decimalValue? shown = some 1 ∧
        (written 1).runIn {} = (.ok (.text (RegistryKind.cipherSuite.marker hex shown)),
          { log := [.unlistedCode .cipherSuite 1] })) ∧
      ((written 70000).runIn {}).1 = .ok (.text "0x11170(Unknown cipher/-10)") ∧
      ∀ value, ((written value).runIn {}).1 = ((written 70000).runIn {}).1 → value = 70000 := by
  intro suites given written
  have hgiven : Operation.naming given =
    .ok (.given [(.text "cipher_suite", suites)]) := rfl
  have hn : (Naming.given [(.text "cipher_suite", suites)]).registries? =
    some { cipherSuites := [(-10, some ""), (1, none), (70000, some "Unknown cipher/-10")] } := rfl
  obtain ⟨-, hnamed, hunnamed, htold⟩ := run_code_stays_readable hgiven hn .cipherSuite
  have hlast : ((written 70000).runIn {}).1 = .ok (.text "0x11170(Unknown cipher/-10)") := rfl
  refine ⟨hnamed (-10) "" rfl {}, ?_, hlast, fun value he => ?_⟩
  · exact hunnamed 1 rfl (isWritable_of_lt (show 1 < UInt32.size by decide)) {}
  · exact htold rfl value 70000 _ {} {} (he.trans hlast) hlast

end Operation

end TlsTranscript
