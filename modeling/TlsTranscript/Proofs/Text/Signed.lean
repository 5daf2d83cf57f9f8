import TlsTranscript.Proofs.Text.Numerals

/-!
# Numerals of integers read back

An integer is written with a minus sign if it is negative, in decimal or behind the mark of
base sixteen, and with zeros in front up to a width. Every such numeral is read back, whatever
the size and the sign of the integer are, and it is legible in front of everything but a
further digit or sign.
-/

namespace TlsTranscript.Text

/-- Digits, letters that are used as digits, and the minus sign. -/
def IsSigned (c : Char) : Prop := c = '-' ∨ IsNumeral c

instance : DecidablePred IsSigned := fun _ => inferInstanceAs (Decidable (_ ∨ _))

/-- The integer that digits write, with a minus sign in front of them or without. -/
def signedValue? (base : Nat) : List Char → Option Int
  | '-' :: digits => (Digits.value? base digits).map fun n => -(n : Int)
  | digits => (Digits.value? base digits).map Int.ofNat

/-- The integer that a text writes in base sixteen, behind its mark. -/
def hexValue? (text : String) : Option Int :=
  match text.toList with
  | '0' :: 'x' :: digits => signedValue? 16 digits
  | _ => none

/-- The integer that a text writes in decimal. -/
def decimalValue? (text : String) : Option Int := signedValue? 10 text.toList

/-- Digits of a number, filled or not, write the number. -/
theorem signedValue?_fill {base : Nat} (hb : 2 ≤ base) (hb' : base ≤ 16) (width n : Nat) :
    signedValue? base (Digits.fill width (Digits.ofNat base n)) = some (n : Int) := by
  have hsign : ¬IsNumeral '-' := by decide
  have hvalue := Digits.value?_fill hb hb' width n
  unfold signedValue?
  split
  · next digits hd =>
    exact absurd (Digits.isNumeral_of_mem_fill hb hb' (hd ▸ List.mem_cons_self)) hsign
  · rw [hvalue]
    rfl

/-- Digits of a number behind a minus sign write its negative. -/
theorem signedValue?_minus_fill {base : Nat} (hb : 2 ≤ base) (hb' : base ≤ 16) (width n : Nat) :
    signedValue? base ('-' :: Digits.fill width (Digits.ofNat base (n + 1))) =
      some (.negSucc n) := by
  rw [signedValue?, Digits.value?_fill hb hb']
  rfl

/-- Sign and padded digits of an integer are read back. -/
theorem signedValue?_hexPadded (width : Nat) : (value : Int) →
    signedValue? 16 (hexPadded width value) = some value
  | .ofNat n => signedValue?_fill (by decide) (by decide) width n
  | .negSucc n => signedValue?_minus_fill (by decide) (by decide) (width - 1) n

/-- An integer is read back from its decimal numeral. -/
theorem decimalValue?_decimal (value : Int) : decimalValue? (decimal value) = some value := by
  have hfill : ∀ n, Digits.fill 0 (Digits.ofNat 10 n) = Digits.ofNat 10 n := fun n => by
    simp [Digits.fill]
  rw [decimalValue?]
  cases value with
  | ofNat n =>
    rw [decimal, String.toList_ofList, ← hfill]
    exact signedValue?_fill (by decide) (by decide) 0 n
  | negSucc n =>
    rw [decimal, String.toList_ofList, ← hfill]
    exact signedValue?_minus_fill (by decide) (by decide) 0 n

/-- An integer is read back from its numeral in base sixteen, padded to two octets. -/
theorem hexValue?_hex16 (value : Int) : hexValue? (hex16 value) = some value := by
  rw [hexValue?, hex16, String.toList_ofList]
  exact signedValue?_hexPadded 4 value

/-- An integer is read back from its numeral in base sixteen without a fill. -/
theorem hexValue?_hexUnpadded (value : Int) : hexValue? (hexUnpadded value) = some value := by
  rw [hexValue?, hexUnpadded, String.toList_ofList]
  exact signedValue?_hexPadded 0 value

/-- Padded numerals of integers consist of digits and a sign. -/
theorem isSigned_of_mem_hexPadded {width : Nat} {value : Int} {c : Char}
    (h : c ∈ hexPadded width value) : IsSigned c := by
  cases value with
  | ofNat n => exact .inr (Digits.isNumeral_of_mem_fill (by decide) (by decide) h)
  | negSucc n =>
    rcases List.mem_cons.mp h with hc | hd
    · exact .inl hc
    · exact .inr (Digits.isNumeral_of_mem_fill (by decide) (by decide) hd)

/-- Padded numerals of integers begin with a digit or a sign. -/
theorem hexPadded_eq_cons (width : Nat) (value : Int) :
    ∃ c rest, hexPadded width value = c :: rest ∧ IsSigned c := by
  cases hd : hexPadded width value with
  | nil =>
    cases value with
    | ofNat n => exact absurd (List.append_eq_nil_iff.mp hd).2 (Digits.ofNat_ne_nil 16 n)
    | negSucc n => cases hd
  | cons c rest => exact ⟨c, rest, rfl, isSigned_of_mem_hexPadded (hd ▸ List.mem_cons_self)⟩

/-- Padded numerals of integers are legible in front of everything but a digit or a sign,
whatever their width is. -/
theorem legible_hexPadded_int (width : Nat) :
    Legible (fun c => ¬IsSigned c) fun value : Int => hexPadded width value := by
  refine .of_apart (fun _ _ => apart_of_class (fun _ => isSigned_of_mem_hexPadded)
    (fun _ => isSigned_of_mem_hexPadded)) fun a b he => ?_
  have ha := signedValue?_hexPadded width a
  rw [he, signedValue?_hexPadded] at ha
  exact (Option.some.inj ha).symm

/-- Integers in base sixteen that are padded to two octets are legible in front of everything
but a digit or a sign. -/
theorem legible_hex16_int :
    Legible (fun c => ¬IsSigned c) fun value : Int => (hex16 value).toList := by
  simpa only [hex16, String.toList_ofList, List.cons_append, List.nil_append] using
    (legible_hexPadded_int 4).prepend ['0', 'x']

/-- So are integers in base sixteen without a fill. -/
theorem legible_hexUnpadded_int :
    Legible (fun c => ¬IsSigned c) fun value : Int => (hexUnpadded value).toList := by
  simpa only [hexUnpadded, String.toList_ofList, List.cons_append, List.nil_append] using
    (legible_hexPadded_int 0).prepend ['0', 'x']

end TlsTranscript.Text
