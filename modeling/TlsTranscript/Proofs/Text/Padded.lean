import TlsTranscript.Proofs.Text.Signed

/-!
# Numerals of a fixed width

Digits that write a number are its own digits with zeros in front, so a number has one
numeral of each width that is not too small for it. An integer in base sixteen has sign and
digits filled up to a width, which the sign counts against, and no zero beyond it. That is a
description of one text, whatever the size and the sign of the integer are. The text consists
of as many digits as the width asks for exactly if the integer is not negative and fits.
-/

namespace TlsTranscript.Text

/-- A character is the digit for its value, which is below sixteen. -/
theorem digit_of_digitValue? {c : Char} {value : Nat} (h : digitValue? c = some value) :
    value < 16 ∧ digit value = c := by
  unfold digitValue? at h
  split at h
  · have hv : c.toNat - 48 = value := Option.some.inj h
    refine ⟨by omega, ?_⟩
    rw [digit, if_pos (by omega), show 48 + value = c.toNat by omega, Char.ofNat_toNat]
  · split at h
    · have hv : c.toNat - 87 = value := Option.some.inj h
      refine ⟨by omega, ?_⟩
      rw [digit, if_neg (by omega), show 87 + value = c.toNat by omega, Char.ofNat_toNat]
    · cases h

namespace Digits

variable {base : Nat}

/-- Digits are read from the first one on. -/
theorem valueFrom?_cons_eq_some {read n : Nat} {c : Char} {rest : List Char} :
    valueFrom? base read (c :: rest) = some n ↔
      ∃ value < base, digitValue? c = some value ∧
        valueFrom? base (read * base + value) rest = some n := by
  rw [valueFrom?]
  cases digitValue? c with
  | none => simp
  | some value =>
    by_cases hlt : value < base
    · simp only [if_pos hlt, Option.some.injEq]
      refine ⟨fun h => ⟨value, hlt, rfl, h⟩, ?_⟩
      rintro ⟨_, -, rfl, h⟩
      exact h
    · simp only [if_neg hlt, reduceCtorEq, Option.some.injEq, false_iff]
      rintro ⟨_, hlt', rfl, -⟩
      exact hlt hlt'

/-- Numerals write a number in base sixteen. -/
theorem exists_valueFrom? {digits : List Char} (h : ∀ c ∈ digits, IsNumeral c) (read : Nat) :
    ∃ n, valueFrom? 16 read digits = some n := by
  induction digits generalizing read with
  | nil => exact ⟨read, rfl⟩
  | cons d rest ih =>
    obtain ⟨hd, hrest⟩ := List.forall_mem_cons.mp h
    obtain ⟨value, hvalue⟩ := Option.isSome_iff_exists.mp hd
    obtain ⟨n, hn⟩ := ih hrest (read * 16 + value)
    exact ⟨n, valueFrom?_cons_eq_some.mpr ⟨value, (digit_of_digitValue? hvalue).1, hvalue, hn⟩⟩

/-- A number is below the power of the base that has its count of digits. -/
theorem lt_of_valueFrom? {read n : Nat} {digits : List Char}
    (h : valueFrom? base read digits = some n) :
    n < (read + 1) * Nat.pow base digits.length := by
  induction digits generalizing read with
  | nil =>
    obtain rfl := Option.some.inj h
    simp
  | cons c rest ih =>
    obtain ⟨value, hlt, -, hrest⟩ := valueFrom?_cons_eq_some.mp h
    have hread : read * base + value + 1 ≤ (read + 1) * base := by
      rw [Nat.succ_mul]
      omega
    have hpow : Nat.pow base (c :: rest).length = base * Nat.pow base rest.length := Nat.pow_succ'
    calc n < (read * base + value + 1) * Nat.pow base rest.length := ih hrest
      _ ≤ (read + 1) * base * Nat.pow base rest.length := Nat.mul_le_mul_right _ hread
      _ = (read + 1) * Nat.pow base (c :: rest).length := by rw [hpow, Nat.mul_assoc]

/-- Digits of one count are told by their number, with what has been read before them. -/
theorem eq_of_valueFrom? {read before n : Nat} {first second : List Char}
    (hl : first.length = second.length) (hf : valueFrom? base read first = some n)
    (hs : valueFrom? base before second = some n) : read = before ∧ first = second := by
  induction first generalizing second read before with
  | nil =>
    obtain rfl := List.length_eq_zero_iff.mp hl.symm
    exact ⟨(Option.some.inj hf).trans (Option.some.inj hs).symm, rfl⟩
  | cons c rest ih =>
    cases second with
    | nil => cases hl
    | cons d more =>
      obtain ⟨value, hlt, hc, hrest⟩ := valueFrom?_cons_eq_some.mp hf
      obtain ⟨other, hlt', hd, hmore⟩ := valueFrom?_cons_eq_some.mp hs
      obtain ⟨hread, htail⟩ := ih (Nat.succ.inj hl) hrest hmore
      have hdiv := congrArg (· / base) hread
      have hmod := congrArg (· % base) hread
      simp only [Nat.mul_comm _ base, Nat.mul_add_div (Nat.zero_lt_of_lt hlt),
        Nat.div_eq_of_lt hlt, Nat.div_eq_of_lt hlt', Nat.mul_add_mod, Nat.mod_eq_of_lt hlt,
        Nat.mod_eq_of_lt hlt', Nat.add_zero] at hdiv hmod
      have hcd : c = d := by
        rw [← (digit_of_digitValue? hc).2, ← (digit_of_digitValue? hd).2, hmod]
      exact ⟨hdiv, by rw [hcd, htail]⟩

/-- What digits write is read from the first one on, and there is one. -/
theorem value?_eq_some {digits : List Char} {n : Nat} :
    value? base digits = some n ↔ digits ≠ [] ∧ valueFrom? base 0 digits = some n := by
  cases digits with
  | nil => simp [value?]
  | cons c rest => simp [value?]

/-- Digits that write a number are its own digits with zeros in front. -/
theorem eq_fill_of_value? (hb : 2 ≤ base) (hb' : base ≤ 16) {digits : List Char} {n : Nat}
    (h : value? base digits = some n) : digits = fill digits.length (ofNat base n) := by
  obtain ⟨hne, hv⟩ := value?_eq_some.mp h
  have hlt : n < Nat.pow base digits.length := by simpa using lt_of_valueFrom? hv
  have hlen := length_fill_ofNat hb (List.length_pos_iff.mpr hne) hlt
  exact (eq_of_valueFrom? hlen.symm hv (value?_eq_some.mp (value?_fill hb hb' _ n)).2).2

/-- A fill leaves digits that are as many as it is wide as they are. -/
theorem fill_of_le {width : Nat} {digits : List Char} (h : width ≤ digits.length) :
    fill width digits = digits := by
  rw [fill, Nat.sub_eq_zero_of_le h, List.replicate_zero, List.nil_append]

/-- Digits without a zero in front are the own digits of the number that they write. -/
theorem eq_ofNat_of_value? (hb : 2 ≤ base) (hb' : base ≤ 16) {digits : List Char} {n : Nat}
    (h : value? base digits = some n) (hz : digits.head? ≠ some '0') :
    digits = ofNat base n := by
  have hfill := eq_fill_of_value? hb hb' h
  cases hcount : digits.length - (ofNat base n).length with
  | zero => rwa [fill_of_le (by omega)] at hfill
  | succ count =>
    rw [fill, hcount, List.replicate_succ, List.cons_append] at hfill
    exact absurd (by rw [hfill]; rfl) hz

/-- The digits of a number have no zero in front, but for the number zero. -/
theorem head?_ofNat (hb : 2 ≤ base) (hb' : base ≤ 16) {n : Nat} (hn : n ≠ 0) :
    (ofNat base n).head? ≠ some '0' := by
  induction n using Nat.strongRecOn with
  | ind n ih =>
    by_cases hlt : n < base
    · intro hz
      have hdigit : digit n = '0' := by
        rw [ofNat_of_lt hlt] at hz
        exact Option.some.inj hz
      have hvalue := digitValue?_digit (show n < 16 by omega)
      rw [hdigit] at hvalue
      exact hn (Option.some.inj hvalue).symm
    · have hquotient : n / base ≠ 0 := by
        rw [Nat.div_ne_zero_iff]
        omega
      have hfirst : (ofNat base n).head? = (ofNat base (n / base)).head? := by
        cases hq : ofNat base (n / base) with
        | nil => exact absurd hq (ofNat_ne_nil base _)
        | cons c rest =>
          rw [ofNat_of_le hb (by omega), hq]
          rfl
      rw [hfirst]
      exact ih _ (Nat.div_lt_self (by omega) hb) hquotient

end Digits

open Digits

/-- The sign that stands in front of the digits of an integer. -/
def sign (value : Int) : List Char := if value < 0 then ['-'] else []

/-- Sign and padded digits of an integer. -/
theorem hexPadded_eq (width : Nat) (value : Int) :
    hexPadded width value =
      sign value ++ fill (width - (sign value).length) (ofNat 16 value.natAbs) := by
  cases value with
  | ofNat n => rfl
  | negSucc n =>
    rw [sign, if_pos (Int.negSucc_lt_zero n)]
    rfl

/-- Digits of an integer that together with its sign have at least a given width, and no zero
in front beyond that. -/
structure Padded (width : Nat) (value : Int) (digits : List Char) : Prop where
  /-- The digits are decimal ones and the lower-case letters that are used as digits. -/
  numerals : ∀ c ∈ digits, IsNumeral c
  /-- The digits write the integer without its sign. -/
  value_eq : value? 16 digits = some value.natAbs
  /-- Sign and digits have the width. -/
  width_le : width ≤ (sign value ++ digits).length
  /-- What is wider has no zero in front. -/
  tight : width < (sign value ++ digits).length → digits.head? ≠ some '0'

/-- Padded digits of an integer are those that it is written with. -/
theorem Padded.eq_fill {width : Nat} {value : Int} {digits : List Char}
    (h : Padded width value digits) :
    digits = fill (width - (sign value).length) (ofNat 16 value.natAbs) := by
  have hlen := h.width_le
  rw [List.length_append] at hlen
  by_cases hwide : width < (sign value ++ digits).length
  · have hown := eq_ofNat_of_value? (by decide) (by decide) h.value_eq (h.tight hwide)
    rw [List.length_append] at hwide
    rw [fill_of_le (by rw [← hown]; omega)]
    exact hown
  · rw [List.length_append] at hwide
    have hwidth : digits.length = width - (sign value).length := by omega
    rw [← hwidth]
    exact eq_fill_of_value? (by decide) (by decide) h.value_eq

/-- The digits that an integer is written with are padded. -/
theorem padded_fill {width : Nat} (hw : 0 < width) (value : Int) :
    Padded width value (fill (width - (sign value).length) (ofNat 16 value.natAbs)) where
  numerals := fun _ => isNumeral_of_mem_fill (by decide) (by decide)
  value_eq := value?_fill (by decide) (by decide) _ _
  width_le := by
    rw [List.length_append, length_fill]
    omega
  tight := by
    intro hwide
    have hsign : (sign value).length ≤ 1 := by
      unfold sign
      split <;> simp
    rw [List.length_append, length_fill] at hwide
    rw [fill_of_le (by omega)]
    refine head?_ofNat (by decide) (by decide) fun hz => ?_
    -- zero has one digit and no sign, and that is no wider than the width
    have hzero : value = 0 := Int.natAbs_eq_zero.mp hz
    subst hzero
    have hone : (ofNat 16 (Int.natAbs 0)).length = 1 := rfl
    have hplus : (sign 0).length = 0 := rfl
    omega

/-- A text in base sixteen of a width: the mark, the sign of the integer and its padded
digits. -/
def HasWidth (width : Nat) (value : Int) (text : String) : Prop :=
  ∃ digits, text.toList = '0' :: 'x' :: (sign value ++ digits) ∧ Padded width value digits

/-- An integer has one text of a width, which is the one that it is written with. -/
theorem hasWidth_iff {width : Nat} (hw : 0 < width) (value : Int) (text : String) :
    HasWidth width value text ↔ text = String.ofList ('0' :: 'x' :: hexPadded width value) := by
  rw [hexPadded_eq]
  constructor
  · rintro ⟨digits, htext, hdigits⟩
    rw [← hdigits.eq_fill, ← htext, String.ofList_toList]
  · rintro rfl
    exact ⟨_, String.toList_ofList, padded_fill hw value⟩

/-- An integer is written with so many digits as the width asks for, and without a sign,
exactly if it is not negative and fits. -/
theorem isNumeral_hexPadded_iff {width : Nat} (hw : 0 < width) (value : Int) :
    (hexPadded width value).length = width ∧ (∀ c ∈ hexPadded width value, IsNumeral c) ↔
      0 ≤ value ∧ value < Nat.pow 16 width := by
  cases value with
  | ofNat n =>
    have hfits : (hexPadded width (.ofNat n)).length = width ↔ n < Nat.pow 16 width := by
      rw [hexPadded, length_fill, ← length_ofNat_le_iff (by decide) hw]
      omega
    have hnumerals : ∀ c ∈ hexPadded width (.ofNat n), IsNumeral c :=
      fun c => isNumeral_of_mem_fill (by decide) (by decide)
    rw [hfits]
    exact ⟨fun h => ⟨Int.natCast_nonneg n, Int.ofNat_lt.mpr h.1⟩,
      fun h => ⟨Int.ofNat_lt.mp h.2, hnumerals⟩⟩
  | negSucc n =>
    have hminus : ¬IsNumeral '-' := by decide
    refine ⟨fun h => absurd (h.2 '-' List.mem_cons_self) hminus, fun h => ?_⟩
    exact absurd h.1 (Int.not_le.mpr (Int.negSucc_lt_zero n))

/-- A number is told by a text of its width. -/
theorem hexValue?_of_hasWidth {width : Nat} (hw : 0 < width) {value : Int} {text : String}
    (h : HasWidth width value text) : hexValue? text = some value := by
  rw [(hasWidth_iff hw value text).mp h, hexValue?, String.toList_ofList]
  exact signedValue?_hexPadded width value

end TlsTranscript.Text
