import TlsTranscript.Extension.Written
import TlsTranscript.Proofs.Text.Separation

/-!
# Numerals read back

The digits of a number read back to the number, with and without zeros in front,
and their count is told by the size of the number. From this follows that padded
and unpadded numerals of codes and decimal numerals are legible: padded numerals
in front of every rest, the others in front of everything but a further digit.
-/

namespace TlsTranscript.Text

/-- Digits and the lower-case letters that are used as digits. -/
def IsNumeral (c : Char) : Prop := (digitValue? c).isSome

instance : DecidablePred IsNumeral := fun _ => inferInstanceAs (Decidable (_ = true))

/-- Every digit has its value. -/
theorem digitValue?_digit {value : Nat} (h : value < 16) :
    digitValue? (digit value) = some value := by
  revert h value
  decide

namespace Digits

/-- Enough room for the digits of a number is as good as more room. -/
theorem upTo_eq_upTo {base : Nat} (hb : 2 ≤ base) {n first second : Nat} (hf : n < first)
    (hs : n < second) : upTo base first n = upTo base second n := by
  induction first generalizing n second with
  | zero => omega
  | succ first ih =>
    cases second with
    | zero => omega
    | succ second =>
      by_cases hn : n < base
      · simp only [upTo, if_pos hn]
      · have hd : n / base < n := Nat.div_lt_self (by omega) hb
        simp only [upTo, if_neg hn]
        rw [ih (by omega) (show n / base < second by omega)]

/-- A number below the base is one digit. -/
theorem ofNat_of_lt {base n : Nat} (h : n < base) : ofNat base n = [digit n] := by
  simp only [ofNat, upTo, if_pos h]

/-- A number from the base on is the digits of its quotient and a last digit. -/
theorem ofNat_of_le {base n : Nat} (hb : 2 ≤ base) (h : base ≤ n) :
    ofNat base n = ofNat base (n / base) ++ [digit (n % base)] := by
  have hd : n / base < n := Nat.div_lt_self (by omega) hb
  have hn : ¬n < base := by omega
  unfold ofNat
  rw [upTo, if_neg hn, upTo_eq_upTo hb hd (Nat.lt_succ_self _)]

/-- What is read before the digits of a number that stand in front of others is
the number. -/
theorem valueFrom?_ofNat {base : Nat} (hb : 2 ≤ base) (hb' : base ≤ 16) (n : Nat)
    (more : List Char) :
    valueFrom? base 0 (ofNat base n ++ more) = valueFrom? base n more := by
  induction n using Nat.strongRecOn generalizing more with
  | ind n ih =>
    by_cases hn : n < base
    · rw [ofNat_of_lt hn]
      simp only [List.cons_append, List.nil_append, valueFrom?,
        digitValue?_digit (show n < 16 by omega), if_pos hn, Nat.zero_mul, Nat.zero_add]
    · have hm : n % base < base := Nat.mod_lt _ (by omega)
      rw [ofNat_of_le hb (by omega), List.append_assoc,
        ih (n / base) (Nat.div_lt_self (by omega) hb)]
      simp only [List.cons_append, List.nil_append, valueFrom?,
        digitValue?_digit (show n % base < 16 by omega), if_pos hm]
      rw [Nat.div_add_mod']

/-- Zeros in front of digits add nothing. -/
theorem valueFrom?_zeros {base : Nat} (hb : 2 ≤ base) (count : Nat) (digits : List Char) :
    valueFrom? base 0 (List.replicate count '0' ++ digits) = valueFrom? base 0 digits := by
  induction count with
  | zero => simp
  | succ count ih =>
    have hz : digitValue? '0' = some 0 := by decide
    simp only [List.replicate_succ, List.cons_append, valueFrom?, hz,
      if_pos (show 0 < base by omega), Nat.zero_mul, Nat.zero_add, ih]

/-- A number has a digit. -/
theorem ofNat_ne_nil (base n : Nat) : ofNat base n ≠ [] := by
  unfold ofNat upTo
  split <;> simp

/-- A filled number reads back to the number. -/
theorem value?_fill {base : Nat} (hb : 2 ≤ base) (hb' : base ≤ 16) (width n : Nat) :
    value? base (fill width (ofNat base n)) = some n := by
  have hv : valueFrom? base 0 (fill width (ofNat base n)) = some n := by
    have h := valueFrom?_ofNat hb hb' n []
    rw [List.append_nil] at h
    rw [fill, valueFrom?_zeros hb, h, valueFrom?]
  cases hd : fill width (ofNat base n) with
  | nil =>
    have hne := ofNat_ne_nil base n
    simp only [fill, List.append_eq_nil_iff] at hd
    exact absurd hd.2 hne
  | cons c rest =>
    rw [hd] at hv
    exact hv

/-- No two numbers have the same filled digits. -/
theorem fill_injective {base : Nat} (hb : 2 ≤ base) (hb' : base ≤ 16) (width : Nat) {m n : Nat}
    (h : fill width (ofNat base m) = fill width (ofNat base n)) : m = n := by
  have hm := value?_fill hb hb' width m
  rw [h, value?_fill hb hb' width n] at hm
  exact (Option.some.inj hm).symm

/-- No two numbers have the same digits. -/
theorem ofNat_injective {base : Nat} (hb : 2 ≤ base) (hb' : base ≤ 16) {m n : Nat}
    (h : ofNat base m = ofNat base n) : m = n :=
  fill_injective hb hb' 0 (by rw [h])

/-- Digits are numerals. -/
theorem isNumeral_of_mem_ofNat {base : Nat} (hb : 2 ≤ base) (hb' : base ≤ 16) {n : Nat}
    {c : Char} (hc : c ∈ ofNat base n) : IsNumeral c := by
  have hdigit : ∀ value, value < 16 → IsNumeral (digit value) := by
    intro value hv
    simp [IsNumeral, digitValue?_digit hv]
  induction n using Nat.strongRecOn with
  | ind n ih =>
    by_cases hn : n < base
    · rw [ofNat_of_lt hn, List.mem_singleton] at hc
      rw [hc]
      exact hdigit n (by omega)
    · have hm : n % base < base := Nat.mod_lt _ (by omega)
      rw [ofNat_of_le hb (by omega), List.mem_append, List.mem_singleton] at hc
      rcases hc with hc | hc
      · exact ih (n / base) (Nat.div_lt_self (by omega) hb) hc
      · rw [hc]
        exact hdigit (n % base) (by omega)

/-- Filled digits are numerals. -/
theorem isNumeral_of_mem_fill {base : Nat} (hb : 2 ≤ base) (hb' : base ≤ 16) {width n : Nat}
    {c : Char} (hc : c ∈ fill width (ofNat base n)) : IsNumeral c := by
  rcases List.mem_append.mp hc with hz | hd
  · rw [List.eq_of_mem_replicate hz]
    decide
  · exact isNumeral_of_mem_ofNat hb hb' hd

/-- A number has at most so many digits exactly if it is below that power of the
base. -/
theorem length_ofNat_le_iff {base : Nat} (hb : 2 ≤ base) {count n : Nat} (hc : 0 < count) :
    (ofNat base n).length ≤ count ↔ n < Nat.pow base count := by
  induction count generalizing n with
  | zero => omega
  | succ count ih =>
    have hpow : Nat.pow base (count + 1) = Nat.pow base count * base := rfl
    have hpos : 0 < Nat.pow base count := Nat.pow_pos (by omega)
    by_cases hn : n < base
    · have hlt : n < Nat.pow base count * base :=
        Nat.lt_of_lt_of_le hn (Nat.le_mul_of_pos_left base hpos)
      rw [ofNat_of_lt hn, hpow, List.length_singleton]
      exact ⟨fun _ => hlt, fun _ => hc⟩
    · rw [ofNat_of_le hb (by omega), List.length_append, List.length_singleton, hpow]
      cases count with
      | zero =>
        have hlen := List.length_pos_iff.mpr (ofNat_ne_nil base (n / base))
        simp only [Nat.pow_eq, Nat.pow_zero, Nat.one_mul]
        omega
      | succ count =>
        rw [← Nat.div_lt_iff_lt_mul (show 0 < base by omega), ← ih (Nat.succ_pos _)]
        omega

/-- A fill brings digits to its width and leaves longer ones as they are. -/
theorem length_fill (width : Nat) (digits : List Char) :
    (fill width digits).length = max width digits.length := by
  simp only [fill, List.length_append, List.length_replicate]
  omega

/-- The digits of a number that fits a fill are as many as the fill is wide. -/
theorem length_fill_ofNat {base width n : Nat} (hb : 2 ≤ base) (hw : 0 < width)
    (hn : n < Nat.pow base width) : (fill width (ofNat base n)).length = width := by
  rw [length_fill]
  exact Nat.max_eq_left ((length_ofNat_le_iff hb hw).mpr hn)

end Digits

open Digits

/-- Digits without a fill are legible in front of everything but a digit. -/
theorem legible_ofNat (base : Nat) (hb : 2 ≤ base) (hb' : base ≤ 16) :
    Legible (fun c => ¬IsNumeral c) (ofNat base) :=
  .of_apart (fun _ _ => apart_of_class (fun _ => isNumeral_of_mem_ofNat hb hb')
    (fun _ => isNumeral_of_mem_ofNat hb hb')) (fun _ _ => ofNat_injective hb hb')

/-- A decimal numeral is legible in front of everything but a digit. -/
theorem legible_decimal : Legible (fun c => ¬IsNumeral c) fun n : Nat => (decimal n).toList := by
  have hd : ∀ n : Nat, (decimal n).toList = ofNat 10 n := fun n => String.toList_ofList
  simpa only [hd] using legible_ofNat 10 (by decide) (by decide)

/-- An unpadded numeral in base sixteen is legible in front of everything but a
digit. -/
theorem legible_hexUnpadded :
    Legible (fun c => ¬IsNumeral c) fun n : Nat => (hexUnpadded n).toList := by
  have hd : ∀ n : Nat, (hexUnpadded n).toList = ['0', 'x'] ++ ofNat 16 n := fun n => by
    simp [hexUnpadded, hexPadded, fill]
  simpa only [hd] using (legible_ofNat 16 (by decide) (by decide)).prepend ['0', 'x']

/-- Padded digits of numbers that fit the pad are legible in front of every rest. -/
theorem legible_hexPadded {width : Nat} (hw : 0 < width) {α : Type} (number : α → Nat)
    (hfit : ∀ a, number a < Nat.pow 16 width) (hinj : ∀ a b, number a = number b → a = b) :
    Legible (fun _ => True) fun a => hexPadded width (.ofNat (number a)) := by
  have hlen : ∀ a, (hexPadded width (.ofNat (number a))).length = width := fun a =>
    length_fill_ofNat (by decide) hw (hfit a)
  exact .of_apart (fun a b => apart_of_length ((hlen a).trans (hlen b).symm))
    (fun a b h => hinj a b (fill_injective (by decide) (by decide) width h))

/-- The padded digits of octets are legible in front of every rest. -/
theorem legible_hexPadded_octet :
    Legible (fun _ => True) fun value : UInt8 => hexPadded 2 (UInt8.code value) :=
  legible_hexPadded (by decide) UInt8.toNat (fun value => UInt8.toNat_lt value)
    (fun _ _ => UInt8.toNat_inj.mp)

/-- The padded numeral of an octet is legible in front of every rest. -/
theorem legible_hex8 :
    Legible (fun _ => True) fun value : UInt8 => (hex8 (UInt8.code value)).toList := by
  simpa only [hex8, String.toList_ofList, List.cons_append, List.nil_append] using
    legible_hexPadded_octet.prepend ['0', 'x']

/-- The padded numeral of two octets is legible in front of every rest. -/
theorem legible_hex16 :
    Legible (fun _ => True) fun value : UInt16 => (hex16 (UInt16.code value)).toList := by
  have hp : Legible (fun _ => True) fun value : UInt16 => hexPadded 4 (UInt16.code value) :=
    legible_hexPadded (by decide) UInt16.toNat (fun value => UInt16.toNat_lt value)
      (fun _ _ => UInt16.toNat_inj.mp)
  simpa only [hex16, String.toList_ofList, List.cons_append, List.nil_append] using
    hp.prepend ['0', 'x']

end TlsTranscript.Text
