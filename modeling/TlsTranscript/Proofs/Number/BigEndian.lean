import Mathlib.Data.Nat.Digits.Lemmas
import Mathlib.Data.Nat.Size
import TlsTranscript.Session.Operation

/-!
# Octets of numbers are the shortest

The octets of a number, read from their end, are its digits in base 256. So they read back to
the number, they have no zero in front but for the number zero, and no other octets that read
back to it are as short. Their count is that of the bits of the number, in groups of eight
and one group at least. Octets without a zero in front are written again from what they read
back to.
-/

namespace TlsTranscript

namespace BigEndian

/-- The numbers of octets, the least significant one first. -/
def places (octets : Bytes) : List Nat := octets.reverse.map UInt8.toNat

/-- The last octet is in the first place. -/
theorem places_concat (octets : Bytes) (last : UInt8) :
    places (octets ++ [last]) = last.toNat :: places octets := by
  simp [places]

/-- There is a place for each octet. -/
theorem length_places (octets : Bytes) : (places octets).length = octets.length := by
  simp [places]

/-- Places hold less than the base. -/
theorem lt_of_mem_places {octets : Bytes} {place : Nat} (h : place ∈ places octets) :
    place < 256 := by
  obtain ⟨octet, -, rfl⟩ := List.mem_map.mp h
  exact octet.toNat_lt

/-- Octets are told by their places. -/
theorem places_injective {first second : Bytes} (h : places first = places second) :
    first = second :=
  List.reverse_inj.mp (List.map_injective_iff.mpr (fun _ _ => UInt8.toNat_inj.mp) h)

/-- The last place of octets is that of the first one. -/
theorem getLast?_places (octets : Bytes) :
    (places octets).getLast? = octets.head?.map UInt8.toNat := by
  rw [places, List.getLast?_map, List.getLast?_reverse]

/-- Octets write the number that their places are the digits of. -/
theorem value_eq_ofDigits (octets : Bytes) : value octets = Nat.ofDigits 256 (places octets) := by
  rw [Nat.ofDigits_eq_foldr, places, List.foldr_map, List.foldr_reverse, value]
  simp only [Nat.cast_id, Nat.mul_comm, Nat.add_comm]

/-- The places of a number are its digits, as soon as there is room for all of them. -/
theorem places_upTo {count n : Nat} (hc : n < count) (hn : n ≠ 0) :
    places (upTo count n) = Nat.digits 256 n := by
  induction count generalizing n with
  | zero => omega
  | succ count ih =>
    by_cases hlt : n < 256
    · rw [upTo, if_pos hlt, Nat.digits_of_lt 256 n hn hlt]
      simp [places, Nat.mod_eq_of_lt hlt]
    · have hlast : (UInt8.ofNat (n % 256)).toNat = n % 256 := by simp
      rw [upTo, if_neg hlt, places_concat, ih (by omega) (by omega), hlast,
        Nat.digits_eq_cons_digits_div (by omega) hn]

/-- The places of a number are its digits; zero has a place of its own. -/
theorem places_ofNat {n : Nat} (hn : n ≠ 0) : places (ofNat n) = Nat.digits 256 n :=
  places_upTo (Nat.lt_succ_self n) hn

/-- The octets of a number read back to it. -/
theorem value_ofNat (n : Nat) : value (ofNat n) = n := by
  by_cases hn : n = 0
  · subst hn
    rfl
  · rw [value_eq_ofDigits, places_ofNat hn, Nat.ofDigits_digits]

/-- A number has an octet. -/
theorem ofNat_ne_nil (n : Nat) : ofNat n ≠ [] := by
  unfold ofNat upTo
  split <;> simp

/-- Only zero has a zero in front. -/
theorem eq_zero_of_head?_ofNat {n : Nat} (h : (ofNat n).head? = some 0) : n = 0 := by
  by_contra hn
  have hlast := getLast?_places (ofNat n)
  rw [h, places_ofNat hn,
    List.getLast?_eq_some_getLast (Nat.digits_ne_nil_iff_ne_zero.mpr hn)] at hlast
  exact Nat.getLast_digit_ne_zero 256 hn (Option.some.inj hlast)

/-- Octets without a zero in front are those of what they read back to. -/
theorem ofNat_value {octets : Bytes} (hne : octets ≠ []) (hz : octets.head? ≠ some 0) :
    ofNat (value octets) = octets := by
  have hplaces : Nat.digits 256 (value octets) = places octets := by
    rw [value_eq_ofDigits]
    refine Nat.digits_ofDigits 256 (by omega) _ (fun _ => lt_of_mem_places) fun hp hlast => hz ?_
    have hhead := getLast?_places octets
    rw [List.getLast?_eq_some_getLast hp, hlast] at hhead
    obtain ⟨octet, ho, hzero⟩ := Option.map_eq_some_iff.mp hhead.symm
    have hoctet : octet = 0 := UInt8.toNat_inj.mp hzero
    rw [ho, hoctet]
  have hvalue : value octets ≠ 0 := by
    intro h
    rw [h, Nat.digits_zero] at hplaces
    exact hne (List.length_eq_zero_iff.mp (by rw [← length_places, ← hplaces, List.length_nil]))
  exact places_injective (by rw [places_ofNat hvalue, hplaces])

/-- A number has at most so many octets exactly if it is below that power of 256. -/
theorem length_ofNat_le_iff {count n : Nat} (hc : 0 < count) :
    (ofNat n).length ≤ count ↔ n < 256 ^ count := by
  by_cases hn : n = 0
  · subst hn
    exact ⟨fun _ => Nat.pow_pos (by omega), fun _ => hc⟩
  · rw [← length_places, places_ofNat hn, Nat.digits_length_le_iff (by omega)]

/-- A number has as many octets as its bits take, and at least one. -/
theorem length_ofNat (n : Nat) : (ofNat n).length = max 1 ((n.size + 7) / 8) := by
  have hiff : ∀ {count}, 0 < count →
      ((ofNat n).length ≤ count ↔ max 1 ((n.size + 7) / 8) ≤ count) := by
    intro count hc
    have hpow : (256 : Nat) ^ count = 2 ^ (8 * count) := by rw [Nat.pow_mul]
    rw [length_ofNat_le_iff hc, hpow, ← Nat.size_le]
    omega
  have hpos := List.length_pos_iff.mpr (ofNat_ne_nil n)
  exact Nat.le_antisymm ((hiff (by omega)).mpr (Nat.le_refl _)) ((hiff hpos).mp (Nat.le_refl _))

/-- The shortest octets that read back to a number, one octet at least. -/
structure Shortest (octets : Bytes) (n : Nat) : Prop where
  /-- There is an octet. -/
  nonempty : octets ≠ []
  /-- The octets read back to the number. -/
  value_eq : value octets = n
  /-- Only zero has a zero in front. -/
  leading : octets.head? = some 0 → n = 0
  /-- No octets that read back to the number are fewer, and no others are as few. -/
  least : ∀ other, other ≠ [] → value other = n →
    octets.length ≤ other.length ∧ (other.length = octets.length → other = octets)
  /-- There are as many octets as the bits of the number take. -/
  width : octets.length = max 1 ((n.size + 7) / 8)

/-- The octets of a number are the shortest. -/
theorem shortest_ofNat (n : Nat) : Shortest (ofNat n) n where
  nonempty := ofNat_ne_nil n
  value_eq := value_ofNat n
  leading := eq_zero_of_head?_ofNat
  least := by
    intro other hne hv
    refine ⟨(length_ofNat_le_iff (List.length_pos_iff.mpr hne)).mpr ?_, fun hl => ?_⟩
    · rw [← hv, value_eq_ofDigits, ← length_places other]
      exact Nat.ofDigits_lt_base_pow_length (by omega) fun _ => lt_of_mem_places
    · refine places_injective (Nat.ofDigits_inj_of_len_eq (b := 256) (by omega) ?_
        (fun _ => lt_of_mem_places) (fun _ => lt_of_mem_places) ?_)
      · rw [length_places, length_places, hl]
      · rw [← value_eq_ofDigits, ← value_eq_ofDigits, hv, value_ofNat]
  width := length_ofNat n

/-- A greater number has no fewer octets. -/
theorem length_ofNat_mono {m n : Nat} (h : m ≤ n) : (ofNat m).length ≤ (ofNat n).length := by
  have hpos := List.length_pos_iff.mpr (ofNat_ne_nil n)
  exact (length_ofNat_le_iff hpos).mpr
    (Nat.lt_of_le_of_lt h ((length_ofNat_le_iff hpos).mp (Nat.le_refl _)))

end BigEndian

namespace Operation

/-- The octets of a number that is not negative. -/
theorem runIn_integerOctets (n : Nat) (w : World) :
    (integerOctets.run [.integer n]).runIn w = (.ok (.octets (BigEndian.ofNat n)), w) := rfl

/-- A negative number has no octets. -/
theorem runIn_integerOctets_error {value : Int} (h : value < 0) (w : World) :
    (integerOctets.run [.integer value]).runIn w =
      (.error (.overflow .negativeUnsigned), w) := by
  obtain ⟨n, rfl⟩ := Int.eq_negSucc_of_lt_zero h
  rfl

/-- An integer with octets is the number that these read back to, and they are its own. -/
theorem of_runIn_integerOctets {value : Int} {octets : Bytes} {w : World}
    (h : ((integerOctets.run [.integer value]).runIn w).1 = .ok (.octets octets)) :
    ∃ n : Nat, value = n ∧ octets = BigEndian.ofNat n := by
  cases value with
  | ofNat n => exact ⟨n, rfl, (Datum.octets.inj (Except.ok.inj h)).symm⟩
  | negSucc n => cases h

/-- Integers are written with the fewest octets. An integer is refused exactly if it is
negative, and any other one has the shortest octets that read back to it. No two integers
have the same octets, a greater integer has no fewer of them, and octets without a zero in
front, or with a zero alone, are those of the integer that they read back to. -/
theorem run_integerOctets_shortest :
    (∀ (value : Int) (w : World), (integerOctets.run [.integer value]).runIn w =
      (.error (.overflow .negativeUnsigned), w) ↔ value < 0) ∧
    (∀ value : Int, 0 ≤ value → ∃ octets, BigEndian.Shortest octets value.toNat ∧
      ∀ w, (integerOctets.run [.integer value]).runIn w = (.ok (.octets octets), w)) ∧
    (∀ (first second : Int) (octets : Bytes) (v w : World),
      ((integerOctets.run [.integer first]).runIn v).1 = .ok (.octets octets) →
      ((integerOctets.run [.integer second]).runIn w).1 = .ok (.octets octets) →
        first = second) ∧
    (∀ (first second : Int) (few many : Bytes) (v w : World), first ≤ second →
      ((integerOctets.run [.integer first]).runIn v).1 = .ok (.octets few) →
      ((integerOctets.run [.integer second]).runIn w).1 = .ok (.octets many) →
        few.length ≤ many.length) ∧
    ∀ octets : Bytes, octets = [0] ∨ octets ≠ [] ∧ octets.head? ≠ some 0 → ∀ w,
      (integerOctets.run [.integer (BigEndian.value octets)]).runIn w =
        (.ok (.octets octets), w) := by
  refine ⟨fun value w => ⟨fun h => ?_, fun h => runIn_integerOctets_error h w⟩,
    fun value h => ?_, fun first second octets v w hf hs => ?_,
    fun first second few many v w hle hf hs => ?_, fun octets h w => ?_⟩
  · by_contra hn
    obtain ⟨n, rfl⟩ := Int.eq_ofNat_of_zero_le (Int.not_lt.mp hn)
    rw [runIn_integerOctets] at h
    cases (Prod.mk.inj h).1
  · obtain ⟨n, rfl⟩ := Int.eq_ofNat_of_zero_le h
    exact ⟨_, BigEndian.shortest_ofNat n, runIn_integerOctets n⟩
  · obtain ⟨m, rfl, hm⟩ := of_runIn_integerOctets hf
    obtain ⟨n, rfl, hn⟩ := of_runIn_integerOctets hs
    rw [← BigEndian.value_ofNat m, ← hm, hn, BigEndian.value_ofNat]
  · obtain ⟨m, rfl, rfl⟩ := of_runIn_integerOctets hf
    obtain ⟨n, rfl, rfl⟩ := of_runIn_integerOctets hs
    exact BigEndian.length_ofNat_mono (Int.ofNat_le.mp hle)
  · rw [runIn_integerOctets]
    rcases h with rfl | ⟨hne, hz⟩
    · rfl
    · rw [BigEndian.ofNat_value hne hz]

/-- The greatest number of one octet, the least of two, and zero, which keeps its octet. -/
theorem run_integerOctets_shortest_bounds :
    (integerOctets.run [.integer (-1)]).runIn {} = (.error (.overflow .negativeUnsigned), {}) ∧
      (∀ octets ∈ [[0], [0xFF], [0x01, 0x00]], ∀ w,
        (integerOctets.run [.integer (BigEndian.value octets)]).runIn w =
          (.ok (.octets octets), w)) ∧
      ∃ octets, BigEndian.Shortest octets 0x10000 ∧ ∀ w,
        (integerOctets.run [.integer 0x10000]).runIn w = (.ok (.octets octets), w) := by
  obtain ⟨hrefused, hshortest, -, -, hback⟩ := run_integerOctets_shortest
  refine ⟨(hrefused (-1) {}).mpr (by decide), fun octets h => hback octets ?_,
    hshortest 0x10000 (by decide)⟩
  revert octets
  decide

end Operation

end TlsTranscript
