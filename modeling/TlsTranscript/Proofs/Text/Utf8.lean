import TlsTranscript.Text.Utf8

/-!
# UTF-8 read back

Octets of a character are read back as the character, whatever follows them, and
the octets of a character that is cut off are recognized as unfinished. A text is
therefore read back from its octets, at once and block by block.
-/

namespace TlsTranscript.Utf8

/-- A number below 256 is the value of its octet. -/
theorem toNat_ofNat_of_lt {n : Nat} (h : n < 256) : (UInt8.ofNat n).toNat = n := by
  rw [UInt8.toNat_ofNat']
  exact Nat.mod_eq_of_lt h

/-- A character has a number outside the surrogates. -/
theorem toNat_char_bounds (c : Char) :
    c.toNat < 0x110000 ∧ (c.toNat < 0xD800 ∨ 0xDFFF < c.toNat) := by
  rcases c.valid with h | h
  · have hn : c.toNat < 0xD800 := h
    omega
  · have hn : 0xDFFF < c.toNat ∧ c.toNat < 0x110000 := h
    omega

/-- Which numbers continue a character. -/
theorem isTail_iff (b : UInt8) : isTail b = true ↔ 0x80 ≤ b.toNat ∧ b.toNat ≤ 0xBF := by
  simp [isTail, UInt8.le_iff_toNat_le]

/-- The last octets of characters continue them. -/
theorem isTail_ofNat (n : Nat) : isTail (UInt8.ofNat (0x80 + n % 0x40)) = true := by
  rw [isTail_iff, toNat_ofNat_of_lt (by omega)]
  omega

/-- Which numbers may follow the first octet of a long character. -/
theorem isSecond_iff (a b : UInt8) :
    isSecond a b = true ↔
      (if a.toNat = 0xE0 then 0xA0 else if a.toNat = 0xF0 then 0x90 else 0x80) ≤ b.toNat ∧
        b.toNat ≤ (if a.toNat = 0xED then 0x9F else if a.toNat = 0xF4 then 0x8F else 0xBF) := by
  have heq : ∀ n : UInt8, a = n ↔ a.toNat = n.toNat := fun n => UInt8.toNat_inj.symm
  simp only [isSecond, Bool.and_eq_true, decide_eq_true_eq, UInt8.le_iff_toNat_le, heq,
    apply_ite UInt8.toNat]
  rfl

/-- An octet that is no less than another. -/
theorem not_lt_of_toNat_le {a b : UInt8} (h : b.toNat ≤ a.toNat) : ¬a < b := by
  rw [UInt8.lt_iff_toNat_lt]
  omega

section Fronts

variable {a b c d : UInt8} (rest : Bytes)

/-- A small first octet is a character. -/
theorem front_of_lt (h : a.toNat < 0x80) : front a rest = .character (Char.ofNat a.toNat) 1 := by
  unfold front
  rw [if_pos (UInt8.lt_iff_toNat_lt.mpr h)]

/-- The first of two octets is unfinished alone. -/
theorem front_two_nil (hl : 0xC2 ≤ a.toNat) (hu : a.toNat < 0xE0) : front a [] = .cutShort := by
  have hs : ¬a < 0x80 := not_lt_of_toNat_le (Nat.le_trans (by decide) hl)
  have ht : ¬a < 0xC2 := not_lt_of_toNat_le hl
  have he : a < 0xE0 := UInt8.lt_iff_toNat_lt.mpr hu
  simp only [front, hs, ht, he, if_false, if_true]

/-- Two octets are a character. -/
theorem front_two (hl : 0xC2 ≤ a.toNat) (hu : a.toNat < 0xE0) (hb : isTail b = true) :
    front a (b :: rest) = .character (pair a b) 2 := by
  have hs : ¬a < 0x80 := not_lt_of_toNat_le (Nat.le_trans (by decide) hl)
  have ht : ¬a < 0xC2 := not_lt_of_toNat_le hl
  have he : a < 0xE0 := UInt8.lt_iff_toNat_lt.mpr hu
  simp only [front, hs, ht, he, hb, if_false, if_true]

/-- What three octets come to is told by the octets behind the first. -/
theorem front_three (hl : 0xE0 ≤ a.toNat) (hu : a.toNat < 0xF0) (hb : isSecond a b = true)
    (hc : isTail c = true) :
    front a [] = .cutShort ∧ front a [b] = .cutShort ∧
      front a (b :: c :: rest) = .character (triple a b c) 3 := by
  have hs : ¬a < 0x80 := not_lt_of_toNat_le (Nat.le_trans (by decide) hl)
  have ht : ¬a < 0xC2 := not_lt_of_toNat_le (Nat.le_trans (by decide) hl)
  have he : ¬a < 0xE0 := not_lt_of_toNat_le hl
  have hf : a < 0xF0 := UInt8.lt_iff_toNat_lt.mpr hu
  simp only [front, hs, ht, he, hf, hb, hc, Bool.not_true, Bool.false_eq_true, if_false, if_true,
    and_self]

/-- What four octets come to is told by the octets behind the first. -/
theorem front_four (hl : 0xF0 ≤ a.toNat) (hu : a.toNat < 0xF5) (hb : isSecond a b = true)
    (hc : isTail c = true) (hd : isTail d = true) :
    front a [] = .cutShort ∧ front a [b] = .cutShort ∧ front a [b, c] = .cutShort ∧
      front a (b :: c :: d :: rest) = .character (quadruple a b c d) 4 := by
  have hs : ¬a < 0x80 := not_lt_of_toNat_le (Nat.le_trans (by decide) hl)
  have ht : ¬a < 0xC2 := not_lt_of_toNat_le (Nat.le_trans (by decide) hl)
  have he : ¬a < 0xE0 := not_lt_of_toNat_le (Nat.le_trans (by decide) hl)
  have hf : ¬a < 0xF0 := not_lt_of_toNat_le hl
  have hg : a < 0xF5 := UInt8.lt_iff_toNat_lt.mpr hu
  simp only [front, hs, ht, he, hf, hg, hb, hc, hd, Bool.not_true, Bool.false_eq_true, if_false,
    if_true, and_self]

end Fronts

/-- Octets that begin with a character are read as it, and octets that end inside
it are recognized as unfinished. -/
structure Fronts (c : Char) (a : UInt8) (behind : Bytes) : Prop where
  /-- The character is read in front of whatever follows. -/
  whole : ∀ rest, front a (behind ++ rest) = .character c (behind.length + 1)
  /-- What is cut off is unfinished. -/
  cut : ∀ kept lost, behind = kept ++ lost → lost ≠ [] → front a kept = .cutShort

/-- A character of one octet. -/
theorem Fronts.of_one {a : UInt8} (h : a.toNat < 0x80) : Fronts (Char.ofNat a.toNat) a [] where
  whole rest := front_of_lt rest h
  cut _ _ he hne := absurd (List.append_eq_nil_iff.mp he.symm).2 hne

/-- A character of two octets. -/
theorem Fronts.of_two {a b : UInt8} (hl : 0xC2 ≤ a.toNat) (hu : a.toNat < 0xE0)
    (hb : isTail b = true) : Fronts (pair a b) a [b] where
  whole rest := front_two rest hl hu hb
  cut kept lost he hne := by
    cases kept with
    | nil => exact front_two_nil hl hu
    | cons x kept =>
      simp only [List.cons_append, List.cons.injEq] at he
      exact absurd (List.append_eq_nil_iff.mp he.2.symm).2 hne

/-- A character of three octets. -/
theorem Fronts.of_three {a b c : UInt8} (hl : 0xE0 ≤ a.toNat) (hu : a.toNat < 0xF0)
    (hb : isSecond a b = true) (hc : isTail c = true) : Fronts (triple a b c) a [b, c] where
  whole rest := (front_three rest hl hu hb hc).2.2
  cut kept lost he hne := by
    obtain ⟨h₀, h₁, -⟩ := front_three [] hl hu hb hc
    match kept with
    | [] => exact h₀
    | [x] =>
      simp only [List.cons_append, List.cons.injEq] at he
      rw [← he.1]
      exact h₁
    | x :: y :: kept =>
      simp only [List.cons_append, List.cons.injEq] at he
      exact absurd (List.append_eq_nil_iff.mp he.2.2.symm).2 hne

/-- A character of four octets. -/
theorem Fronts.of_four {a b c d : UInt8} (hl : 0xF0 ≤ a.toNat) (hu : a.toNat < 0xF5)
    (hb : isSecond a b = true) (hc : isTail c = true) (hd : isTail d = true) :
    Fronts (quadruple a b c d) a [b, c, d] where
  whole rest := (front_four rest hl hu hb hc hd).2.2.2
  cut kept lost he hne := by
    obtain ⟨h₀, h₁, h₂, -⟩ := front_four [] hl hu hb hc hd
    match kept with
    | [] => exact h₀
    | [x] =>
      simp only [List.cons_append, List.cons.injEq] at he
      rw [← he.1]
      exact h₁
    | [x, y] =>
      simp only [List.cons_append, List.cons.injEq] at he
      rw [← he.1, ← he.2.1]
      exact h₂
    | x :: y :: z :: kept =>
      simp only [List.cons_append, List.cons.injEq] at he
      exact absurd (List.append_eq_nil_iff.mp he.2.2.2.symm).2 hne

/-- The octets of a character begin it and do not end before it does. -/
theorem encodeChar_fronts (c : Char) :
    ∃ a behind, encodeChar c = a :: behind ∧ Fronts c a behind := by
  obtain ⟨hmax, hsurrogate⟩ := toNat_char_bounds c
  have hlast := isTail_ofNat c.toNat
  have hl : (UInt8.ofNat (0x80 + c.toNat % 0x40)).toNat = 0x80 + c.toNat % 0x40 :=
    toNat_ofNat_of_lt (by omega)
  have hmiddle := isTail_ofNat (c.toNat / 0x40)
  have hm : (UInt8.ofNat (0x80 + c.toNat / 0x40 % 0x40)).toNat = 0x80 + c.toNat / 0x40 % 0x40 :=
    toNat_ofNat_of_lt (by omega)
  by_cases h₁ : c.toNat < 0x80
  · have ha : (UInt8.ofNat c.toNat).toNat = c.toNat := toNat_ofNat_of_lt (by omega)
    have hc : Char.ofNat (UInt8.ofNat c.toNat).toNat = c := by rw [ha, c.ofNat_toNat]
    have hf := Fronts.of_one (a := UInt8.ofNat c.toNat) (by omega)
    rw [hc] at hf
    exact ⟨_, _, by simp only [encodeChar, h₁, if_true], hf⟩
  · by_cases h₂ : c.toNat < 0x800
    · have ha : (UInt8.ofNat (0xC0 + c.toNat / 0x40)).toNat = 0xC0 + c.toNat / 0x40 :=
        toNat_ofNat_of_lt (by omega)
      have hc : pair (UInt8.ofNat (0xC0 + c.toNat / 0x40))
          (UInt8.ofNat (0x80 + c.toNat % 0x40)) = c := by
        have hn : (0xC0 + c.toNat / 0x40 - 0xC0) * 0x40 + (0x80 + c.toNat % 0x40 - 0x80) =
          c.toNat := by omega
        rw [pair, ha, hl, hn, c.ofNat_toNat]
      have hf := Fronts.of_two (a := UInt8.ofNat (0xC0 + c.toNat / 0x40)) (by omega) (by omega)
        hlast
      rw [hc] at hf
      exact ⟨_, _, by simp only [encodeChar, h₁, h₂, if_false, if_true], hf⟩
    · by_cases h₃ : c.toNat < 0x10000
      · have ha : (UInt8.ofNat (0xE0 + c.toNat / 0x1000)).toNat = 0xE0 + c.toNat / 0x1000 :=
          toNat_ofNat_of_lt (by omega)
        have hs : isSecond (UInt8.ofNat (0xE0 + c.toNat / 0x1000))
            (UInt8.ofNat (0x80 + c.toNat / 0x40 % 0x40)) = true := by
          rw [isSecond_iff, ha, hm]
          constructor <;> (repeat' split) <;> omega
        have hc : triple (UInt8.ofNat (0xE0 + c.toNat / 0x1000))
            (UInt8.ofNat (0x80 + c.toNat / 0x40 % 0x40))
            (UInt8.ofNat (0x80 + c.toNat % 0x40)) = c := by
          have hn : (0xE0 + c.toNat / 0x1000 - 0xE0) * 0x1000 +
            (0x80 + c.toNat / 0x40 % 0x40 - 0x80) * 0x40 + (0x80 + c.toNat % 0x40 - 0x80) =
              c.toNat := by omega
          rw [triple, ha, hm, hl, hn, c.ofNat_toNat]
        have hf := Fronts.of_three (a := UInt8.ofNat (0xE0 + c.toNat / 0x1000)) (by omega)
          (by omega) hs hlast
        rw [hc] at hf
        exact ⟨_, _, by simp only [encodeChar, h₁, h₂, h₃, if_false, if_true], hf⟩
      · have ha : (UInt8.ofNat (0xF0 + c.toNat / 0x40000)).toNat = 0xF0 + c.toNat / 0x40000 :=
          toNat_ofNat_of_lt (by omega)
        have hb : (UInt8.ofNat (0x80 + c.toNat / 0x1000 % 0x40)).toNat =
          0x80 + c.toNat / 0x1000 % 0x40 := toNat_ofNat_of_lt (by omega)
        have hs : isSecond (UInt8.ofNat (0xF0 + c.toNat / 0x40000))
            (UInt8.ofNat (0x80 + c.toNat / 0x1000 % 0x40)) = true := by
          rw [isSecond_iff, ha, hb]
          constructor <;> (repeat' split) <;> omega
        have hc : quadruple (UInt8.ofNat (0xF0 + c.toNat / 0x40000))
            (UInt8.ofNat (0x80 + c.toNat / 0x1000 % 0x40))
            (UInt8.ofNat (0x80 + c.toNat / 0x40 % 0x40))
            (UInt8.ofNat (0x80 + c.toNat % 0x40)) = c := by
          have hn : (0xF0 + c.toNat / 0x40000 - 0xF0) * 0x40000 +
            (0x80 + c.toNat / 0x1000 % 0x40 - 0x80) * 0x1000 +
            (0x80 + c.toNat / 0x40 % 0x40 - 0x80) * 0x40 + (0x80 + c.toNat % 0x40 - 0x80) =
              c.toNat := by omega
          rw [quadruple, ha, hb, hm, hl, hn, c.ofNat_toNat]
        have hf := Fronts.of_four (a := UInt8.ofNat (0xF0 + c.toNat / 0x40000)) (by omega)
          (by omega) hs hmiddle hlast
        rw [hc] at hf
        exact ⟨_, _, by simp only [encodeChar, h₁, h₂, h₃, if_false], hf⟩

/-- A small octet stands for itself alone. -/
theorem toNat_of_mem_encodeChar {c : Char} {octet : UInt8} (h : octet ∈ encodeChar c)
    (hs : octet.toNat < 0x80) : c.toNat = octet.toNat := by
  have hmax := (toNat_char_bounds c).1
  have hn : ∀ {n : Nat}, octet = UInt8.ofNat n → n < 256 → octet.toNat = n := fun he hn => by
    rw [he, toNat_ofNat_of_lt hn]
  unfold encodeChar at h
  dsimp only at h
  split at h
  · exact (hn (List.mem_singleton.mp h) (by omega)).symm
  · -- All octets of a longer character have a value that is no less than 128.
    split at h
    · simp only [List.mem_cons, List.not_mem_nil, or_false] at h
      rcases h with h | h <;> have := hn h (by omega) <;> omega
    · split at h
      · simp only [List.mem_cons, List.not_mem_nil, or_false] at h
        rcases h with h | h | h <;> have := hn h (by omega) <;> omega
      · simp only [List.mem_cons, List.not_mem_nil, or_false] at h
        rcases h with h | h | h | h <;> have := hn h (by omega) <;> omega

/-- A small character is the only one with its octet. -/
theorem eq_of_mem_encodeChar {c d : Char} (hd : d.toNat < 0x80)
    (h : UInt8.ofNat d.toNat ∈ encodeChar c) : c = d := by
  have hn : (UInt8.ofNat d.toNat).toNat = d.toNat := toNat_ofNat_of_lt (by omega)
  have hc := toNat_of_mem_encodeChar h (by omega)
  exact Char.toNat_inj.mp (hc.trans hn)

/-- Octets that belong to the character before are passed over. -/
theorem decodeFront_held (index : Nat) (held rest : Bytes) :
    decodeFront index held.length (held ++ rest) =
      decodeFront (index + held.length) 0 rest := by
  induction held generalizing index with
  | nil => rfl
  | cons a held ih =>
    rw [List.length_cons, List.cons_append, decodeFront, ih]
    congr 1
    omega

/-- A character at the front is read, and what follows it is read behind it. -/
theorem decodeFront_encodeChar (index : Nat) (c : Char) (rest : Bytes) {text : List Char}
    {unfinished : Bytes}
    (h : decodeFront (index + (encodeChar c).length) 0 rest = .ok (text, unfinished)) :
    decodeFront index 0 (encodeChar c ++ rest) = .ok (c :: text, unfinished) := by
  obtain ⟨a, behind, he, hf⟩ := encodeChar_fronts c
  have hlen : index + (encodeChar c).length = index + 1 + behind.length := by
    rw [he, List.length_cons]
    omega
  rw [hlen] at h
  rw [he, List.cons_append, decodeFront, hf.whole rest]
  simp only [Nat.add_sub_cancel, decodeFront_held, h]

/-- Octets that begin the octets of a text are read as far as they hold whole
characters, and what they leave unfinished is finished by the octets behind them. -/
theorem decodeFront_prefix (text : List Char) (kept lost : Bytes)
    (h : text.flatMap encodeChar = kept ++ lost) (index : Nat) :
    ∃ read unfinished left, text = read ++ left ∧
      decodeFront index 0 kept = .ok (read, unfinished) ∧
        unfinished ++ lost = left.flatMap encodeChar ∧ (lost = [] → unfinished = []) := by
  induction text generalizing kept index with
  | nil =>
    obtain ⟨rfl, rfl⟩ := List.append_eq_nil_iff.mp h.symm
    exact ⟨[], [], [], rfl, rfl, rfl, fun _ => rfl⟩
  | cons c text ih =>
    have hpast : ∀ more, kept = encodeChar c ++ more → text.flatMap encodeChar = more ++ lost →
        ∃ read unfinished left, c :: text = read ++ left ∧
          decodeFront index 0 kept = .ok (read, unfinished) ∧
            unfinished ++ lost = left.flatMap encodeChar ∧ (lost = [] → unfinished = []) := by
      intro more hk ht
      obtain ⟨read, unfinished, left, hs, hd, hu, hn⟩ :=
        ih more ht (index + (encodeChar c).length)
      refine ⟨c :: read, unfinished, left, by rw [hs, List.cons_append], ?_, hu, hn⟩
      rw [hk]
      exact decodeFront_encodeChar index c more hd
    rw [List.flatMap_cons] at h
    rcases List.append_eq_append_iff.mp h with ⟨more, hk, ht⟩ | ⟨more, hk, ht⟩
    · exact hpast more hk ht
    · by_cases hm : more = []
      · rw [hm, List.append_nil] at hk
        rw [hm, List.nil_append] at ht
        exact hpast [] (by rw [hk, List.append_nil]) (by rw [ht, List.nil_append])
      · have hu : kept ++ lost = (c :: text).flatMap encodeChar := by
          rw [List.flatMap_cons, ht, hk, List.append_assoc]
        have hn : lost ≠ [] := by
          rw [ht]
          exact List.append_ne_nil_of_left_ne_nil hm _
        refine ⟨[], kept, c :: text, rfl, ?_, hu, fun hl => absurd hl hn⟩
        cases kept with
        | nil => rfl
        | cons k kept =>
          obtain ⟨a, behind, he, hf⟩ := encodeChar_fronts c
          rw [he, List.cons_append, List.cons.injEq] at hk
          rw [decodeFront, ← hk.1, hf.cut kept more hk.2 hm]

/-- Only the empty text has no octets. -/
theorem eq_nil_of_flatMap_encodeChar {text : List Char} (h : text.flatMap encodeChar = []) :
    text = [] := by
  cases text with
  | nil => rfl
  | cons c text =>
    obtain ⟨a, behind, he, -⟩ := encodeChar_fronts c
    simp [he] at h

/-- A text is read back from its octets. -/
theorem decode_encode (text : String) : decode (encode text) = .ok text := by
  obtain ⟨read, unfinished, left, hs, hd, hu, hn⟩ :=
    decodeFront_prefix text.toList (encode text) [] (List.append_nil _).symm 0
  obtain rfl := hn rfl
  rw [eq_nil_of_flatMap_encodeChar hu.symm, List.append_nil] at hs
  simp only [decode, hd, atEnd, ← hs, String.ofList_toList]

/-- Different texts have different octets. -/
theorem encode_injective {first second : String} (h : encode first = encode second) :
    first = second := by
  have hd := decode_encode first
  rw [h, decode_encode] at hd
  exact (Except.ok.inj hd).symm

/-- Blocks put together again are the whole. -/
theorem flatten_blocksUpTo {α : Type} {size : Nat} (hs : 0 < size) (count : Nat)
    (items : List α) (hc : items.length ≤ count) :
    (blocksUpTo size count items).flatten = items := by
  induction count generalizing items with
  | zero =>
    rw [List.length_eq_zero_iff.mp (Nat.le_zero.mp hc)]
    rfl
  | succ count ih =>
    cases items with
    | nil => rfl
    | cons item items =>
      have hd : ((item :: items).drop size).length ≤ count := by
        rw [List.length_drop]
        rw [List.length_cons] at hc ⊢
        omega
      have hb : blocksUpTo size (count + 1) (item :: items) = (item :: items).take size ::
        blocksUpTo size count ((item :: items).drop size) := rfl
      rw [hb, List.flatten_cons, ih _ hd, List.take_append_drop]

/-- A text whose octets come in blocks is read back whatever the blocks cut apart:
what a block leaves unfinished begins the octets that are still to come. -/
theorem decodeBlocks_of_flatten (blocks : List Bytes) (carried : Bytes) (text : List Char)
    (h : text.flatMap encodeChar = carried ++ blocks.flatten)
    (hn : blocks = [] → carried = []) : decodeBlocks carried blocks = .ok text := by
  induction blocks generalizing carried text with
  | nil =>
    rw [hn rfl] at h ⊢
    rw [eq_nil_of_flatMap_encodeChar h]
    rfl
  | cons block blocks ih =>
    rw [List.flatten_cons, ← List.append_assoc] at h
    obtain ⟨read, unfinished, left, hs, hd, hu, hl⟩ :=
      decodeFront_prefix text (carried ++ block) blocks.flatten h 0
    have hrest : decodeBlocks unfinished blocks = .ok left :=
      ih unfinished left hu.symm fun hb => hl (by rw [hb, List.flatten_nil])
    simp only [decodeBlocks, decodeBlock, hd, hrest, hs]

/-- A text is read back from the stream of its octets. -/
theorem decodeStream_encode (text : String) : decodeStream (encode text) = .ok text := by
  have hf : (blocksOf 8192 (encode text)).flatten = encode text :=
    flatten_blocksUpTo (by decide) _ _ (Nat.le_refl _)
  have hb : decodeBlocks [] (blocksOf 8192 (encode text)) = .ok text.toList :=
    decodeBlocks_of_flatten _ [] text.toList (by rw [hf, List.nil_append]; rfl) fun _ => rfl
  simp only [decodeStream, hb, String.ofList_toList]

end TlsTranscript.Utf8
