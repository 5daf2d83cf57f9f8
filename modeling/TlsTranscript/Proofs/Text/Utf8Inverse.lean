import TlsTranscript.Proofs.Text.Utf8

/-!
# UTF-8 written again

Octets that are read as a text are the octets of this text and of no other. So the octets
that can be read are exactly those that some text is written to, in the standard encoding of
texts. Overlong forms, surrogates, values that are too large, stray octets and characters that
are cut short are all among the octets that no text is written to.
-/

namespace TlsTranscript.Utf8

/-- A number that is none of a surrogate is the number of its character. -/
theorem toNat_ofNat_char {n : Nat} (h : n < 0xD800 ∨ 0xDFFF < n ∧ n < 0x110000) :
    (Char.ofNat n).toNat = n := by
  rw [Char.ofNat, dif_pos h]
  rfl

/-- An octet is told by its number. -/
theorem ofNat_eq_of_toNat {a : UInt8} {n : Nat} (h : n = a.toNat) : UInt8.ofNat n = a := by
  rw [h, UInt8.ofNat_toNat]

section Written

variable {a b c d : UInt8}

/-- Which second octets follow a first one: all that continue characters, but for those that
would make an overlong form, a surrogate or a value that is too large. -/
theorem second_bounds (h : isSecond a b = true) :
    0x80 ≤ b.toNat ∧ b.toNat ≤ 0xBF ∧ (a.toNat = 0xE0 → 0xA0 ≤ b.toNat) ∧
      (a.toNat = 0xED → b.toNat ≤ 0x9F) ∧ (a.toNat = 0xF0 → 0x90 ≤ b.toNat) ∧
        (a.toNat = 0xF4 → b.toNat ≤ 0x8F) := by
  rw [isSecond_iff] at h
  obtain ⟨hlow, hhigh⟩ := h
  -- the two bounds are chosen by the first octet
  (repeat' split at hlow) <;> (repeat' split at hhigh) <;> omega

/-- A small octet is written again. -/
theorem encodeChar_single (h : a.toNat < 0x80) : encodeChar (Char.ofNat a.toNat) = [a] := by
  have hn : (Char.ofNat a.toNat).toNat = a.toNat := toNat_ofNat_char (by omega)
  simp only [encodeChar, hn, h, if_true, UInt8.ofNat_toNat]

/-- Two octets that are a character are written again. -/
theorem encodeChar_pair (hl : 0xC2 ≤ a.toNat) (hu : a.toNat < 0xE0) (hb : isTail b = true) :
    encodeChar (pair a b) = [a, b] := by
  rw [isTail_iff] at hb
  obtain ⟨n, hn⟩ : ∃ n, n = (a.toNat - 0xC0) * 0x40 + (b.toNat - 0x80) := ⟨_, rfl⟩
  have hc : (pair a b).toNat = n := by
    rw [pair, ← hn]
    exact toNat_ofNat_char (by omega)
  have h₁ : ¬n < 0x80 := by omega
  have h₂ : n < 0x800 := by omega
  simp only [encodeChar, hc, h₁, h₂, if_false, if_true]
  rw [ofNat_eq_of_toNat (a := a) (by omega), ofNat_eq_of_toNat (a := b) (by omega)]

/-- Three octets that are a character are written again. The second one rules out overlong
forms and surrogates. -/
theorem encodeChar_triple (hl : 0xE0 ≤ a.toNat) (hu : a.toNat < 0xF0)
    (hb : isSecond a b = true) (hc : isTail c = true) :
    encodeChar (triple a b c) = [a, b, c] := by
  rw [isTail_iff] at hc
  have hsecond := second_bounds hb
  obtain ⟨n, hn⟩ : ∃ n, n = (a.toNat - 0xE0) * 0x1000 + (b.toNat - 0x80) * 0x40 +
    (c.toNat - 0x80) := ⟨_, rfl⟩
  have hchar : (triple a b c).toNat = n := by
    rw [triple, ← hn]
    exact toNat_ofNat_char (by omega)
  have h₁ : ¬n < 0x80 := by omega
  have h₂ : ¬n < 0x800 := by omega
  have h₃ : n < 0x10000 := by omega
  simp only [encodeChar, hchar, h₁, h₂, h₃, if_false, if_true]
  rw [ofNat_eq_of_toNat (a := a) (by omega), ofNat_eq_of_toNat (a := b) (by omega),
    ofNat_eq_of_toNat (a := c) (by omega)]

/-- Four octets that are a character are written again. The second one rules out overlong
forms and values that are too large. -/
theorem encodeChar_quadruple (hl : 0xF0 ≤ a.toNat) (hu : a.toNat < 0xF5)
    (hb : isSecond a b = true) (hc : isTail c = true) (hd : isTail d = true) :
    encodeChar (quadruple a b c d) = [a, b, c, d] := by
  rw [isTail_iff] at hc hd
  have hsecond := second_bounds hb
  obtain ⟨n, hn⟩ : ∃ n, n = (a.toNat - 0xF0) * 0x40000 + (b.toNat - 0x80) * 0x1000 +
    (c.toNat - 0x80) * 0x40 + (d.toNat - 0x80) := ⟨_, rfl⟩
  have hchar : (quadruple a b c d).toNat = n := by
    rw [quadruple, ← hn]
    exact toNat_ofNat_char (by omega)
  have h₁ : ¬n < 0x80 := by omega
  have h₂ : ¬n < 0x800 := by omega
  have h₃ : ¬n < 0x10000 := by omega
  simp only [encodeChar, hchar, h₁, h₂, h₃, if_false]
  rw [ofNat_eq_of_toNat (a := a) (by omega), ofNat_eq_of_toNat (a := b) (by omega),
    ofNat_eq_of_toNat (a := c) (by omega), ofNat_eq_of_toNat (a := d) (by omega)]

end Written

/-- A character that octets begin with is written to these octets. -/
theorem encodeChar_of_front {a : UInt8} {rest : Bytes} {c : Char} {count : Nat}
    (h : front a rest = .character c count) :
    ∃ behind after, rest = behind ++ after ∧ count = behind.length + 1 ∧
      encodeChar c = a :: behind := by
  have hle : ∀ {n : UInt8}, ¬a < n → n.toNat ≤ a.toNat := fun hn =>
    Nat.le_of_not_lt (mt UInt8.lt_iff_toNat_lt.mpr hn)
  have hlt : ∀ {n : UInt8}, a < n → a.toNat < n.toNat := UInt8.lt_iff_toNat_lt.mp
  unfold front at h
  -- the first octet tells how many there are, and only whole characters are left
  split at h
  · next h₁ =>
    obtain ⟨rfl, rfl⟩ := Front.character.inj h
    exact ⟨[], rest, rfl, rfl, encodeChar_single (hlt h₁)⟩
  split at h
  · cases h
  next hl₂ =>
  split at h
  · next hu₂ =>
    split at h
    · cases h
    · next b rest =>
      split at h
      · next hb =>
        obtain ⟨rfl, rfl⟩ := Front.character.inj h
        exact ⟨[b], rest, rfl, rfl, encodeChar_pair (hle hl₂) (hlt hu₂) hb⟩
      · cases h
  next hl₃ =>
  split at h
  · next hu₃ =>
    split at h
    · cases h
    · next b rest =>
      split at h
      · cases h
      next hb =>
      split at h
      · cases h
      · next c rest =>
        split at h
        · next hc =>
          obtain ⟨rfl, rfl⟩ := Front.character.inj h
          exact ⟨[b, c], rest, rfl, rfl,
            encodeChar_triple (hle hl₃) (hlt hu₃) (by simpa using hb) hc⟩
        · cases h
  next hl₄ =>
  split at h
  · next hu₄ =>
    split at h
    · cases h
    · next b rest =>
      split at h
      · cases h
      next hb =>
      split at h
      · cases h
      · next c rest =>
        split at h
        · cases h
        next hc =>
        split at h
        · cases h
        · next d rest =>
          split at h
          · next hd =>
            obtain ⟨rfl, rfl⟩ := Front.character.inj h
            exact ⟨[b, c, d], rest, rfl, rfl, encodeChar_quadruple (hle hl₄) (hlt hu₄)
              (by simpa using hb) (by simpa using hc) hd⟩
          · cases h
  · cases h

/-- What is read of octets is written to them again, up to what is left unfinished. -/
theorem drop_eq_of_decodeFront {index held : Nat} {octets : Bytes} {text : List Char}
    {unfinished : Bytes} (h : decodeFront index held octets = .ok (text, unfinished)) :
    octets.drop held = text.flatMap encodeChar ++ unfinished := by
  induction octets generalizing index held text with
  | nil =>
    rw [decodeFront] at h
    obtain ⟨rfl, rfl⟩ := Prod.mk.inj (Except.ok.inj h)
    rw [List.drop_nil]
    rfl
  | cons a rest ih =>
    cases held with
    | succ held =>
      rw [decodeFront] at h
      exact ih h
    | zero =>
      rw [decodeFront] at h
      cases hf : front a rest with
      | broken count reason =>
        rw [hf] at h
        cases h
      | cutShort =>
        rw [hf] at h
        obtain ⟨rfl, rfl⟩ := Prod.mk.inj (Except.ok.inj h)
        rfl
      | character c count =>
        simp only [hf] at h
        split at h
        · next more left hmore =>
          obtain ⟨rfl, rfl⟩ := Prod.mk.inj (Except.ok.inj h)
          obtain ⟨behind, after, rfl, rfl, hc⟩ := encodeChar_of_front hf
          have hafter := ih hmore
          rw [Nat.add_sub_cancel, List.drop_left] at hafter
          rw [List.drop_zero, List.flatMap_cons, hc, List.append_assoc, ← hafter]
          rfl
        · cases h

/-- Octets that are read as a text are those of the text. -/
theorem encode_of_decode {octets : Bytes} {text : String} (h : decode octets = .ok text) :
    encode text = octets := by
  unfold decode at h
  split at h
  · cases h
  next characters unfinished hfront =>
  have hdrop := drop_eq_of_decodeFront hfront
  cases unfinished with
  | cons a rest => cases h
  | nil =>
    obtain rfl := Except.ok.inj h
    rw [encode, String.toList_ofList, ← List.append_nil (characters.flatMap encodeChar), ← hdrop]
    rfl

/-- Octets are read as a text exactly if they are those of the text. -/
theorem decode_eq_ok_iff {octets : Bytes} {text : String} :
    decode octets = .ok text ↔ octets = encode text := by
  constructor
  · exact fun h => (encode_of_decode h).symm
  · rintro rfl
    exact decode_encode text

/-- A character is written in the standard encoding, which takes the digits in base 64 from
the number in the same way. -/
theorem encodeChar_eq_utf8EncodeChar (c : Char) : encodeChar c = String.utf8EncodeChar c := by
  obtain ⟨hmax, -⟩ := toNat_char_bounds c
  simp only [encodeChar, String.utf8EncodeChar, Char.toNat_val, Nat.le_iff_lt_add_one,
    Nat.reduceAdd, Nat.add_comm]
  by_cases h₁ : c.toNat < 0x80
  · simp only [h₁, if_true]
  by_cases h₂ : c.toNat < 0x800
  · have hfirst : c.toNat / 64 % 32 = c.toNat / 64 := by omega
    simp only [h₁, h₂, hfirst, if_true, if_false]
  by_cases h₃ : c.toNat < 0x10000
  · have hfirst : c.toNat / 4096 % 16 = c.toNat / 4096 := by omega
    simp only [h₁, h₂, h₃, hfirst, if_true, if_false]
  · have hfirst : c.toNat / 262144 % 8 = c.toNat / 262144 := by omega
    simp only [h₁, h₂, h₃, hfirst, if_false]

/-- A text is written in the standard encoding. -/
theorem encode_eq_toUTF8 (text : String) : encode text = text.toUTF8.data.toList := by
  have hchar : encodeChar = String.utf8EncodeChar := funext encodeChar_eq_utf8EncodeChar
  rw [String.toUTF8, ← String.utf8Encode_toList, List.utf8Encode, List.data_toByteArray, encode,
    hchar]

end TlsTranscript.Utf8
