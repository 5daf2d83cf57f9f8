import TlsTranscript.Proofs.Text.Signed

/-!
# Written codes told apart

The codes of two octets show their number first, so their texts are legible
whatever their names are, also where integers of any size and sign stand in their
place. The codes of one octet show their name alone: they are told apart if the
names of the registry are distinct and none of them looks like the mark of an
unknown code, and in front of a character that no name holds they are legible.
-/

namespace TlsTranscript

open Text

/-- What an unknown code of a kind is called. -/
def RegistryKind.noun : RegistryKind → String
  | .cipherSuite => "cipher"
  | .namedGroup => "curve"
  | .signatureScheme => "signature scheme"
  | .hashAlgorithm => "hash"
  | .signatureAlgorithm => "signature"
  | .alertSeverity => "severity"

/-- How the mark of an unknown code begins. -/
def unknownMark : List Char := ['<', 'U', 'n', 'k', 'n', 'o', 'w', 'n', ' ']

/-- Names of a kind that tell their code: no two codes have the same name, and no
name begins as the mark of an unknown code does. -/
structure Registries.NamesTell (registries : Registries) (kind : RegistryKind) : Prop where
  /-- A name belongs to one code. -/
  distinct : ∀ first second name, registries.nameOf? kind first = some name →
    registries.nameOf? kind second = some name → first = second
  /-- A name is told from the mark of an unknown code. -/
  unmarked : ∀ code name, registries.nameOf? kind code = some name →
    ¬unknownMark <+: name.toList

/-- Names of a kind that do not hold a character. -/
def Registries.NamesAvoid (registries : Registries) (kind : RegistryKind) (c : Char) : Prop :=
  ∀ code name, registries.nameOf? kind code = some name → c ∉ name.toList

/-- How an unknown code is marked: its kind and its number, in base sixteen and in decimal. -/
def RegistryKind.marker (kind : RegistryKind) (hex shown : String) : String :=
  match kind with
  | .cipherSuite | .signatureScheme => hex ++ "(Unknown " ++ kind.noun ++ "/" ++ shown ++ ")"
  | _ => "<Unknown " ++ kind.noun ++ " " ++ hex ++ "/" ++ shown ++ ">"

/-- The numeral in base sixteen that an unknown code of a kind is marked with. -/
def RegistryKind.hexShown (kind : RegistryKind) (code : Int) : String :=
  match kind with
  | .cipherSuite | .signatureScheme => hex16 code
  | _ => hexUnpadded code

/-- The numeral in base sixteen that an unknown code is marked with is read back. -/
theorem RegistryKind.hexValue?_hexShown (kind : RegistryKind) (code : Int) :
    hexValue? (kind.hexShown code) = some code := by
  cases kind with
  | cipherSuite => exact hexValue?_hex16 code
  | signatureScheme => exact hexValue?_hex16 code
  | _ => exact hexValue?_hexUnpadded code

/-- An unknown code is marked with its numerals. -/
theorem RegistryKind.withoutName_eq_marker (kind : RegistryKind) (code : Int) (shown : String) :
    kind.withoutName code shown = kind.marker (kind.hexShown code) shown := by
  have hpadded : ∀ noun : String, hex16 code ++ ("(Unknown " ++ noun ++ "/") ++ shown ++ ")" =
      hex16 code ++ "(Unknown " ++ noun ++ "/" ++ shown ++ ")" := fun noun => by
    simp only [String.append_assoc]
  cases kind with
  | cipherSuite => exact hpadded "cipher"
  | signatureScheme => exact hpadded "signature scheme"
  | _ => rfl

/-- The mark of an unknown code that is no cipher suite and no signature scheme. -/
theorem toList_withoutName {kind : RegistryKind} (hc : kind ≠ .cipherSuite)
    (hs : kind ≠ .signatureScheme) (code : Int) (shown : String) :
    (kind.withoutName code shown).toList =
      unknownMark ++ (kind.noun.toList ++ ' ' :: ((hexUnpadded code).toList ++
        '/' :: (shown.toList ++ ['>']))) := by
  have hw : kind.withoutName code shown =
      "<Unknown " ++ kind.noun ++ " " ++ hexUnpadded code ++ "/" ++ shown ++ ">" := by
    cases kind with
    | cipherSuite => contradiction
    | signatureScheme => contradiction
    | namedGroup => rfl
    | hashAlgorithm => rfl
    | signatureAlgorithm => rfl
    | alertSeverity => rfl
  rw [hw]
  simp [unknownMark]

/-- The mark of an unknown code tells the code. -/
theorem legible_withoutName {kind : RegistryKind} (hc : kind ≠ .cipherSuite)
    (hs : kind ≠ .signatureScheme) :
    Legible (fun _ => True) fun n : Nat => (kind.withoutName n (decimal n)).toList := by
  have h := legible_hexUnpadded.close (c := '/') (by decide) fun n => (decimal n).toList ++ ['>']
  have hf := h.prepend (unknownMark ++ (kind.noun.toList ++ [' ']))
  simpa only [toList_withoutName hc hs, List.append_assoc, List.cons_append,
    List.nil_append] using hf

/-- What the mark of an unknown code without its noun consists of. -/
theorem mem_withoutName {kind : RegistryKind} (hc : kind ≠ .cipherSuite)
    (hs : kind ≠ .signatureScheme) {n : Nat} {c : Char}
    (h : c ∈ (kind.withoutName n (decimal n)).toList) :
    IsNumeral c ∨ c ∈ kind.noun.toList ∨ c ∈ "<Unknown x/>".toList := by
  have hhex : ∀ d ∈ (hexUnpadded n).toList, IsNumeral d ∨ d = 'x' := by
    intro d hd
    simp only [hexUnpadded, hexPadded, String.toList_ofList, List.mem_cons] at hd
    rcases hd with hd | hd | hd
    · exact .inl (by rw [hd]; decide)
    · exact .inr hd
    · exact .inl (Digits.isNumeral_of_mem_fill (by decide) (by decide) hd)
  have hdec : ∀ d ∈ (decimal n).toList, IsNumeral d := by
    intro d hd
    exact Digits.isNumeral_of_mem_ofNat (by decide) (by decide) (String.toList_ofList ▸ hd)
  rw [toList_withoutName hc hs] at h
  simp only [unknownMark, List.mem_append, List.mem_cons, List.not_mem_nil, or_false] at h
  rcases h with h | h | h | h | h | h | h
  · exact .inr (.inr (by revert h; simp; grind))
  · exact .inr (.inl h)
  · exact .inr (.inr (by simp [h]))
  · rcases hhex c h with h | h
    · exact .inl h
    · exact .inr (.inr (by simp [h]))
  · exact .inr (.inr (by simp [h]))
  · exact .inl (hdec c h)
  · exact .inr (.inr (by simp [h]))

/-- A code that shows its number has its name in parentheses behind it. -/
theorem toList_withName {kind : RegistryKind} (h : kind.showsNumber = true) (code : Int)
    (name : String) :
    (kind.withName code name).toList = (hex16 code).toList ++ '(' :: (name.toList ++ [')']) := by
  simp [RegistryKind.withName, h]

namespace Registries

variable {registries : Registries} {kind : RegistryKind}

/-- A code with a name is written with it. -/
theorem text_write_of_name {code : Int} {name : String}
    (h : registries.nameOf? kind code = some name) :
    (registries.write kind code).text = kind.withName code name := by
  simp only [write, h, Rendered.text_plain]

/-- A code without a name is marked as unknown. -/
theorem text_write_of_none {code : Int} (h : registries.nameOf? kind code = none) :
    (registries.write kind code).text = kind.withoutName code (decimal code) := by
  simp only [write, h]

/-- A code that shows its number begins with it, padded and in front of a parenthesis, or
with the mark of an unknown code and its number behind the noun of its kind. -/
theorem toList_write (registries : Registries) (kind : RegistryKind)
    (hn : kind.showsNumber = true) (code : Int) :
    ∃ rest, (registries.write kind code).text.toList = (hex16 code).toList ++ '(' :: rest ∨
      (registries.write kind code).text.toList = unknownMark ++
        (kind.noun.toList ++ ' ' :: ((hexUnpadded code).toList ++ '/' :: rest)) := by
  cases h : registries.nameOf? kind code with
  | some name => exact ⟨_, .inl (by rw [text_write_of_name h, toList_withName hn])⟩
  | none =>
    have hfront : ∀ noun shown : String,
        (hex16 code ++ "(Unknown " ++ noun ++ "/" ++ shown ++ ")").toList = (hex16 code).toList ++
          '(' :: ("Unknown ".toList ++ (noun.toList ++ ("/".toList ++ (shown.toList ++ [')'])))) :=
      fun noun shown => by
        simp only [String.toList_append, List.append_assoc]
        rfl
    rw [text_write_of_none h]
    cases kind with
    | cipherSuite =>
      rw [RegistryKind.withoutName_eq_marker]
      exact ⟨_, .inl (hfront _ _)⟩
    | signatureScheme =>
      rw [RegistryKind.withoutName_eq_marker]
      exact ⟨_, .inl (hfront _ _)⟩
    | namedGroup => exact ⟨_, .inr (toList_withoutName (by decide) (by decide) _ _)⟩
    | _ => contradiction

/-- Codes of every sign and size that show their numbers are legible in front of every rest,
whatever their names are. -/
theorem legible_write (registries : Registries) (kind : RegistryKind)
    (hn : kind.showsNumber = true) :
    Legible (fun _ => True) fun code : Int => (registries.write kind code).text.toList := by
  have hzero : ∀ code, ∃ rest, (hex16 code).toList = '0' :: rest := fun code =>
    ⟨_, String.toList_ofList⟩
  have hmark : ∃ rest, unknownMark = '<' :: rest := ⟨_, rfl⟩
  have hparenthesis : ∀ {rest}, Begins (fun c => ¬IsSigned c) ('(' :: rest) :=
    (begins_cons _ _ _).mpr (by decide)
  have hslash : ∀ {rest}, Begins (fun c => ¬IsSigned c) ('/' :: rest) :=
    (begins_cons _ _ _).mpr (by decide)
  intro a b s t _ _ he
  obtain ⟨x, hx | hx⟩ := registries.toList_write kind hn a <;>
    obtain ⟨y, hy | hy⟩ := registries.toList_write kind hn b <;>
    simp only [hx, hy, List.append_assoc, List.cons_append] at he
  · exact legible_hex16_int a b _ _ hparenthesis hparenthesis he
  · obtain ⟨digits, hd⟩ := hzero a
    obtain ⟨rest, hr⟩ := hmark
    rw [hd, hr] at he
    exact absurd (List.cons.inj he).1 (by decide)
  · obtain ⟨digits, hd⟩ := hzero b
    obtain ⟨rest, hr⟩ := hmark
    rw [hd, hr] at he
    exact absurd (List.cons.inj he).1 (by decide)
  · rw [List.append_cancel_left_eq, List.append_cancel_left_eq, List.cons.injEq] at he
    exact legible_hexUnpadded_int a b _ _ hslash hslash he.2

/-- Codes of two octets that show their numbers are legible in front of every rest. -/
theorem legible_write_pair (registries : Registries) (kind : RegistryKind)
    (hn : kind.showsNumber = true) :
    Legible (fun _ => True) fun code : UInt16 =>
      (registries.write kind (UInt16.code code)).text.toList :=
  (registries.legible_write kind hn).comp fun _ _ he => UInt16.toNat_inj.mp (Int.ofNat.inj he)

/-- A code that shows its name alone is told by its text, if the names of its kind
tell their codes. -/
theorem write_injective (hn : kind.showsNumber = false) (h : registries.NamesTell kind)
    {m n : Nat} (he : (registries.write kind m).text = (registries.write kind n).text) :
    m = n := by
  have hc : kind ≠ .cipherSuite := fun hk => by simp [hk, RegistryKind.showsNumber] at hn
  have hs : kind ≠ .signatureScheme := fun hk => by simp [hk, RegistryKind.showsNumber] at hn
  have hname : ∀ code name, kind.withName code name = name := fun code name => by
    simp [RegistryKind.withName, hn]
  have hmark : ∀ code : Nat,
      unknownMark <+: (kind.withoutName code (decimal code)).toList := fun code => by
    rw [toList_withoutName hc hs]
    exact List.prefix_append _ _
  cases hm : registries.nameOf? kind m with
  | some name =>
    cases hk : registries.nameOf? kind n with
    | some other =>
      rw [text_write_of_name hm, text_write_of_name hk, hname, hname] at he
      exact Int.ofNat.inj (h.distinct m n name hm (by rw [hk, he]))
    | none =>
      rw [text_write_of_name hm, text_write_of_none hk, hname] at he
      exact absurd (he ▸ hmark n) (h.unmarked m name hm)
  | none =>
    cases hk : registries.nameOf? kind n with
    | some other =>
      rw [text_write_of_none hm, text_write_of_name hk, hname] at he
      exact absurd (he ▸ hmark m) (h.unmarked n other hk)
    | none =>
      rw [text_write_of_none hm, text_write_of_none hk] at he
      exact (legible_withoutName hc hs).injective (by rw [he])

/-- A character that is in no name of a kind, in no numeral and in no mark is not in
the texts of codes that show their name alone. -/
theorem not_mem_write (hn : kind.showsNumber = false) {c : Char}
    (h : registries.NamesAvoid kind c) (hd : ¬IsNumeral c) (hk : c ∉ kind.noun.toList)
    (hm : c ∉ "<Unknown x/>".toList) (n : Nat) :
    c ∉ (registries.write kind n).text.toList := by
  have hc : kind ≠ .cipherSuite := fun he => by simp [he, RegistryKind.showsNumber] at hn
  have hs : kind ≠ .signatureScheme := fun he => by simp [he, RegistryKind.showsNumber] at hn
  cases hname : registries.nameOf? kind n with
  | some name =>
    rw [text_write_of_name hname]
    simp only [RegistryKind.withName, hn, Bool.false_eq_true, if_false]
    exact h n name hname
  | none =>
    rw [text_write_of_none hname]
    intro hmem
    rcases mem_withoutName hc hs hmem with hnum | hnoun | hmark
    · exact hd hnum
    · exact hk hnoun
    · exact hm hmark

/-- Codes that show their name alone are legible in front of a character that is in
none of their texts. -/
theorem legible_nameOnly (hn : kind.showsNumber = false) (h : registries.NamesTell kind)
    {mark : Char} (ha : ∀ n : Nat, mark ∉ (registries.write kind n).text.toList) :
    Legible (· = mark) fun code : UInt8 =>
      (registries.write kind (UInt8.code code)).text.toList :=
  .of_apart (fun a b => apart_of_not_mem (ha a.toNat) (ha b.toNat))
    (fun _ _ he => UInt8.toNat_inj.mp (write_injective hn h (String.toList_inj.mp he)))

/-- A code that shows its number begins with a zero or an angle bracket. -/
theorem write_eq_cons (registries : Registries) (kind : RegistryKind)
    (hn : kind.showsNumber = true) (code : Int) :
    ∃ c rest, (registries.write kind code).text.toList = c :: rest ∧ (c = '0' ∨ c = '<') := by
  obtain ⟨rest, hw | hw⟩ := registries.toList_write kind hn code
  · exact ⟨'0', _, by rw [hw, hex16, String.toList_ofList]; rfl, .inl rfl⟩
  · exact ⟨'<', _, hw, .inr rfl⟩

/-- Names of hash and signature algorithms that tell their codes also in pairs: no
name holds a comma or a closing parenthesis. -/
structure PairsTell (registries : Registries) : Prop where
  /-- Names of hash algorithms tell their codes. -/
  hash : registries.NamesTell .hashAlgorithm
  /-- Names of signature algorithms tell their codes. -/
  sign : registries.NamesTell .signatureAlgorithm
  /-- No name of a hash algorithm holds a comma or a closing parenthesis. -/
  hashAvoids : ∀ c ∈ [',', ')'], registries.NamesAvoid .hashAlgorithm c
  /-- No name of a signature algorithm holds a comma or a closing parenthesis. -/
  signAvoids : ∀ c ∈ [',', ')'], registries.NamesAvoid .signatureAlgorithm c

/-- Hash algorithms are legible in front of a comma, if pairs tell their codes. -/
theorem PairsTell.legible_hash (h : registries.PairsTell) :
    Legible (· = ',') fun code : UInt8 =>
      (registries.write .hashAlgorithm (UInt8.code code)).text.toList :=
  legible_nameOnly rfl h.hash (not_mem_write rfl (h.hashAvoids ',' (by decide)) (by decide)
    (by decide) (by decide))

/-- Signature algorithms hold no comma and no closing parenthesis, if pairs tell
their codes. -/
theorem PairsTell.not_mem_sign (h : registries.PairsTell) {c : Char} (hc : c ∈ [',', ')'])
    (n : Nat) : c ∉ (registries.write .signatureAlgorithm n).text.toList := by
  have hplain : ∀ d ∈ [',', ')'], ¬IsNumeral d ∧
      d ∉ RegistryKind.signatureAlgorithm.noun.toList ∧ d ∉ "<Unknown x/>".toList := by
    rw [List.forall_mem_cons, List.forall_mem_singleton]
    decide
  obtain ⟨hd, hk, hm⟩ := hplain c hc
  exact not_mem_write rfl (h.signAvoids c hc) hd hk hm n

/-- Signature algorithms are legible in front of a comma or a closing parenthesis,
if pairs tell their codes. -/
theorem PairsTell.legible_sign (h : registries.PairsTell) (mark : Char)
    (hm : mark ∈ [',', ')']) :
    Legible (· = mark) fun code : UInt8 =>
      (registries.write .signatureAlgorithm (UInt8.code code)).text.toList :=
  legible_nameOnly rfl h.sign (h.not_mem_sign hm)

end Registries

end TlsTranscript
