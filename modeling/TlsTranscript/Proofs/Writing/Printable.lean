import TlsTranscript.Proofs.Text.Lines
import TlsTranscript.Proofs.Text.Utf8Inverse
import TlsTranscript.Proofs.Writing.Models

/-!
# Printable characters in renderings

Everything that a model is written with is printable ASCII, as far as the names of its
codes are: no character outside of it, line ends and other control characters among them,
comes out of octets or numbers. Only the names of servers and protocols come into a
rendering as they were sent, so they alone decide whether a rendering is a single line.
-/

namespace TlsTranscript

open Text

/-- A printable character of ASCII is one from the space to the tilde. -/
def Text.IsPrintableAscii (c : Char) : Prop := 32 ≤ c.toNat ∧ c.toNat ≤ 126

instance : DecidablePred IsPrintableAscii := fun _ => inferInstanceAs (Decidable (_ ∧ _))

/-- Whether a text is printable ASCII, which its octets tell. -/
def Text.isPlain (text : String) : Bool :=
  text.toByteArray.data.toList.all fun octet => 32 ≤ octet.toNat && octet.toNat ≤ 126

variable {registries : Registries} {c : Char}

/-- The characters of a plain text are printable ASCII. -/
theorem Text.isPrintableAscii_of_isPlain {text : String} (h : isPlain text = true)
    (hc : c ∈ text.toList) : IsPrintableAscii c := by
  obtain ⟨octet, behind, hfront, -⟩ := Utf8.encodeChar_fronts c
  have hfirst : octet ∈ Utf8.encodeChar c := hfront ▸ List.mem_cons_self
  have hoctet : octet ∈ text.toUTF8.data.toList := by
    rw [← Utf8.encode_eq_toUTF8]
    exact List.mem_flatMap.mpr ⟨c, hc, hfirst⟩
  have hrange := List.all_eq_true.mp h octet hoctet
  rw [Bool.and_eq_true, decide_eq_true_eq, decide_eq_true_eq] at hrange
  -- the octet of an ASCII character belongs to no other one
  rwa [← Utf8.toNat_of_mem_encodeChar hfirst (by omega)] at hrange

/-- A plain text holds no unprintable character. -/
theorem Text.not_mem_of_isPlain (hc : ¬IsPrintableAscii c) (text : String)
    (h : isPlain text = true) : c ∉ text.toList := fun hm => hc (isPrintableAscii_of_isPlain h hm)

/-- An unprintable character is no numeral. -/
theorem Text.not_isNumeral (hc : ¬IsPrintableAscii c) : ¬IsNumeral c := by
  have hl : ¬(32 ≤ c.toNat ∧ c.toNat ≤ 126) := hc
  have hd : ¬(48 ≤ c.toNat ∧ c.toNat ≤ 57) := by omega
  have hx : ¬(97 ≤ c.toNat ∧ c.toNat ≤ 102) := by omega
  simp [IsNumeral, digitValue?, hd, hx]

/-- Padded numerals hold no unprintable character. -/
theorem Text.not_mem_hexPadded (hc : ¬IsPrintableAscii c) (width n : Nat) :
    c ∉ hexPadded width (.ofNat n) := fun hm =>
  not_isNumeral hc (Digits.isNumeral_of_mem_fill (by decide) (by decide) hm)

/-- Decimal numerals hold no unprintable character. -/
theorem Text.not_mem_decimal (hc : ¬IsPrintableAscii c) (n : Nat) :
    c ∉ (decimal n).toList := fun hm =>
  not_isNumeral hc (Digits.isNumeral_of_mem_ofNat (by decide) (by decide)
    (String.toList_ofList ▸ hm))

/-- Marked numerals hold no unprintable character. -/
theorem Text.not_mem_marked (hc : ¬IsPrintableAscii c) (width n : Nat) :
    c ∉ '0' :: 'x' :: hexPadded width (.ofNat n) := by
  have hp := not_isNumeral hc
  have hx : IsPrintableAscii 'x' := by decide
  intro hm
  rcases List.mem_cons.mp hm with rfl | hm
  · exact hp (by decide)
  · rcases List.mem_cons.mp hm with rfl | hm
    · exact hc hx
    · exact not_mem_hexPadded hc width n hm

/-- A number of two octets holds no unprintable character. -/
theorem Text.not_mem_hex16 (hc : ¬IsPrintableAscii c) (value : UInt16) :
    c ∉ (hex16 (UInt16.code value)).toList := by
  rw [hex16, String.toList_ofList]
  exact not_mem_marked hc 4 value.toNat

/-- A number of one octet holds no unprintable character. -/
theorem Text.not_mem_hex8 (hc : ¬IsPrintableAscii c) (value : UInt8) :
    c ∉ (hex8 (UInt8.code value)).toList := by
  rw [hex8, String.toList_ofList]
  exact not_mem_marked hc 2 value.toNat

/-- A marked number without padding holds no unprintable character. -/
theorem Text.not_mem_hexUnpadded (hc : ¬IsPrintableAscii c) (n : Nat) :
    c ∉ (hexUnpadded n).toList := by
  rw [hexUnpadded, String.toList_ofList]
  exact not_mem_marked hc 0 n

/-- A listing holds no unprintable character. -/
theorem Text.not_mem_listing (hc : ¬IsPrintableAscii c) (data : Bytes) :
    c ∉ data.listing.toList := by
  have hplain : c ∉ ['[', ' ', ']'] := not_mem_of_isPlain hc "[ ]" (by decide)
  simp only [List.mem_cons, List.not_mem_nil, or_false, not_or] at hplain
  rw [toList_listing, List.mem_append, List.mem_cons, List.mem_singleton]
  rintro ((hopen | hbetween) | hclose)
  · exact hplain.1 hopen
  · exact (mem_between hbetween).elim hplain.2.1 (not_isNumeral hc)
  · exact hplain.2.2 hclose

/-- A listing that may be missing holds no unprintable character. -/
theorem Text.not_mem_listingOrNone (hc : ¬IsPrintableAscii c) (data : Option Bytes) :
    c ∉ (Bytes.listingOrNone data).toList := by
  cases data with
  | none => exact not_mem_of_isPlain hc _ (by decide)
  | some data => exact not_mem_listing hc data

namespace Rendered

/-- What two renderings side by side hold. -/
theorem mem_append (a b : Rendered) :
    c ∈ (a ++ b).text.toList ↔ c ∈ a.text.toList ∨ c ∈ b.text.toList := by
  simp

/-- A plain text holds no unprintable character. -/
theorem not_mem_plain (hc : ¬IsPrintableAscii c) (text : String) (h : isPlain text = true) :
    c ∉ (plain text).text.toList := not_mem_of_isPlain hc text h

/-- Which unprintable characters renderings between separators hold. -/
theorem mem_join (hc : ¬IsPrintableAscii c) (parts : List Rendered) :
    c ∈ (join ", " parts).text.toList ↔ ∃ part ∈ parts, c ∈ part.text.toList := by
  have hs : c ∉ [',', ' '] := not_mem_of_isPlain hc ", " (by decide)
  have hj : (join ", " parts).text.toList =
      (',' :: [' ']).intercalate (parts.map fun part => part.text.toList) := by
    simp [join, String.toList_intercalate, Function.comp_def]
  rw [hj]
  simp only [List.mem_cons, List.not_mem_nil, or_false, not_or] at hs
  cases parts with
  | nil => simp
  | cons part parts =>
    rw [List.map_cons, intercalate_cons, List.flatMap_map]
    simp [hs]

/-- Which unprintable characters a list holds. -/
theorem mem_list (hc : ¬IsPrintableAscii c) (items : List Rendered) :
    c ∈ (list items).text.toList ↔ ∃ item ∈ items, c ∈ item.text.toList := by
  have ho := not_mem_plain hc "[" (by decide)
  have hd := not_mem_plain hc "]" (by decide)
  rw [list, mem_append, mem_append, mem_join hc]
  simp only [ho, hd, false_or, or_false]

/-- A list of which no item holds an unprintable character holds none. -/
theorem not_mem_list {α : Type} (hc : ¬IsPrintableAscii c) {write : α → Rendered}
    (hw : ∀ a, c ∉ (write a).text.toList) (items : List α) :
    c ∉ (list (items.map write)).text.toList := by
  rw [mem_list hc]
  rintro ⟨item, hi, hm⟩
  obtain ⟨a, -, rfl⟩ := List.mem_map.mp hi
  exact hw a hm

/-- Which unprintable characters a named value in parentheses holds. -/
theorem mem_tagged (hc : ¬IsPrintableAscii c) (name : String) (hn : isPlain (name ++ "(") = true)
    (content : Rendered) :
    c ∈ (tagged name content).text.toList ↔ c ∈ content.text.toList := by
  have ho := not_mem_plain hc _ hn
  have hd := not_mem_plain hc ")" (by decide)
  rw [tagged, mem_append, mem_append]
  simp only [ho, hd, false_or, or_false]

/-- A record in the layout of a kind of message holds no unprintable character if its
values hold none. -/
theorem not_mem_record (hc : ¬IsPrintableAscii c) (kind : MessageKind)
    {fields : List (String × Rendered)}
    (hl : fields.map Prod.fst = kind.layout.map LaidField.label)
    (hv : ∀ entry ∈ fields, c ∉ entry.2.text.toList) :
    c ∉ (record kind.name fields).text.toList := by
  have hn : isPlain (kind.name ++ " \x7b ") = true := by cases kind <;> decide
  have hlabels : ∀ label ∈ kind.layout.map LaidField.label, isPlain (label ++ ": ") = true := by
    cases kind <;> decide
  have ho := not_mem_plain hc _ hn
  have hd := not_mem_plain hc " \x7d" (by decide)
  rw [record, mem_append, mem_append, mem_join hc]
  simp only [ho, hd, false_or, or_false]
  rintro ⟨part, hp, hm⟩
  obtain ⟨entry, he, rfl⟩ := List.mem_map.mp hp
  rw [field, mem_append] at hm
  rcases hm with hm | hm
  · exact not_mem_plain hc _ (hlabels _ (hl ▸ List.mem_map_of_mem he)) hm
  · exact hv entry he hm

end Rendered

/-- Names of all kinds that do not hold a character. -/
def Registries.AllAvoid (registries : Registries) (c : Char) : Prop :=
  ∀ kind, registries.NamesAvoid kind c

/-- A code holds an unprintable character only if its name does. -/
theorem Registries.not_mem_write_unprintable (hc : ¬IsPrintableAscii c)
    (h : registries.AllAvoid c) (kind : RegistryKind) (n : Nat) :
    c ∉ (registries.write kind n).text.toList := by
  have hhex : c ∉ (hex16 n).toList := by
    rw [hex16, String.toList_ofList]
    exact not_mem_marked hc 4 n
  have hdecimal := not_mem_decimal hc n
  cases hname : registries.nameOf? kind n with
  | some name =>
    have hn : c ∉ name.toList := h kind n name hname
    have ho := not_mem_of_isPlain hc "(" (by decide)
    have hd := not_mem_of_isPlain hc ")" (by decide)
    rw [text_write_of_name hname, RegistryKind.withName]
    split
    · simp only [String.toList_append, List.mem_append, hhex, ho, hn, hd, or_self,
        not_false_eq_true]
    · exact hn
  | none =>
    have hmark : ∀ front : String, isPlain front = true →
        c ∉ (hex16 n ++ front ++ decimal n ++ ")").toList := by
      intro front hf
      have ho := not_mem_of_isPlain hc _ hf
      have hd := not_mem_of_isPlain hc ")" (by decide)
      simp only [String.toList_append, List.mem_append, hhex, ho, hdecimal, hd, or_self,
        not_false_eq_true]
    have hunknown : ∀ {kind : RegistryKind}, kind ≠ .cipherSuite → kind ≠ .signatureScheme →
        isPlain kind.noun = true → c ∉ (kind.withoutName n (decimal n)).toList := by
      intro kind hcs hss hk hm
      rcases mem_withoutName hcs hss hm with hm | hm | hm
      · exact not_isNumeral hc hm
      · exact not_mem_of_isPlain hc _ hk hm
      · exact not_mem_of_isPlain hc _ (by decide) hm
    rw [text_write_of_none hname]
    cases kind with
    | cipherSuite => exact hmark "(Unknown cipher/" (by decide)
    | signatureScheme => exact hmark "(Unknown signature scheme/" (by decide)
    | namedGroup => exact hunknown (by decide) (by decide) (by decide)
    | hashAlgorithm => exact hunknown (by decide) (by decide) (by decide)
    | signatureAlgorithm => exact hunknown (by decide) (by decide) (by decide)
    | alertSeverity => exact hunknown (by decide) (by decide) (by decide)

namespace Extension

open Rendered

/-- The octets that an extension is written with as they were sent. -/
def rawTexts : Extension → List Bytes
  | .sni names => names.map Prod.snd
  | .alpn protocols => protocols
  | _ => []

/-- A name with octets that may be missing holds no unprintable character. -/
theorem not_mem_writeData (hc : ¬IsPrintableAscii c) (name : String)
    (hn : isPlain (name ++ "(data=") = true) (data : Option Bytes) :
    c ∉ (writeData name data).text.toList := by
  have ho := not_mem_of_isPlain hc _ hn
  have hd := not_mem_of_isPlain hc ")" (by decide)
  have hl := not_mem_listingOrNone hc data
  rw [writeData, text_plain, String.toList_append, String.toList_append]
  simp only [List.mem_append, ho, hl, hd, or_self, not_false_eq_true]

/-- A name with a number in parentheses holds no unprintable character. -/
theorem not_mem_number (hc : ¬IsPrintableAscii c) (name : String)
    (hn : isPlain (name ++ "(") = true) (value : UInt8) :
    c ∉ (plain (name ++ "(" ++ decimal (UInt8.code value) ++ ")")).text.toList := by
  have ho := not_mem_of_isPlain hc _ hn
  have hd := not_mem_of_isPlain hc ")" (by decide)
  have hv := not_mem_decimal hc value.toNat
  rw [text_plain, String.toList_append, String.toList_append]
  simp only [List.mem_append, ho, hd, or_false, false_or]
  exact hv

/-- A server name with its type holds the unprintable characters of the name alone. -/
theorem mem_writeName (hc : ¬IsPrintableAscii c) (name : UInt8 × Bytes) :
    c ∈ (writeName name).text.toList ↔ c ∈ (ofOctets name.2).text.toList := by
  have ho := not_mem_of_isPlain hc "type=" (by decide)
  have hd := not_mem_of_isPlain hc ",name=" (by decide)
  have hx : c ∉ (hexUnpadded (UInt8.code name.1)).toList := not_mem_hexUnpadded hc name.1.toNat
  rw [writeName, mem_append, text_plain, String.toList_append, String.toList_append]
  simp only [List.mem_append, ho, hx, hd, or_self, false_or]

/-- A pair of algorithms holds no unprintable character that no name holds. -/
theorem not_mem_writePair (hc : ¬IsPrintableAscii c) (h : registries.AllAvoid c)
    (pair : UInt8 × UInt8) : c ∉ (writePair registries pair).text.toList := by
  have ho := not_mem_plain hc "(" (by decide)
  have hm := not_mem_plain hc "," (by decide)
  have hd := not_mem_plain hc ")" (by decide)
  have hhash : c ∉ (registries.write .hashAlgorithm (UInt8.code pair.1)).text.toList :=
    Registries.not_mem_write_unprintable hc h .hashAlgorithm pair.1.toNat
  have hsign : c ∉ (registries.write .signatureAlgorithm (UInt8.code pair.2)).text.toList :=
    Registries.not_mem_write_unprintable hc h .signatureAlgorithm pair.2.toNat
  rw [writePair, mem_append, mem_append, mem_append, mem_append]
  simp only [ho, hm, hd, hhash, hsign, or_self, not_false_eq_true]

/-- A list of which no item holds an unprintable character holds none under its name. -/
theorem not_mem_tagged_list {α : Type} (hc : ¬IsPrintableAscii c) (name : String)
    (hn : isPlain (name ++ "(") = true) {write : α → Rendered}
    (hw : ∀ a, c ∉ (write a).text.toList) (items : List α) :
    c ∉ (tagged name (list (items.map write))).text.toList := by
  rw [mem_tagged hc _ hn]
  exact not_mem_list hc hw items

/-- An unprintable character that no name of a code holds comes into an extension only
with octets that are written as they were sent. -/
theorem mem_write_iff (hc : ¬IsPrintableAscii c) (h : registries.AllAvoid c) (e : Extension) :
    c ∈ (e.write registries).text.toList ↔
      ∃ data ∈ e.rawTexts, c ∈ (ofOctets data).text.toList := by
  have hnone : c ∉ (e.write registries).text.toList → e.rawTexts = [] →
      (c ∈ (e.write registries).text.toList ↔
        ∃ data ∈ e.rawTexts, c ∈ (ofOctets data).text.toList) := by
    intro hm hr
    simp only [hm, hr, List.not_mem_nil, false_and, exists_false]
  cases e with
  | sni names =>
    simp only [write, rawTexts, mem_tagged hc "SNI" (by decide), mem_list hc,
      List.mem_map, Prod.exists]
    constructor
    · rintro ⟨item, ⟨type, data, hi, rfl⟩, hm⟩
      exact ⟨data, ⟨type, data, hi, rfl⟩, (mem_writeName hc (type, data)).mp hm⟩
    · rintro ⟨data, ⟨type, other, hi, rfl⟩, hm⟩
      exact ⟨_, ⟨type, other, hi, rfl⟩, (mem_writeName hc (type, other)).mpr hm⟩
  | alpn protocols =>
    simp only [write, rawTexts, mem_tagged hc "ALPN" (by decide), mem_list hc,
      List.mem_map]
    constructor
    · rintro ⟨item, ⟨data, hi, rfl⟩, hm⟩
      exact ⟨data, hi, hm⟩
    · rintro ⟨data, hi, hm⟩
      exact ⟨_, ⟨data, hi, rfl⟩, hm⟩
  | maxFragmentLength length =>
    exact hnone (not_mem_number hc "MaxFragmentLength" (by decide) length) rfl
  | statusRequest data => exact hnone (not_mem_writeData hc _ (by decide) data) rfl
  | ellipticCurves groups =>
    exact hnone (not_mem_tagged_list hc _ (by decide) (fun group : UInt16 =>
      Registries.not_mem_write_unprintable hc h .namedGroup group.toNat) groups) rfl
  | ecPointFormats formats => exact hnone (not_mem_writeData hc _ (by decide) formats) rfl
  | signatureAlgorithms algorithms =>
    exact hnone (not_mem_tagged_list hc _ (by decide) (not_mem_writePair hc h) algorithms) rfl
  | sessionTicket data => exact hnone (not_mem_writeData hc _ (by decide) data) rfl
  | keyShare data => exact hnone (not_mem_writeData hc _ (by decide) data) rfl
  | preSharedKey data => exact hnone (not_mem_writeData hc _ (by decide) data) rfl
  | earlyData => exact hnone (not_mem_plain hc _ (by decide)) rfl
  | supportedVersions versions =>
    have hversion : ∀ version : UInt16, c ∉ (plain (hex16 (UInt16.code version))).text.toList :=
      not_mem_hex16 hc
    exact hnone (not_mem_tagged_list hc _ (by decide) hversion versions) rfl
  | cookie data => exact hnone (not_mem_writeData hc _ (by decide) data) rfl
  | pskExchangeModes modes =>
    have hmode : ∀ mode : UInt8, c ∉ (plain (hex8 (UInt8.code mode))).text.toList :=
      not_mem_hex8 hc
    exact hnone (not_mem_tagged_list hc _ (by decide) hmode modes) rfl
  | heartbeat mode => exact hnone (not_mem_number hc "Heartbeat" (by decide) mode) rfl
  | signedCertificateTimestamp data => exact hnone (not_mem_writeData hc _ (by decide) data) rfl
  | padding data => exact hnone (not_mem_writeData hc _ (by decide) data) rfl
  | encryptThenMac => exact hnone (not_mem_plain hc _ (by decide)) rfl
  | extendedMasterSecret => exact hnone (not_mem_plain hc _ (by decide)) rfl
  | nextProtocolNegotiation => exact hnone (not_mem_plain hc _ (by decide)) rfl
  | renegotiationInfo data => exact hnone (not_mem_writeData hc _ (by decide) data) rfl
  | unknown id data =>
    refine hnone ?_ rfl
    have ho := not_mem_of_isPlain hc "Unknown(id=" (by decide)
    have hm := not_mem_of_isPlain hc ",data=" (by decide)
    have hd := not_mem_of_isPlain hc ")" (by decide)
    have hl := not_mem_listing hc data
    have hx : c ∉ (hexUnpadded (UInt16.code id)).toList := not_mem_hexUnpadded hc id.toNat
    simp only [write, text_plain, String.toList_append, List.mem_append, ho, hm, hd, hl, hx,
      or_self, not_false_eq_true]

end Extension

namespace Message

open Rendered

/-- A pair of algorithms as a record holds no unprintable character that no name holds. -/
theorem not_mem_writeAlgorithm (hc : ¬IsPrintableAscii c) (h : registries.AllAvoid c)
    (algorithm : HashSignAlgorithm) :
    c ∉ (writeAlgorithm registries algorithm).text.toList := by
  refine not_mem_record hc .hashSignAlgorithm rfl ?_
  simp only [List.forall_mem_cons]
  exact ⟨Registries.not_mem_write_unprintable hc h .hashAlgorithm algorithm.hash.toNat,
    Registries.not_mem_write_unprintable hc h .signatureAlgorithm algorithm.sign.toNat, nofun⟩

/-- A message holds no unprintable character that no name of a code holds. -/
theorem not_mem_write (hc : ¬IsPrintableAscii c) (h : registries.AllAvoid c) (m : Message) :
    c ∉ (m.write registries).text.toList := by
  have hcode : ∀ (kind : RegistryKind) (n : Nat),
    c ∉ (registries.write kind n).text.toList := Registries.not_mem_write_unprintable hc h
  have hlisting : ∀ data : Bytes, c ∉ (plain data.listing).text.toList := not_mem_listing hc
  have hoptional : ∀ data, c ∉ (plain (Bytes.listingOrNone data)).text.toList :=
    not_mem_listingOrNone hc
  have hnumber : ∀ n : Nat, c ∉ (plain (decimal n)).text.toList := not_mem_decimal hc
  have hversion : ∀ version : UInt16, c ∉ (plain (hex16 (UInt16.code version))).text.toList :=
    not_mem_hex16 hc
  have hoctet : ∀ value : UInt8, c ∉ (plain (hex8 (UInt8.code value))).text.toList :=
    not_mem_hex8 hc
  cases m with
  | recordHeader header =>
    refine not_mem_record hc .recordHeader rfl ?_
    simp only [List.forall_mem_cons]
    exact ⟨hoctet _, hversion _, hnumber _, nofun⟩
  | alert notice =>
    refine not_mem_record hc .alert rfl ?_
    simp only [List.forall_mem_cons]
    exact ⟨hcode _ notice.severity.toNat, hnumber notice.code.toNat, nofun⟩
  | clientHello hello =>
    refine not_mem_record hc .clientHello rfl ?_
    simp only [List.forall_mem_cons]
    exact ⟨hversion _, hnumber _, hlisting _, hoptional _,
      not_mem_list hc (fun cipher : UInt16 => hcode .cipherSuite cipher.toNat) _,
      not_mem_list hc hoctet _, hoptional _, nofun⟩
  | serverHello hello =>
    refine not_mem_record hc .serverHello rfl ?_
    simp only [List.forall_mem_cons]
    exact ⟨hversion _, hnumber _, hlisting _, hoptional _, hcode _ hello.cipher.toNat,
      hoctet _, hoptional _, nofun⟩
  | serverHelloV13 hello =>
    refine not_mem_record hc .serverHelloV13 rfl ?_
    simp only [List.forall_mem_cons]
    exact ⟨hversion _, hlisting _, hcode _ hello.cipher.toNat, hoptional _, nofun⟩
  | helloRetryRequest request =>
    refine not_mem_record hc .helloRetryRequest rfl ?_
    simp only [List.forall_mem_cons]
    exact ⟨hversion _, hoptional _, nofun⟩
  | rawCertificate certificate =>
    refine not_mem_record hc .rawCertificate rfl ?_
    simp only [List.forall_mem_cons]
    exact ⟨hlisting _, nofun⟩
  | serverKeyExchange exchange =>
    refine not_mem_record hc .serverKeyExchange rfl ?_
    simp only [List.forall_mem_cons]
    exact ⟨hlisting _, nofun⟩
  | clientKeyExchange exchange =>
    refine not_mem_record hc .clientKeyExchange rfl ?_
    simp only [List.forall_mem_cons]
    exact ⟨hlisting _, nofun⟩
  | serverDHParams params =>
    refine not_mem_record hc .serverDHParams rfl ?_
    simp only [List.forall_mem_cons]
    exact ⟨hnumber _, hlisting _, hlisting _, hlisting _, nofun⟩
  | hashSignAlgorithm algorithm => exact not_mem_writeAlgorithm hc h algorithm
  | digitallySigned signed =>
    refine not_mem_record hc .digitallySigned rfl ?_
    simp only [List.forall_mem_cons]
    exact ⟨not_mem_writeAlgorithm hc h _, hlisting _, nofun⟩

end Message

/-- The octets that a model is written with as they were sent. -/
def Model.rawTexts : Model → List Bytes
  | .extension content => content.rawTexts
  | _ => []

/-- A model of a kind that shows no raw text has none. -/
theorem Model.rawTexts_eq_nil {model : Model} (h : model.kind.showsRawText = false) :
    model.rawTexts = [] := by
  cases model with
  | extension content =>
    cases content with
    | sni names => cases h
    | alpn protocols => cases h
    | _ => rfl
  | _ => rfl

/-- An unprintable character that no name of a code holds comes into a rendering only
with octets that are written as they were sent. -/
theorem Model.mem_rendered_iff (hc : ¬IsPrintableAscii c) (h : registries.AllAvoid c)
    {model : Model} {rendered : Rendered} (hr : model.rendered registries = .ok rendered) :
    c ∈ rendered.text.toList ↔
      ∃ data ∈ model.rawTexts, c ∈ (Rendered.ofOctets data).text.toList := by
  rcases Model.written_of_rendered hr with ⟨content, rfl, rfl⟩ | ⟨content, rfl, rfl⟩
  · simp only [rawTexts, content.not_mem_write hc h, List.not_mem_nil, false_and, exists_false]
  · exact content.mem_write_iff hc h

end TlsTranscript
