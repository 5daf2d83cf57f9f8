import TlsTranscript.Extension.Written
import TlsTranscript.Proofs.Text.Listing
import TlsTranscript.Proofs.Writing.Codes

/-!
# Written extensions told apart

Every extension begins with a name that only its kind has, and what stands behind
the name is never a letter. Between extensions of one kind the texts in
parentheses decide: they are legible in front of every rest except for names of
servers and protocols, which are shown as they are, and for pairs of algorithms,
which are as legible as the names of the algorithms.
-/

namespace TlsTranscript

open Text Rendered

/-- The name under which the extensions of a kind are written. -/
def ExtensionKind.front : ExtensionKind → String
  | .unknown => "Unknown"
  | kind => kind.name

/-- A list with the way its items are written. -/
theorem Rendered.toList_list (items : List Rendered) :
    (list items).text.toList =
      '[' :: (',' :: [' ']).intercalate (items.map fun item => item.text.toList) ++ [']'] := by
  simp [list, join, String.toList_intercalate, Function.comp_def]

/-- A named value in parentheses has its name in front of the parenthesis. -/
theorem Rendered.toList_tagged (name : String) (content : Rendered) :
    (tagged name content).text.toList =
      name.toList ++ '(' :: (content.text.toList ++ [')']) := by
  simp [tagged]

/-- A list of items is legible in front of every rest, if its items are legible in
front of a comma or a closing bracket and none of them begins with the bracket. -/
theorem Rendered.legible_list {α : Type} {write : α → Rendered}
    (h : Legible (fun c => c = ',' ∨ c = ']') fun a => (write a).text.toList)
    (hfirst : ∀ a, ∃ c rest, (write a).text.toList = c :: rest ∧ c ≠ ']') :
    Legible (fun _ => True) fun items : List α => (list (items.map write)).text.toList := by
  simp only [toList_list, List.map_map, Function.comp_def]
  exact h.bracketed (by decide) [' '] hfirst

/-- A named value in parentheses is legible in front of every rest, if the value is
legible in front of a closing parenthesis. -/
theorem Rendered.legible_tagged {α : Type} {write : α → Rendered}
    (h : Legible (· = ')') fun a => (write a).text.toList) (name : String) :
    Legible (fun _ => True) fun a => (tagged name (write a)).text.toList := by
  have hc := (h.close rfl fun _ => []).prepend (name.toList ++ ['('])
  simpa only [toList_tagged, List.append_assoc, List.cons_append, List.nil_append] using hc

namespace Extension

/-- A name with octets that may be missing has its name in front of the
parenthesis. -/
theorem toList_writeData (name : String) (data : Option Bytes) :
    (writeData name data).text.toList =
      name.toList ++ '(' :: ("data=".toList ++ (Bytes.listingOrNone data).toList ++ [')']) := by
  simp [writeData]

/-- A name with a number in parentheses has its name in front of the parenthesis. -/
theorem toList_number (name : String) (value : UInt8) :
    (plain (name ++ "(" ++ decimal (UInt8.code value) ++ ")")).text.toList =
      name.toList ++ '(' :: ((decimal (UInt8.code value)).toList ++ [')']) := by
  simp

/-- An unknown extension has its name in front of the parenthesis. -/
theorem toList_unknown (registries : Registries) (id : UInt16) (data : Bytes) :
    ((unknown id data).write registries).text.toList =
      "Unknown".toList ++ '(' :: ("id=".toList ++ (hexUnpadded (UInt16.code id)).toList ++
        ',' :: ("data=".toList ++ data.listing.toList ++ [')'])) := by
  simp [write]

/-- Every extension begins with the name of its kind, and behind the name stands a
parenthesis or nothing. -/
theorem toList_write (registries : Registries) (e : Extension) :
    ∃ rest, (e.write registries).text.toList = e.kind.front.toList ++ rest ∧
      Begins (· = '(') rest := by
  cases e with
  | sni names => exact ⟨_, toList_tagged _ _, by simp⟩
  | maxFragmentLength length => exact ⟨_, toList_number "MaxFragmentLength" length, by simp⟩
  | statusRequest data => exact ⟨_, toList_writeData _ _, by simp⟩
  | ellipticCurves groups => exact ⟨_, toList_tagged _ _, by simp⟩
  | ecPointFormats formats => exact ⟨_, toList_writeData _ _, by simp⟩
  | signatureAlgorithms algorithms => exact ⟨_, toList_tagged _ _, by simp⟩
  | sessionTicket data => exact ⟨_, toList_writeData _ _, by simp⟩
  | keyShare data => exact ⟨_, toList_writeData _ _, by simp⟩
  | preSharedKey data => exact ⟨_, toList_writeData _ _, by simp⟩
  | earlyData => exact ⟨[], (List.append_nil _).symm, by simp⟩
  | supportedVersions versions => exact ⟨_, toList_tagged _ _, by simp⟩
  | cookie data => exact ⟨_, toList_writeData _ _, by simp⟩
  | pskExchangeModes modes => exact ⟨_, toList_tagged _ _, by simp⟩
  | heartbeat mode => exact ⟨_, toList_number "Heartbeat" mode, by simp⟩
  | alpn protocols => exact ⟨_, toList_tagged _ _, by simp⟩
  | signedCertificateTimestamp data => exact ⟨_, toList_writeData _ _, by simp⟩
  | padding data => exact ⟨_, toList_writeData _ _, by simp⟩
  | encryptThenMac => exact ⟨[], (List.append_nil _).symm, by simp⟩
  | extendedMasterSecret => exact ⟨[], (List.append_nil _).symm, by simp⟩
  | nextProtocolNegotiation => exact ⟨[], (List.append_nil _).symm, by simp⟩
  | renegotiationInfo data => exact ⟨_, toList_writeData _ _, by simp⟩
  | unknown id data => exact ⟨_, toList_unknown registries id data, by simp⟩

/-- A name with octets that may be missing is legible in front of every rest. -/
theorem legible_writeData (name : String) :
    Legible (fun _ => True) fun data : Option Bytes => (writeData name data).text.toList := by
  have hl : Legible (fun _ => True) fun data : Option Bytes =>
      (Bytes.listingOrNone data).toList ++ [')'] := legible_listingOrNone.close trivial fun _ => []
  have hf := hl.prepend (name.toList ++ '(' :: "data=".toList)
  simpa only [toList_writeData, List.append_assoc, List.cons_append] using hf

/-- A name with a number in parentheses is legible in front of every rest. -/
theorem legible_number (name : String) :
    Legible (fun _ => True) fun value : UInt8 =>
      (plain (name ++ "(" ++ decimal (UInt8.code value) ++ ")")).text.toList := by
  have hd : Legible (fun c => ¬IsNumeral c) fun value : UInt8 =>
      (decimal (UInt8.code value)).toList := legible_decimal.comp fun _ _ => UInt8.toNat_inj.mp
  have hf := (hd.close (c := ')') (by decide) fun _ => []).prepend (name.toList ++ ['('])
  simpa only [toList_number, List.append_assoc, List.cons_append, List.nil_append] using hf

/-- A list of named groups is legible in front of every rest, whatever the names of
the groups are. -/
theorem legible_ellipticCurves (registries : Registries) :
    Legible (fun _ => True) fun groups =>
      ((ellipticCurves groups).write registries).text.toList := by
  have hitem := registries.legible_write_pair .namedGroup rfl
  refine legible_tagged ((legible_list (hitem.mono fun _ _ => trivial) fun group => ?_).mono
    fun _ _ => trivial) "EllipticCurves"
  obtain ⟨c, rest, hw, hc⟩ := registries.write_eq_cons .namedGroup rfl
    (UInt16.code group)
  exact ⟨c, rest, hw, by rcases hc with rfl | rfl <;> decide⟩

/-- A list of versions is legible in front of every rest. -/
theorem legible_supportedVersions (registries : Registries) :
    Legible (fun _ => True) fun versions =>
      ((supportedVersions versions).write registries).text.toList := by
  have hitem : Legible (fun _ => True) fun version : UInt16 =>
      (plain (hex16 (UInt16.code version))).text.toList := legible_hex16
  refine legible_tagged ((legible_list (hitem.mono fun _ _ => trivial)
    fun version => ?_).mono fun _ _ => trivial) "SupportedVersions"
  exact ⟨'0', _, String.toList_ofList, by decide⟩

/-- A list of modes is legible in front of every rest. -/
theorem legible_pskExchangeModes (registries : Registries) :
    Legible (fun _ => True) fun modes =>
      ((pskExchangeModes modes).write registries).text.toList := by
  have hitem : Legible (fun _ => True) fun mode : UInt8 =>
      (plain (hex8 (UInt8.code mode))).text.toList := legible_hex8
  refine legible_tagged ((legible_list (hitem.mono fun _ _ => trivial)
    fun mode => ?_).mono fun _ _ => trivial) "PskExchangeModes"
  exact ⟨'0', _, String.toList_ofList, by decide⟩

/-- A pair of algorithms is a parenthesis, two names with a comma between them, and
another parenthesis. -/
theorem toList_writePair (registries : Registries) (pair : UInt8 × UInt8) :
    (writePair registries pair).text.toList =
      '(' :: ((registries.write .hashAlgorithm (UInt8.code pair.1)).text.toList ++
        ',' :: ((registries.write .signatureAlgorithm (UInt8.code pair.2)).text.toList ++
          [')'])) := by
  simp [writePair]

/-- A list of pairs of algorithms is legible in front of every rest, if pairs tell
their codes. -/
theorem legible_signatureAlgorithms {registries : Registries} (h : registries.PairsTell) :
    Legible (fun _ => True) fun algorithms =>
      ((signatureAlgorithms algorithms).write registries).text.toList := by
  have hsign : Legible (fun _ => True) fun code : UInt8 =>
      (registries.write .signatureAlgorithm (UInt8.code code)).text.toList ++ [')'] :=
    (h.legible_sign ')' (by decide)).close rfl fun _ => []
  have hpair := (h.legible_hash.pair rfl hsign).prepend ['(']
  have hitem : Legible (fun _ => True) fun pair =>
      (writePair registries pair).text.toList := by
    simpa only [toList_writePair, List.cons_append, List.nil_append] using hpair
  refine legible_tagged ((legible_list (hitem.mono fun _ _ => trivial)
    fun pair => ?_).mono fun _ _ => trivial) "SignatureAlgorithms"
  exact ⟨'(', _, toList_writePair registries pair, by decide⟩

/-- The number and the octets of an unknown extension are legible in front of every
rest. -/
theorem legible_unknown (registries : Registries) :
    Legible (fun _ => True) fun content : UInt16 × Bytes =>
      ((unknown content.1 content.2).write registries).text.toList := by
  have hid : Legible (fun c => ¬IsNumeral c) fun id : UInt16 =>
      (hexUnpadded (UInt16.code id)).toList :=
    legible_hexUnpadded.comp fun _ _ => UInt16.toNat_inj.mp
  have hdata : Legible (fun _ => True) fun data : Bytes =>
      "data=".toList ++ (data.listing.toList ++ [')']) :=
    (legible_listing.close trivial fun _ => []).prepend _
  have hf := (hid.pair (c := ',') (by decide) hdata).prepend
    ("Unknown".toList ++ '(' :: "id=".toList)
  simpa only [toList_unknown, List.append_assoc, List.cons_append] using hf

/-- Extensions of one kind are told in front of every rest. Names of servers and
protocols are shown as they are and tell nothing. -/
theorem eq_of_write_append {registries : Registries} {first second : Extension}
    (hk : first.kind = second.kind) (hsni : first.kind ≠ .sni) (halpn : first.kind ≠ .alpn)
    (hpairs : first.kind = .signatureAlgorithms → registries.PairsTell) {s t : List Char}
    (he : (first.write registries).text.toList ++ s =
      (second.write registries).text.toList ++ t) : first = second := by
  have hdata : ∀ {name x y},
      (writeData name x).text.toList ++ s = (writeData name y).text.toList ++ t → x = y :=
    fun h => (legible_writeData _).everywhere h
  cases first with
  | sni names => exact absurd rfl hsni
  | maxFragmentLength length =>
    cases second with
    | maxFragmentLength other =>
      rw [(legible_number "MaxFragmentLength").everywhere he]
    | _ => cases hk
  | statusRequest data =>
    cases second with
    | statusRequest other => rw [hdata he]
    | _ => cases hk
  | ellipticCurves groups =>
    cases second with
    | ellipticCurves others => rw [(legible_ellipticCurves registries).everywhere he]
    | _ => cases hk
  | ecPointFormats formats =>
    cases second with
    | ecPointFormats others => rw [Option.some.inj (hdata he)]
    | _ => cases hk
  | signatureAlgorithms algorithms =>
    cases second with
    | signatureAlgorithms others =>
      rw [(legible_signatureAlgorithms (hpairs rfl)).everywhere he]
    | _ => cases hk
  | sessionTicket data =>
    cases second with
    | sessionTicket other => rw [Option.some.inj (hdata he)]
    | _ => cases hk
  | keyShare data =>
    cases second with
    | keyShare other => rw [Option.some.inj (hdata he)]
    | _ => cases hk
  | preSharedKey data =>
    cases second with
    | preSharedKey other => rw [Option.some.inj (hdata he)]
    | _ => cases hk
  | earlyData =>
    cases second with
    | earlyData => rfl
    | _ => cases hk
  | supportedVersions versions =>
    cases second with
    | supportedVersions others => rw [(legible_supportedVersions registries).everywhere he]
    | _ => cases hk
  | cookie data =>
    cases second with
    | cookie other => rw [Option.some.inj (hdata he)]
    | _ => cases hk
  | pskExchangeModes modes =>
    cases second with
    | pskExchangeModes others => rw [(legible_pskExchangeModes registries).everywhere he]
    | _ => cases hk
  | heartbeat mode =>
    cases second with
    | heartbeat other => rw [(legible_number "Heartbeat").everywhere he]
    | _ => cases hk
  | alpn protocols => exact absurd rfl halpn
  | signedCertificateTimestamp data =>
    cases second with
    | signedCertificateTimestamp other => rw [hdata he]
    | _ => cases hk
  | padding data =>
    cases second with
    | padding other => rw [Option.some.inj (hdata he)]
    | _ => cases hk
  | encryptThenMac =>
    cases second with
    | encryptThenMac => rfl
    | _ => cases hk
  | extendedMasterSecret =>
    cases second with
    | extendedMasterSecret => rfl
    | _ => cases hk
  | nextProtocolNegotiation =>
    cases second with
    | nextProtocolNegotiation => rfl
    | _ => cases hk
  | renegotiationInfo data =>
    cases second with
    | renegotiationInfo other => rw [Option.some.inj (hdata he)]
    | _ => cases hk
  | unknown id data =>
    cases second with
    | unknown other others =>
      have hp : (id, data) = (other, others) := (legible_unknown registries).everywhere he
      rw [(Prod.mk.inj hp).1, (Prod.mk.inj hp).2]
    | _ => cases hk

end Extension

end TlsTranscript
