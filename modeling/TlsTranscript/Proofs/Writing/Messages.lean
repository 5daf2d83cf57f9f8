import TlsTranscript.Message.Written
import TlsTranscript.Proofs.Writing.Extensions

/-!
# Written messages told apart

A message begins with the name of its kind. Its fields are told one after the
other, each in front of the comma behind it, and the last one in front of the
closing brace. An alert is told from its end, since its severity shows a name
alone; a pair of algorithms is told as far as its names tell their codes.
-/

namespace TlsTranscript

open Text Rendered

/-- The fields of a record as they are written, up to the closing brace. -/
def Rendered.fieldsText (fields : List (String × List Char)) : List Char :=
  (',' :: [' ']).intercalate (fields.map fun field =>
    field.1.toList ++ ':' :: ' ' :: field.2) ++ [' ', '\x7d']

/-- A record begins with its name, and its fields follow behind a brace. -/
theorem Rendered.toList_record (name : String) (fields : List (String × Rendered)) :
    (record name fields).text.toList = name.toList ++ ' ' :: '\x7b' :: ' ' ::
      fieldsText (fields.map fun entry => (entry.1, entry.2.text.toList)) := by
  simp [record, field, fieldsText, join, String.toList_intercalate, Function.comp_def]

/-- The first of several fields, and the others behind a comma. -/
theorem Rendered.fieldsText_cons (label : String) (value : List Char)
    (field : String × List Char) (fields : List (String × List Char)) :
    fieldsText ((label, value) :: field :: fields) = label.toList ++ ':' :: ' ' ::
      (value ++ ',' :: ' ' :: fieldsText (field :: fields)) := by
  simp [fieldsText, intercalate_cons]

/-- A single field and the closing brace. -/
theorem Rendered.fieldsText_singleton (label : String) (value : List Char) :
    fieldsText [(label, value)] = label.toList ++ ':' :: ' ' ::
      (value ++ [' ', '\x7d']) := by
  simp [fieldsText]

section Fields

variable {α : Type} {allowed : Char → Prop} {write : α → List Char} {a b : α} {label : String}

/-- The first of several fields is told, if its value is legible in front of a
comma. -/
theorem Rendered.field_eq (h : Legible allowed write) (hc : allowed ',')
    {field other : String × List Char} {fields others : List (String × List Char)}
    (he : fieldsText ((label, write a) :: field :: fields) =
      fieldsText ((label, write b) :: other :: others)) :
    a = b ∧ fieldsText (field :: fields) = fieldsText (other :: others) := by
  simp only [fieldsText_cons, List.append_cancel_left_eq, List.cons.injEq, true_and] at he
  obtain ⟨hab, hr⟩ := h.eq_of_append (by simpa using hc) (by simpa using hc) he
  simp only [List.cons.injEq, true_and] at hr
  exact ⟨hab, hr⟩

/-- The last field is told, if its value is legible at all. -/
theorem Rendered.field_eq_last (h : Legible allowed write)
    (he : fieldsText [(label, write a)] = fieldsText [(label, write b)]) : a = b := by
  simp only [fieldsText_singleton, List.append_cancel_left_eq, List.cons.injEq, true_and,
    List.append_cancel_right_eq] at he
  exact h.injective he

end Fields

namespace Message

variable {registries : Registries}

/-- Every message begins with the name of its kind, and behind the name stands a
space. -/
theorem toList_write (registries : Registries) (m : Message) :
    ∃ rest, (m.write registries).text.toList = m.kind.name.toList ++ ' ' :: rest := by
  cases m <;> exact ⟨_, toList_record _ _⟩

/-- A list of cipher suites is legible in front of every rest, whatever the names of
the suites are. -/
theorem legible_ciphers (registries : Registries) :
    Legible (fun _ => True) fun ciphers : List UInt16 => (list (ciphers.map fun cipher =>
      registries.write .cipherSuite (UInt16.code cipher))).text.toList := by
  have hitem := registries.legible_write_pair .cipherSuite rfl
  refine legible_list (hitem.mono fun _ _ => trivial) fun cipher => ?_
  obtain ⟨c, rest, hw, hc⟩ := registries.write_eq_cons .cipherSuite rfl
    (UInt16.code cipher)
  exact ⟨c, rest, hw, by rcases hc with rfl | rfl <;> decide⟩

/-- A list of compression methods is legible in front of every rest. -/
theorem legible_compressions :
    Legible (fun _ => True) fun methods : List UInt8 => (list (methods.map fun method =>
      plain (hex8 (UInt8.code method)))).text.toList := by
  have hitem : Legible (fun _ => True) fun method : UInt8 =>
      (plain (hex8 (UInt8.code method))).text.toList := legible_hex8
  exact legible_list (hitem.mono fun _ _ => trivial) fun _ =>
    ⟨'0', _, String.toList_ofList, by decide⟩

/-- The time part of a random value is legible in front of everything but a
numeral. -/
theorem legible_time :
    Legible (fun c => ¬IsNumeral c) fun time : UInt32 => (decimal time.toNat).toList :=
  legible_decimal.comp fun _ _ => UInt32.toNat_inj.mp

/-- The characters of a pair of algorithms as a record. -/
theorem toList_writeAlgorithm (registries : Registries) (algorithm : HashSignAlgorithm) :
    (writeAlgorithm registries algorithm).text.toList =
      "HashSignAlgorithm \x7b hash: ".toList ++
        ((registries.write .hashAlgorithm (UInt8.code algorithm.hash)).text.toList ++
          ',' :: (" sign: ".toList ++
            ((registries.write .signatureAlgorithm (UInt8.code algorithm.sign)).text.toList ++
              " \x7d".toList))) := by
  simp [writeAlgorithm, toList_record, fieldsText_cons, fieldsText_singleton]

/-- Pairs of algorithms are legible in front of a comma, if pairs tell their
codes. -/
theorem legible_writeAlgorithm (h : registries.PairsTell) :
    Legible (· = ',') fun algorithm => (writeAlgorithm registries algorithm).text.toList := by
  have hsign : Legible (· = ',') fun code : UInt8 =>
      (registries.write .signatureAlgorithm (UInt8.code code)).text.toList ++ " \x7d".toList := by
    have hcomma : ∀ code : UInt8, ',' ∉
        (registries.write .signatureAlgorithm (UInt8.code code)).text.toList ++ " \x7d".toList := by
      intro code hm
      rcases List.mem_append.mp hm with hm | hm
      · exact h.not_mem_sign (by decide) code.toNat hm
      · exact absurd hm (by decide)
    refine .of_apart (fun a b => apart_of_not_mem (hcomma a) (hcomma b)) fun a b he => ?_
    exact (h.legible_sign ',' (by decide)).injective (List.append_cancel_right he)
  have hf := (h.legible_hash.pair rfl (hsign.prepend " sign: ".toList)).prepend
    "HashSignAlgorithm \x7b hash: ".toList
  have hc := hf.comp (f := fun algorithm : HashSignAlgorithm => (algorithm.hash, algorithm.sign))
    fun ⟨hash, sign⟩ ⟨other, others⟩ he => by
      rw [HashSignAlgorithm.mk.injEq]
      exact Prod.mk.inj he
  simpa only [toList_writeAlgorithm] using hc

/-- Alerts are told, if names of severities tell their codes: the digits at the end
tell the code of the alert, and what is left is the severity alone. -/
theorem eq_of_write_alert (h : registries.NamesTell .alertSeverity) {first second : Alert}
    (he : ((alert first).write registries).text.toList =
      ((alert second).write registries).text.toList) : first = second := by
  have hw : ∀ notice : Alert, ((alert notice).write registries).text.toList =
      "Alert \x7b severity: ".toList ++
        ((((registries.write .alertSeverity (UInt8.code notice.severity)).text.toList ++
          ", code: ".toList) ++ (decimal (UInt8.code notice.code)).toList) ++
            " \x7d".toList) := fun notice => by
    simp [write, toList_record, fieldsText_cons, fieldsText_singleton]
  have hd : ∀ notice : Alert, ∀ c ∈ (decimal (UInt8.code notice.code)).toList, IsNumeral c :=
    fun notice c hc =>
      Digits.isNumeral_of_mem_ofNat (by decide) (by decide) (String.toList_ofList ▸ hc)
  have hb : ∀ x : List Char,
      Begins (fun c => ¬IsNumeral c) (x ++ ", code: ".toList).reverse := fun x => by
    simp only [List.reverse_append]
    exact fun c hc => by
      obtain rfl : ' ' = c := by simpa using hc
      decide
  rw [hw, hw, List.append_cancel_left_eq, List.append_cancel_right_eq] at he
  obtain ⟨hs, hcode⟩ := eq_of_append_class (hd first) (hd second) (hb _) (hb _) he
  rw [List.append_cancel_right_eq] at hs
  have hseverity : first.severity = second.severity :=
    UInt8.toNat_inj.mp (Registries.write_injective rfl h (String.toList_inj.mp hs))
  have hdecimal : first.code = second.code :=
    UInt8.toNat_inj.mp (legible_decimal.injective hcode)
  obtain ⟨severity, code⟩ := first
  obtain ⟨other, others⟩ := second
  rw [Alert.mk.injEq]
  exact ⟨hseverity, hdecimal⟩

/-- The fields of messages of one kind are told, where names alone are shown as far
as these tell their codes. -/
theorem eq_of_write {first second : Message} (hk : first.kind = second.kind)
    (halert : first.kind = .alert → registries.NamesTell .alertSeverity)
    (hpairs : first.kind = .hashSignAlgorithm ∨ first.kind = .digitallySigned →
      registries.PairsTell)
    (he : (first.write registries).text.toList = (second.write registries).text.toList) :
    first = second := by
  have hfields : ∀ {name : String} {fields others : List (String × Rendered)},
      (record name fields).text.toList = (record name others).text.toList →
        fieldsText (fields.map fun entry => (entry.1, entry.2.text.toList)) =
          fieldsText (others.map fun entry => (entry.1, entry.2.text.toList)) := by
    intro name fields others h
    simpa only [toList_record, List.append_cancel_left_eq, List.cons.injEq, true_and] using h
  cases first with
  | recordHeader header =>
    cases second with
    | recordHeader other =>
      have he := hfields he
      obtain ⟨htype, he⟩ := field_eq legible_hex8 trivial he
      obtain ⟨hversion, he⟩ := field_eq legible_hex16 trivial he
      have hlength := field_eq_last legible_decimal he
      rw [recordHeader.injEq, RecordHeader.mk.injEq]
      exact ⟨htype, hversion, hlength⟩
    | _ => cases hk
  | alert notice =>
    cases second with
    | alert other => rw [eq_of_write_alert (halert rfl) he]
    | _ => cases hk
  | clientHello hello =>
    cases second with
    | clientHello other =>
      have he := hfields he
      obtain ⟨hversion, he⟩ := field_eq legible_hex16 trivial he
      obtain ⟨htime, he⟩ := field_eq legible_time (by decide) he
      obtain ⟨hdata, he⟩ := field_eq legible_listing trivial he
      obtain ⟨hsession, he⟩ := field_eq legible_listingOrNone trivial he
      obtain ⟨hciphers, he⟩ := field_eq (legible_ciphers registries) trivial he
      obtain ⟨hmethods, he⟩ := field_eq legible_compressions trivial he
      have hextensions := field_eq_last legible_listingOrNone he
      rw [clientHello.injEq, ClientHello.mk.injEq]
      exact ⟨hversion, htime, hdata, hsession, hciphers, hmethods, hextensions⟩
    | _ => cases hk
  | serverHello hello =>
    cases second with
    | serverHello other =>
      have he := hfields he
      obtain ⟨hversion, he⟩ := field_eq legible_hex16 trivial he
      obtain ⟨htime, he⟩ := field_eq legible_time (by decide) he
      obtain ⟨hdata, he⟩ := field_eq legible_listing trivial he
      obtain ⟨hsession, he⟩ := field_eq legible_listingOrNone trivial he
      obtain ⟨hcipher, he⟩ := field_eq (registries.legible_write_pair .cipherSuite rfl) trivial he
      obtain ⟨hmethod, he⟩ := field_eq legible_hex8 trivial he
      have hextensions := field_eq_last legible_listingOrNone he
      rw [serverHello.injEq, ServerHello.mk.injEq]
      exact ⟨hversion, htime, hdata, hsession, hcipher, hmethod, hextensions⟩
    | _ => cases hk
  | serverHelloV13 hello =>
    cases second with
    | serverHelloV13 other =>
      have he := hfields he
      obtain ⟨hversion, he⟩ := field_eq legible_hex16 trivial he
      obtain ⟨hrandom, he⟩ := field_eq legible_listing trivial he
      obtain ⟨hcipher, he⟩ := field_eq (registries.legible_write_pair .cipherSuite rfl) trivial he
      have hextensions := field_eq_last legible_listingOrNone he
      rw [serverHelloV13.injEq, ServerHelloV13.mk.injEq]
      exact ⟨hversion, hrandom, hcipher, hextensions⟩
    | _ => cases hk
  | helloRetryRequest request =>
    cases second with
    | helloRetryRequest other =>
      have he := hfields he
      obtain ⟨hversion, he⟩ := field_eq legible_hex16 trivial he
      have hextensions := field_eq_last legible_listingOrNone he
      rw [helloRetryRequest.injEq, HelloRetryRequest.mk.injEq]
      exact ⟨hversion, hextensions⟩
    | _ => cases hk
  | rawCertificate certificate =>
    cases second with
    | rawCertificate other =>
      have hdata := field_eq_last legible_listing (hfields he)
      rw [rawCertificate.injEq, RawCertificate.mk.injEq]
      exact hdata
    | _ => cases hk
  | serverKeyExchange exchange =>
    cases second with
    | serverKeyExchange other =>
      have hparameters := field_eq_last legible_listing (hfields he)
      rw [serverKeyExchange.injEq, ServerKeyExchange.mk.injEq]
      exact hparameters
    | _ => cases hk
  | clientKeyExchange exchange =>
    cases second with
    | clientKeyExchange other =>
      have hparameters := field_eq_last legible_listing (hfields he)
      rw [clientKeyExchange.injEq, ClientKeyExchange.mk.injEq]
      exact hparameters
    | _ => cases hk
  | serverDHParams params =>
    cases second with
    | serverDHParams other =>
      obtain ⟨-, he⟩ := field_eq legible_decimal (by decide) (hfields he)
      obtain ⟨hprime, he⟩ := field_eq legible_listing trivial he
      obtain ⟨hgenerator, he⟩ := field_eq legible_listing trivial he
      have hvalue := field_eq_last legible_listing he
      rw [serverDHParams.injEq, ServerDHParams.mk.injEq]
      exact ⟨hprime, hgenerator, hvalue⟩
    | _ => cases hk
  | hashSignAlgorithm algorithm =>
    cases second with
    | hashSignAlgorithm other =>
      rw [(legible_writeAlgorithm (hpairs (.inl rfl))).injective he]
    | _ => cases hk
  | digitallySigned signed =>
    cases second with
    | digitallySigned other =>
      obtain ⟨halgorithm, he⟩ :=
        field_eq (legible_writeAlgorithm (hpairs (.inr rfl))) rfl (hfields he)
      have hdata := field_eq_last legible_listing he
      rw [digitallySigned.injEq, DigitallySigned.mk.injEq]
      exact ⟨halgorithm, hdata⟩
    | _ => cases hk

end Message

end TlsTranscript
