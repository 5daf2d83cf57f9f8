import TlsTranscript.Proofs.Check.Schema

/-!
# Checked fields

What a check makes of the data that it is given. Each field of a checked model is the
very value that is given under its name, read as its type says: an integer field has the
integer that the datum stands for, which was within the limits of the field before it
was stored. A field that is left out has its preset value. So nothing is cut off or
wrapped around on the way into a model.
-/

namespace TlsTranscript

open Check

namespace Datum

/-- The items of a datum that is taken as a list. -/
def sequence? : Datum → Option (List Datum)
  | .list items => some items
  | .tuple items => some items
  | .model value => some value.pairs
  | _ => none

end Datum

namespace FieldType

/-- What a datum is read as in a field of a type. -/
def Reads : FieldType → Datum → Datum → Prop
  | .number limit, given, shown =>
      ∃ n : Nat, integer given = .valid n ∧ shown = .integer n ∧ ∀ most ∈ limit, n ≤ most
  | .octets, given, shown => ∃ data, Check.octets given = .valid data ∧ shown = .octets data
  | .text, given, shown => ∃ content, Check.text given = .valid content ∧ shown = .text content
  | .tag expected, given, shown => given = .text expected ∧ shown = .text expected
  | .algorithm, given, shown =>
      ∃ pair : HashSignAlgorithm, shown = .model (.message (.hashSignAlgorithm pair)) ∧
        (given = shown ∨ ∃ entries, given = .table entries ∧
          ∀ field ∈ pair.fields, ∃ datum, Keyed.get? field.1 (Datum.words entries) = some datum ∧
            ∃ n : Nat, integer datum = .valid n ∧ field.2 = .integer n ∧ n ≤ 0xFF)
  | .optional content, given, shown =>
      given = .absent ∧ shown = .absent ∨ given ≠ .absent ∧ content.Reads given shown
  | .list item, given, shown =>
      ∃ items values, given.sequence? = some items ∧ shown = .list values ∧
        List.Forall₂ item.Reads items values
  | .pair first second, given, shown =>
      ∃ a b x y, given.sequence? = some [a, b] ∧ shown = .tuple [x, y] ∧
        first.Reads a x ∧ second.Reads b y

/-- A check belongs to a type if what it accepts is read as the type says. -/
def Describes {α : Type} (type : FieldType) (check : Datum → Checked α) (shown : α → Datum) :
    Prop :=
  ∀ given value, check given = .valid value → type.Reads given (shown value)

end FieldType

/-- A field of a checked model is filled from named data: with what is given under the
declared name, or with what stands in for it. -/
structure Declared.Filled (entries : Keyed String Datum) (declared : Declared)
    (field : String × Datum) : Prop where
  /-- The field has the declared name. -/
  name : field.1 = declared.name
  /-- What is given is read as the type says. -/
  given : ∀ datum, Keyed.get? declared.name entries = some datum →
    declared.type.Reads datum field.2
  /-- What is left out has a value that stands in for it. -/
  leftOut : Keyed.get? declared.name entries = none → declared.preset = some field.2

namespace Checked

variable {α β : Type}

/-- A changed value is valid exactly if the value is. -/
theorem map_eq_valid {f : α → β} {value : Checked α} {result : β} :
    map f value = .valid result ↔ ∃ a, value = .valid a ∧ f a = result := by
  cases value <;> simp [map]

/-- A result that may still be refused is valid if both checks accept it. -/
theorem andThen_eq_valid {value : Checked α} {next : α → Checked β} {result : β} :
    andThen value next = .valid result ↔ ∃ a, value = .valid a ∧ next a = .valid result := by
  cases value <;> simp [andThen]

end Checked

namespace FieldType

/-- A natural number is the integer that a datum stands for. -/
theorem integer_of_natural {given : Datum} {n : Nat} (h : natural given = .valid n) :
    integer given = .valid n := by
  obtain ⟨value, hi, hn⟩ := Checked.andThen_eq_valid.mp h
  cases value with
  | ofNat m =>
    obtain rfl : m = n := Checked.valid.inj hn
    exact hi
  | negSucc m => cases hn

/-- A natural number up to a limit is the integer that a datum stands for. -/
theorem integer_of_naturalUpTo {limit : Nat} {given : Datum} {n : Nat}
    (h : naturalUpTo limit given = .valid n) : integer given = .valid n ∧ n ≤ limit := by
  obtain ⟨m, hm, hn⟩ := Checked.andThen_eq_valid.mp h
  by_cases hl : m ≤ limit
  · rw [if_pos hl] at hn
    obtain rfl : m = n := Checked.valid.inj hn
    exact ⟨integer_of_natural hm, hl⟩
  · rw [if_neg hl] at hn
    cases hn

/-- A number without a limit. -/
theorem describes_natural : (number none).Describes natural fun n => .integer n :=
  fun _ n h => ⟨n, integer_of_natural h, rfl, by simp⟩

/-- A number of one octet is stored as it is. -/
theorem describes_octet : octet.Describes Check.octet .ofOctet := by
  intro given value h
  obtain ⟨n, hn, rfl⟩ := Checked.map_eq_valid.mp h
  obtain ⟨hi, hl⟩ := integer_of_naturalUpTo hn
  have hsame : (UInt8.ofNat n).toNat = n := UInt8.toNat_ofNat_of_lt' (Nat.lt_succ_of_le hl)
  exact ⟨n, hi, by rw [Datum.ofOctet, hsame]; rfl, by simpa using hl⟩

/-- A number of two octets is stored as it is. -/
theorem describes_twoOctets : twoOctets.Describes Check.twoOctets .ofPair := by
  intro given value h
  obtain ⟨n, hn, rfl⟩ := Checked.map_eq_valid.mp h
  obtain ⟨hi, hl⟩ := integer_of_naturalUpTo hn
  have hsame : (UInt16.ofNat n).toNat = n := UInt16.toNat_ofNat_of_lt' (Nat.lt_succ_of_le hl)
  exact ⟨n, hi, by rw [Datum.ofPair, hsame]; rfl, by simpa using hl⟩

/-- A number of four octets is stored as it is. -/
theorem describes_fourOctets :
    fourOctets.Describes Check.fourOctets fun value => .integer value.toNat := by
  intro given value h
  obtain ⟨n, hn, rfl⟩ := Checked.map_eq_valid.mp h
  obtain ⟨hi, hl⟩ := integer_of_naturalUpTo hn
  have hsame : (UInt32.ofNat n).toNat = n := UInt32.toNat_ofNat_of_lt' (Nat.lt_succ_of_le hl)
  exact ⟨n, hi, congrArg (fun m : Nat => Datum.integer m) hsame, by simpa using hl⟩

/-- Octets. -/
theorem describes_octets : octets.Describes Check.octets .octets :=
  fun _ data h => ⟨data, h, rfl⟩

/-- A text. -/
theorem describes_text : text.Describes Check.text .text :=
  fun _ content h => ⟨content, h, rfl⟩

/-- A value that is there is checked like one that has to be. -/
theorem optional_of_ne {α : Type} {check : Datum → Checked α} {given : Datum}
    (h : given ≠ .absent) : Check.optional check given = (check given).map some := by
  cases given with
  | absent => exact absurd rfl h
  | _ => rfl

/-- Octets that may be missing. -/
theorem describes_optional : (optional octets).Describes (Check.optional Check.octets)
    .ofOctets? := by
  intro given value h
  by_cases hg : given = .absent
  · subst hg
    obtain rfl := Checked.valid.inj h
    exact .inl ⟨rfl, rfl⟩
  · rw [optional_of_ne hg] at h
    obtain ⟨data, hd, rfl⟩ := Checked.map_eq_valid.mp h
    exact .inr ⟨hg, data, hd, rfl⟩

variable {α β : Type} {first second item : FieldType} {check : Datum → Checked α}
  {other : Datum → Checked β} {shown : α → Datum} {display : β → Datum}

/-- The items of a list are read one by one. -/
theorem reads_itemsFrom (hc : item.Describes check shown) {items : List Datum}
    {values : List α} {index : Nat} (h : itemsFrom check index items = .valid values) :
    List.Forall₂ item.Reads items (values.map shown) := by
  induction items generalizing index values with
  | nil =>
    obtain rfl := Checked.valid.inj h
    exact .nil
  | cons datum rest ih =>
    simp only [itemsFrom, Checked.map_eq, Checked.seq_eq, Checked.apply_eq_valid,
      Checked.map_eq_valid] at h
    obtain ⟨_, others, ⟨value, hv, rfl⟩, ho, rfl⟩ := h
    exact .cons (hc datum value (Checked.within_eq_valid.mp hv)) (ih ho)

/-- A list. -/
theorem describes_list (hc : item.Describes check shown) :
    (list item).Describes (Check.list check) fun values => .list (values.map shown) := by
  intro given values h
  cases given with
  | list items => exact ⟨items, _, rfl, rfl, reads_itemsFrom hc h⟩
  | tuple items => exact ⟨items, _, rfl, rfl, reads_itemsFrom hc h⟩
  | model value => exact ⟨value.pairs, _, rfl, rfl, reads_itemsFrom hc h⟩
  | _ => cases h

/-- The two items of a pair are read one by one. -/
theorem reads_pairItems (ha : first.Describes check shown) (hb : second.Describes other display)
    {surplus : Defect} {items : List Datum} {value : α × β}
    (h : pairItems check other surplus items = .valid value) :
    ∃ a b, items = [a, b] ∧ first.Reads a (shown value.1) ∧ second.Reads b (display value.2) := by
  match items with
  | [] => cases h
  | [a] =>
    simp only [pairItems, Checked.map_eq, Checked.seq_eq, Checked.apply_eq_valid,
      Checked.within_eq_valid] at h
    obtain ⟨_, _, _, hmissing, _⟩ := h
    cases hmissing
  | [a, b] =>
    simp only [pairItems, Checked.map_eq, Checked.seq_eq, Checked.apply_eq_valid,
      Checked.map_eq_valid, Checked.within_eq_valid] at h
    obtain ⟨_, y, ⟨x, hx, rfl⟩, hy, rfl⟩ := h
    exact ⟨a, b, rfl, ha a x hx, hb b y hy⟩
  | _ :: _ :: _ :: _ => cases h

/-- A pair. -/
theorem describes_pair (ha : first.Describes check shown)
    (hb : second.Describes other display) :
    (pair first second).Describes (Check.pair check other) fun value =>
      .tuple [shown value.1, display value.2] := by
  intro given value h
  have hitems : ∃ items, given.sequence? = some items ∧ ∃ surplus,
      pairItems check other surplus items = .valid value := by
    cases given with
    | list items => exact ⟨items, rfl, _, h⟩
    | tuple items => exact ⟨items, rfl, _, h⟩
    | model content => exact ⟨content.pairs, rfl, _, h⟩
    | _ => cases h
  obtain ⟨items, hs, surplus, hp⟩ := hitems
  obtain ⟨a, b, rfl, hx, hy⟩ := reads_pairItems ha hb hp
  exact ⟨a, b, _, _, hs, rfl, hx, hy⟩

end FieldType

namespace Declared

variable {α : Type} {entries : Keyed String Datum} {name : String} {type : FieldType}
  {check : Datum → Checked α} {shown : α → Datum}

/-- A field is filled with what is given. -/
theorem filled_of_given {given value : Datum} (hg : Keyed.get? name entries = some given)
    (hr : type.Reads given value) (preset : Option Datum) :
    Filled entries { name := name, type := type, preset := preset } (name, value) := by
  refine ⟨rfl, fun datum hd => ?_, fun hn => ?_⟩
  · obtain rfl : given = datum := Option.some.inj (hg.symm.trans hd)
    exact hr
  · rw [hg] at hn
    cases hn

/-- A required field is given and read. -/
theorem given_of_required (hc : type.Describes check shown) {value : α}
    (h : required entries name check = .valid value) :
    ∃ given, Keyed.get? name entries = some given ∧ type.Reads given (shown value) := by
  unfold required at h
  cases hg : Keyed.get? name entries with
  | none =>
    rw [hg] at h
    cases h
  | some given =>
    rw [hg] at h
    exact ⟨given, rfl, hc given value (Checked.within_eq_valid.mp h)⟩

/-- A required field is filled with what is given. -/
theorem filled_required (hc : type.Describes check shown) {value : α}
    (h : required entries name check = .valid value) :
    Filled entries { name := name, type := type } (name, shown value) := by
  obtain ⟨given, hg, hr⟩ := given_of_required hc h
  exact filled_of_given hg hr none

/-- A field with a default is filled with what is given or with the default. -/
theorem filled_withDefault (hc : type.Describes check shown) {value preset : α}
    (h : withDefault entries name preset check = .valid value) :
    Filled entries { name := name, type := type, preset := some (shown preset) }
      (name, shown value) := by
  unfold withDefault at h
  cases hg : Keyed.get? name entries with
  | none =>
    rw [hg] at h
    obtain rfl := Checked.valid.inj h
    exact ⟨rfl, fun datum hd => (nomatch hg.symm.trans hd), fun _ => rfl⟩
  | some given =>
    rw [hg] at h
    exact filled_of_given hg (hc given value (Checked.within_eq_valid.mp h)) _

end Declared

open FieldType Declared

/-- A pair of algorithms is read from its two fields. -/
theorem HashSignAlgorithm.ofEntries_eq_valid {entries : Keyed String Datum}
    {pair : HashSignAlgorithm} (h : ofEntries entries = .valid pair) :
    required entries "hash" Check.octet = .valid pair.hash ∧
      required entries "sign" Check.octet = .valid pair.sign := by
  simp only [ofEntries, Checked.map_eq, Checked.seq_eq, Checked.apply_eq_valid,
    Checked.map_eq_valid] at h
  obtain ⟨_, sign, ⟨hash, hh, rfl⟩, hs, rfl⟩ := h
  exact ⟨hh, hs⟩

/-- A pair of algorithms, given as such or by its fields. -/
theorem FieldType.describes_algorithm : algorithm.Describes Check.algorithm fun pair =>
    .model (.message (.hashSignAlgorithm pair)) := by
  intro given pair h
  unfold Check.algorithm at h
  split at h
  · obtain rfl := Checked.valid.inj h
    exact ⟨_, rfl, .inl rfl⟩
  · next entries =>
    obtain ⟨hhash, hsign⟩ := HashSignAlgorithm.ofEntries_eq_valid h
    obtain ⟨hash, hgh, n, hin, hsn, hln⟩ := given_of_required describes_octet hhash
    obtain ⟨sign, hgs, m, him, hsm, hlm⟩ := given_of_required describes_octet hsign
    refine ⟨pair, rfl, .inr ⟨entries, rfl, List.forall_mem_cons.mpr ⟨?_,
      List.forall_mem_singleton.mpr ?_⟩⟩⟩
    · exact ⟨hash, hgh, n, hin, hsn, hln _ rfl⟩
    · exact ⟨sign, hgs, m, him, hsm, hlm _ rfl⟩
  · cases h

/-- The fields of a checked message are filled from the data that it is checked from. -/
theorem MessageKind.filled_of_ofEntries {kind : MessageKind} {entries : Keyed String Datum}
    {content : Message} (h : kind.ofEntries entries = .valid content) :
    content.kind = kind ∧
      List.Forall₂ (Declared.Filled entries) kind.declared content.fields := by
  cases kind with
  | recordHeader =>
    simp only [MessageKind.ofEntries, RecordHeader.ofEntries, Checked.map_eq, Checked.seq_eq,
      Checked.apply_eq_valid, Checked.map_eq_valid] at h
    obtain ⟨_, ⟨_, length, ⟨_, version, ⟨recordType, h1, rfl⟩, h2, rfl⟩, h3, rfl⟩, rfl⟩ := h
    exact ⟨rfl, .cons (filled_required describes_octet h1)
      (.cons (filled_required describes_twoOctets h2)
      (.cons (filled_required describes_natural h3) .nil))⟩
  | alert =>
    simp only [MessageKind.ofEntries, Alert.ofEntries, Checked.map_eq, Checked.seq_eq,
      Checked.apply_eq_valid, Checked.map_eq_valid] at h
    obtain ⟨_, ⟨_, code, ⟨severity, h1, rfl⟩, h2, rfl⟩, rfl⟩ := h
    exact ⟨rfl, .cons (filled_required describes_octet h1)
      (.cons (filled_required describes_octet h2) .nil)⟩
  | clientHello =>
    simp only [MessageKind.ofEntries, ClientHello.ofEntries, Checked.map_eq, Checked.seq_eq,
      Checked.apply_eq_valid, Checked.map_eq_valid] at h
    obtain ⟨_, ⟨_, extensions, ⟨_, compressions, ⟨_, ciphers, ⟨_, sessionId, ⟨_, randData,
      ⟨_, randTime, ⟨version, h1, rfl⟩, h2, rfl⟩, h3, rfl⟩, h4, rfl⟩, h5, rfl⟩, h6, rfl⟩,
      h7, rfl⟩, rfl⟩ := h
    exact ⟨rfl, .cons (filled_required describes_twoOctets h1)
      (.cons (filled_required describes_fourOctets h2)
      (.cons (filled_required describes_octets h3)
      (.cons (filled_withDefault describes_optional h4)
      (.cons (filled_withDefault (describes_list describes_twoOctets) h5)
      (.cons (filled_withDefault (describes_list describes_octet) h6)
      (.cons (filled_withDefault describes_optional h7) .nil))))))⟩
  | serverHello =>
    simp only [MessageKind.ofEntries, ServerHello.ofEntries, Checked.map_eq, Checked.seq_eq,
      Checked.apply_eq_valid, Checked.map_eq_valid] at h
    obtain ⟨_, ⟨_, extensions, ⟨_, compression, ⟨_, cipher, ⟨_, sessionId, ⟨_, randData,
      ⟨_, randTime, ⟨version, h1, rfl⟩, h2, rfl⟩, h3, rfl⟩, h4, rfl⟩, h5, rfl⟩, h6, rfl⟩,
      h7, rfl⟩, rfl⟩ := h
    exact ⟨rfl, .cons (filled_required describes_twoOctets h1)
      (.cons (filled_required describes_fourOctets h2)
      (.cons (filled_required describes_octets h3)
      (.cons (filled_withDefault describes_optional h4)
      (.cons (filled_required describes_twoOctets h5)
      (.cons (filled_required describes_octet h6)
      (.cons (filled_withDefault describes_optional h7) .nil))))))⟩
  | serverHelloV13 =>
    simp only [MessageKind.ofEntries, ServerHelloV13.ofEntries, Checked.map_eq, Checked.seq_eq,
      Checked.apply_eq_valid, Checked.map_eq_valid] at h
    obtain ⟨_, ⟨_, extensions, ⟨_, cipher, ⟨_, random, ⟨version, h1, rfl⟩, h2, rfl⟩, h3, rfl⟩,
      h4, rfl⟩, rfl⟩ := h
    exact ⟨rfl, .cons (filled_required describes_twoOctets h1)
      (.cons (filled_required describes_octets h2)
      (.cons (filled_required describes_twoOctets h3)
      (.cons (filled_withDefault describes_optional h4) .nil)))⟩
  | helloRetryRequest =>
    simp only [MessageKind.ofEntries, HelloRetryRequest.ofEntries, Checked.map_eq,
      Checked.seq_eq, Checked.apply_eq_valid, Checked.map_eq_valid] at h
    obtain ⟨_, ⟨_, extensions, ⟨version, h1, rfl⟩, h2, rfl⟩, rfl⟩ := h
    exact ⟨rfl, .cons (filled_required describes_twoOctets h1)
      (.cons (filled_withDefault describes_optional h2) .nil)⟩
  | rawCertificate =>
    obtain ⟨data, h1, rfl⟩ := Checked.map_eq_valid.mp h
    exact ⟨rfl, .cons (filled_required describes_octets h1) .nil⟩
  | serverKeyExchange =>
    obtain ⟨data, h1, rfl⟩ := Checked.map_eq_valid.mp h
    exact ⟨rfl, .cons (filled_required describes_octets h1) .nil⟩
  | clientKeyExchange =>
    obtain ⟨data, h1, rfl⟩ := Checked.map_eq_valid.mp h
    exact ⟨rfl, .cons (filled_required describes_octets h1) .nil⟩
  | serverDHParams =>
    simp only [MessageKind.ofEntries, ServerDHParams.ofEntries, Checked.map_eq, Checked.seq_eq,
      Checked.apply_eq_valid, Checked.map_eq_valid] at h
    obtain ⟨_, ⟨_, publicValue, ⟨_, generator, ⟨prime, h1, rfl⟩, h2, rfl⟩, h3, rfl⟩, rfl⟩ := h
    exact ⟨rfl, .cons (filled_required describes_octets h1)
      (.cons (filled_required describes_octets h2)
      (.cons (filled_required describes_octets h3) .nil))⟩
  | hashSignAlgorithm =>
    obtain ⟨pair, hp, rfl⟩ := Checked.map_eq_valid.mp h
    obtain ⟨h1, h2⟩ := HashSignAlgorithm.ofEntries_eq_valid hp
    exact ⟨rfl, .cons (filled_required describes_octet h1)
      (.cons (filled_required describes_octet h2) .nil)⟩
  | digitallySigned =>
    simp only [MessageKind.ofEntries, DigitallySigned.ofEntries, Checked.map_eq, Checked.seq_eq,
      Checked.apply_eq_valid, Checked.map_eq_valid] at h
    obtain ⟨_, ⟨_, data, ⟨algorithm, h1, rfl⟩, h2, rfl⟩, rfl⟩ := h
    exact ⟨rfl, .cons (filled_required describes_algorithm h1)
      (.cons (filled_required describes_octets h2) .nil)⟩

namespace ExtensionKind

/-- What a checked extension holds besides its tag is filled from the data that it is
checked from. -/
theorem filled_of_ofPayload {kind : ExtensionKind} {entries : Keyed String Datum}
    {content : Extension} (h : kind.ofPayload entries = .valid content) :
    content.kind = kind ∧
      List.Forall₂ (Declared.Filled entries) kind.declaredPayload content.payload := by
  cases kind with
  | sni =>
    obtain ⟨names, hn, rfl⟩ := Checked.map_eq_valid.mp h
    exact ⟨rfl, .cons (filled_withDefault
      (describes_list (describes_pair describes_octet describes_octets)) hn) .nil⟩
  | maxFragmentLength =>
    obtain ⟨length, hl, rfl⟩ := Checked.map_eq_valid.mp h
    exact ⟨rfl, .cons (filled_required describes_octet hl) .nil⟩
  | statusRequest =>
    obtain ⟨data, hd, rfl⟩ := Checked.map_eq_valid.mp h
    exact ⟨rfl, .cons (filled_withDefault describes_optional hd) .nil⟩
  | ellipticCurves =>
    obtain ⟨groups, hg, rfl⟩ := Checked.map_eq_valid.mp h
    exact ⟨rfl, .cons (filled_withDefault (describes_list describes_twoOctets) hg) .nil⟩
  | ecPointFormats =>
    obtain ⟨formats, hf, rfl⟩ := Checked.map_eq_valid.mp h
    exact ⟨rfl, .cons (filled_withDefault describes_octets hf) .nil⟩
  | signatureAlgorithms =>
    obtain ⟨algorithms, ha, rfl⟩ := Checked.map_eq_valid.mp h
    exact ⟨rfl, .cons (filled_withDefault
      (describes_list (describes_pair describes_octet describes_octet)) ha) .nil⟩
  | sessionTicket =>
    obtain ⟨data, hd, rfl⟩ := Checked.map_eq_valid.mp h
    exact ⟨rfl, .cons (filled_withDefault describes_octets hd) .nil⟩
  | keyShare =>
    obtain ⟨data, hd, rfl⟩ := Checked.map_eq_valid.mp h
    exact ⟨rfl, .cons (filled_required describes_octets hd) .nil⟩
  | preSharedKey =>
    obtain ⟨data, hd, rfl⟩ := Checked.map_eq_valid.mp h
    exact ⟨rfl, .cons (filled_required describes_octets hd) .nil⟩
  | supportedVersions =>
    obtain ⟨versions, hv, rfl⟩ := Checked.map_eq_valid.mp h
    exact ⟨rfl, .cons (filled_withDefault (describes_list describes_twoOctets) hv) .nil⟩
  | cookie =>
    obtain ⟨data, hd, rfl⟩ := Checked.map_eq_valid.mp h
    exact ⟨rfl, .cons (filled_required describes_octets hd) .nil⟩
  | pskExchangeModes =>
    obtain ⟨modes, hm, rfl⟩ := Checked.map_eq_valid.mp h
    exact ⟨rfl, .cons (filled_withDefault (describes_list describes_octet) hm) .nil⟩
  | heartbeat =>
    obtain ⟨mode, hm, rfl⟩ := Checked.map_eq_valid.mp h
    exact ⟨rfl, .cons (filled_required describes_octet hm) .nil⟩
  | alpn =>
    obtain ⟨protocols, hp, rfl⟩ := Checked.map_eq_valid.mp h
    exact ⟨rfl, .cons (filled_withDefault (describes_list describes_octets) hp) .nil⟩
  | signedCertificateTimestamp =>
    obtain ⟨data, hd, rfl⟩ := Checked.map_eq_valid.mp h
    exact ⟨rfl, .cons (filled_withDefault describes_optional hd) .nil⟩
  | padding =>
    obtain ⟨data, hd, rfl⟩ := Checked.map_eq_valid.mp h
    exact ⟨rfl, .cons (filled_withDefault describes_octets hd) .nil⟩
  | renegotiationInfo =>
    obtain ⟨data, hd, rfl⟩ := Checked.map_eq_valid.mp h
    exact ⟨rfl, .cons (filled_withDefault describes_octets hd) .nil⟩
  | unknown =>
    simp only [ofPayload, Checked.map_eq, Checked.seq_eq, Checked.apply_eq_valid,
      Checked.map_eq_valid] at h
    obtain ⟨_, data, ⟨id, h1, rfl⟩, h2, rfl⟩ := h
    exact ⟨rfl, .cons (filled_required describes_twoOctets h1)
      (.cons (filled_withDefault describes_octets h2) .nil)⟩
  | _ =>
    obtain rfl := Checked.valid.inj h
    exact ⟨rfl, .nil⟩

/-- A tag is accepted only if it is that of the kind. -/
theorem describes_checkTag (kind : ExtensionKind) :
    (FieldType.tag kind.tag).Describes kind.checkTag fun _ => .text kind.tag := by
  intro given value h
  cases given with
  | text found =>
    simp only [checkTag] at h
    split at h
    · next hf => exact ⟨congrArg Datum.text hf, rfl⟩
    · cases h
  | _ => cases h

/-- The fields of a checked extension are filled from the data that it is checked
from. -/
theorem filled_of_ofEntries {kind : ExtensionKind} {entries : Keyed String Datum}
    {content : Extension} (h : kind.ofEntries entries = .valid content) :
    content.kind = kind ∧
      List.Forall₂ (Declared.Filled entries) kind.declared content.fields := by
  simp only [ofEntries, Checked.map_eq, Checked.seq_eq, Checked.apply_eq_valid,
    Checked.map_eq_valid] at h
  obtain ⟨_, found, ⟨_, ht, rfl⟩, hp, rfl⟩ := h
  obtain ⟨hk, hfields⟩ := filled_of_ofPayload hp
  have htag := filled_withDefault (describes_checkTag kind) ht
  refine ⟨hk, .cons ?_ hfields⟩
  rw [hk]
  exact htag

end ExtensionKind

/-- What a checked model is made of: it is of the kind that was asked for, and each
declared field is filled from the named data that it was checked from. -/
structure Model.MadeOf (model : Model) (kind : ModelKind) (entries : Keyed String Datum) :
    Prop where
  /-- The model is of the kind. -/
  ofKind : model.kind = kind
  /-- Each field is filled as it is declared. -/
  filled : List.Forall₂ (Declared.Filled entries) kind.declared model.fields

/-- A checked model is made of the data that it was checked from. -/
theorem ModelKind.madeOf_of_ofEntries {kind : ModelKind} {entries : Keyed String Datum}
    {model : Model} (h : kind.ofEntries entries = .valid model) : model.MadeOf kind entries := by
  cases kind with
  | parsed =>
    obtain rfl := Checked.valid.inj h
    exact ⟨rfl, .nil⟩
  | bareExtension =>
    obtain rfl := Checked.valid.inj h
    exact ⟨rfl, .nil⟩
  | message kind =>
    obtain ⟨content, hc, rfl⟩ := Checked.map_eq_valid.mp h
    obtain ⟨hk, hfields⟩ := MessageKind.filled_of_ofEntries hc
    exact ⟨congrArg ModelKind.message hk, hfields⟩
  | extension kind =>
    obtain ⟨content, hc, rfl⟩ := Checked.map_eq_valid.mp h
    obtain ⟨hk, hfields⟩ := ExtensionKind.filled_of_ofEntries hc
    exact ⟨congrArg ModelKind.extension hk, hfields⟩
  | settings =>
    simp only [ModelKind.ofEntries, Settings.ofEntries, Checked.map_eq, Checked.seq_eq,
      Checked.apply_eq_valid, Checked.map_eq_valid] at h
    obtain ⟨_, ⟨_, directory, ⟨level, h1, rfl⟩, h2, rfl⟩, rfl⟩ := h
    exact ⟨rfl, .cons (filled_withDefault describes_text h1)
      (.cons (filled_withDefault describes_text h2) .nil)⟩

end TlsTranscript
