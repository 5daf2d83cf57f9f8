import Mathlib.Data.Set.List
import TlsTranscript.Proofs.Rendering.Trace
import TlsTranscript.Proofs.Text.Utf8Inverse
import TlsTranscript.Proofs.Writing.Extensions
import TlsTranscript.Session.Operation

/-!
# Octets shown as text

Names of servers and protocols are shown as the texts that their octets are the UTF-8 of.
Where there is no such text a placeholder is shown, and this is reported. A list of such
names is shown with commas between its items, and nothing else in it has to be avoided: names
without commas are told one by one, whatever other brackets, labels or line ends they hold.
Only a list without items and a list with one empty item may be taken for each other.
-/

namespace TlsTranscript

open Text

/-- Octets that are the UTF-8 of a text are rendered as the text. -/
theorem Rendered.ofOctets_toUTF8 (text : String) :
    ofOctets text.toUTF8.data.toList = plain text := by
  rw [ofOctets, Utf8.decode_eq_ok_iff.mpr (Utf8.encode_eq_toUTF8 text).symm]

/-- Octets that are the UTF-8 of no text are rendered as the placeholder, with a record. -/
theorem Rendered.ofOctets_of_ne_toUTF8 {data : Bytes}
    (h : ∀ text : String, data ≠ text.toUTF8.data.toList) :
    ofOctets data = ⟨undecodable, [.undecodableText data.quoted]⟩ := by
  rw [ofOctets]
  cases hd : Utf8.decode data with
  | ok text => exact absurd (Utf8.encode_eq_toUTF8 text ▸ Utf8.decode_eq_ok_iff.mp hd) (h text)
  | error fault => rfl

/-- The text of octets on its own is read as it is inside an extension. -/
theorem Datum.runIn_decodedText (data : Bytes) (w : World) :
    (octets data).decodedText.runIn w = (Action.emit (Rendered.ofOctets data)).runIn w := by
  have hoperand : (octets data).octetsOperand = .ok data := rfl
  unfold decodedText
  rw [hoperand, Action.runIn_bind_of_ok (Action.runIn_ofResult _ w), Rendered.ofOctets]
  cases Utf8.decode data with
  | ok text => rfl
  | error fault => rfl

namespace Operation

/-- The answer of the decoder of octets. -/
theorem runIn_decodedText (data : Bytes) (w : World) :
    (decodedText.run [.octets data]).runIn w =
      (.ok (.text (Rendered.ofOctets data).text),
        { w with log := (Rendered.ofOctets data).log.reverse ++ w.log }) :=
  Action.runIn_bind_of_ok (Datum.runIn_decodedText data w)

/-- The decoder of octets inverts the encoding of texts. It answers a text and leaves the
world as it is exactly if the octets are the UTF-8 of this text. Octets that are the UTF-8 of
no text are answered with the placeholder, and exactly this is reported, once and for those
who look for a fault. No octets are refused. -/
theorem run_decodedText_inverts (data : Bytes) :
    (∀ (text : String) (w : World),
      (decodedText.run [.octets data]).runIn w = (.ok (.text text), w) ↔
        data = text.toUTF8.data.toList) ∧
    ((∀ text : String, data ≠ text.toUTF8.data.toList) →
      (∀ w, ((decodedText.run [.octets data]).runIn w).1 =
        .ok (.text "<error decoding utf8 string>")) ∧
      (decodedText.run [.octets data]).Reports [.undecodable data]) ∧
    ∀ w, ∃ text, ((decodedText.run [.octets data]).runIn w).1 = .ok (.text text) := by
  refine ⟨fun text w => ?_, fun h => ?_, fun w => ⟨_, by rw [runIn_decodedText]⟩⟩
  · by_cases h : ∃ decoded : String, data = decoded.toUTF8.data.toList
    · obtain ⟨decoded, rfl⟩ := h
      rw [runIn_decodedText, Rendered.ofOctets_toUTF8]
      constructor
      · intro he
        have htext : decoded = text := Datum.text.inj (Except.ok.inj (Prod.mk.inj he).1)
        rw [htext]
      · intro he
        rw [← Utf8.encode_eq_toUTF8, ← Utf8.encode_eq_toUTF8] at he
        rw [Utf8.encode_injective he]
        rfl
    · -- the record in front of the log tells the placeholder from a text that reads like it
      rw [not_exists] at h
      rw [runIn_decodedText, Rendered.ofOctets_of_ne_toUTF8 h]
      refine iff_of_false (fun he => ?_) (h text)
      have hlog := congrArg World.log (Prod.mk.inj he).2
      exact List.cons_ne_self _ _ hlog
  · refine ⟨fun w => ?_, fun w => ?_⟩
    · rw [runIn_decodedText, Rendered.ofOctets_of_ne_toUTF8 h]
      rfl
    · rw [runIn_decodedText, Rendered.ofOctets_of_ne_toUTF8 h]
      exact ⟨_, rfl, rfl⟩

/-- An overlong form, a surrogate, a value that is too large and a character that is cut
short. -/
example : ∀ data ∈ [[0xE0, 0x9F, 0xBF], [0xED, 0xA0, 0x80], [0xF4, 0x90, 0x80, 0x80],
    [0x61, 0xF0, 0x9F, 0x98]], (Rendered.ofOctets data).text = Rendered.undecodable := by decide

end Operation

/-- Octets that are the UTF-8 of a text without a comma. -/
def Bytes.IsNameText (data : Bytes) : Prop :=
  ∃ text : String, data = text.toUTF8.data.toList ∧ ',' ∉ text.toList

/-- Names that are texts without commas. -/
abbrev NameText := { data : Bytes // data.IsNameText }

namespace NameText

/-- A name is told in front of a comma by the text that it is shown as. -/
theorem legible_ofOctets :
    Legible (· = ',') fun name : NameText => (Rendered.ofOctets name.1).text.toList := by
  refine Legible.of_apart ?_ ?_
  · rintro ⟨_, first, rfl, hfirst⟩ ⟨_, second, rfl, hsecond⟩
    simp only [Rendered.ofOctets_toUTF8]
    exact apart_of_not_mem hfirst hsecond
  · rintro ⟨_, first, rfl, hfirst⟩ ⟨_, second, rfl, hsecond⟩ he
    simp only [Rendered.ofOctets_toUTF8] at he
    exact Subtype.ext (congrArg (·.toUTF8.data.toList) (String.toList_inj.mp he))

/-- A name that is shown as no text at all is empty. -/
theorem eq_nil_of_ofOctets {data : Bytes} (hd : data.IsNameText)
    (h : (Rendered.ofOctets data).text = "") : data = [] := by
  obtain ⟨text, rfl, -⟩ := hd
  rw [Rendered.ofOctets_toUTF8] at h
  obtain rfl : text = "" := h
  rfl

end NameText

/-- Names of servers that are texts without commas. -/
abbrev ServerName := { name : UInt8 × Bytes // name.2.IsNameText }

namespace ServerName

/-- The type and the name of a server are told in front of a comma. -/
theorem legible_writeName :
    Legible (· = ',') fun name : ServerName => (Extension.writeName name.1).text.toList := by
  have htype : Legible (fun c => ¬IsNumeral c) fun code : UInt8 =>
      (hexUnpadded (UInt8.code code)).toList :=
    legible_hexUnpadded.comp fun _ _ => UInt8.toNat_inj.mp
  have hpair := (htype.pair (c := ',') (by decide)
    (NameText.legible_ofOctets.prepend "name=".toList)).prepend "type=".toList
  have hname : Legible (· = ',') fun name : ServerName =>
      "type=".toList ++ ((hexUnpadded (UInt8.code name.1.1)).toList ++
        ',' :: ("name=".toList ++ (Rendered.ofOctets name.1.2).text.toList)) :=
    hpair.comp (f := fun name : ServerName => (name.1.1, ⟨name.1.2, name.2⟩)) fun a b he => by
      simp only [Prod.mk.injEq, Subtype.mk.injEq] at he
      exact Subtype.ext (Prod.ext he.1 he.2)
  simpa [Extension.writeName] using hname

/-- The name of a server is never shown as no text at all. -/
theorem writeName_ne (name : UInt8 × Bytes) : (Extension.writeName name).text ≠ "" := by
  simp [Extension.writeName]

end ServerName

/-- Parentheses and a name around texts hide nothing. -/
theorem Rendered.text_of_tagged {name : String} {first second : Rendered}
    (he : (tagged name first).text = (tagged name second).text) : first.text = second.text := by
  have hlist := congrArg String.toList he
  simpa only [toList_tagged, List.append_cancel_left_eq, List.cons.injEq, true_and,
    List.append_cancel_right_eq, String.toList_inj] using hlist

/-- A list in brackets tells its items, if each of them is told in front of a comma, but for
one item that is shown as no text at all. -/
theorem Rendered.eq_of_list {α : Type} {write : α → Rendered}
    (h : Legible (· = ',') fun a => (write a).text.toList) {xs ys : List α}
    (he : (list (xs.map write)).text = (list (ys.map write)).text) :
    xs = ys ∨ (xs = [] ∧ ∃ y, ys = [y] ∧ (write y).text = "") ∨
      ∃ x, xs = [x] ∧ (write x).text = "" ∧ ys = [] := by
  have hjoined : (',' :: [' ']).intercalate (xs.map fun a => (write a).text.toList) =
      (',' :: [' ']).intercalate (ys.map fun a => (write a).text.toList) := by
    have hlist := congrArg String.toList he
    simpa only [toList_list, List.map_map, Function.comp_def, List.cons_append,
      List.cons.injEq, true_and, List.append_cancel_right_eq] using hlist
  -- a joined row without characters has no comma in it, so it has one item
  have hsingle : ∀ {item : α} {rest : List α},
      (',' :: [' ']).intercalate ((item :: rest).map fun a => (write a).text.toList) = [] →
        rest = [] ∧ (write item).text = "" := by
    intro item rest hnil
    rw [List.map_cons, intercalate_cons, List.append_eq_nil_iff, String.toList_eq_nil_iff] at hnil
    cases rest with
    | nil => exact ⟨rfl, hnil.1⟩
    | cons next rest => simp at hnil
  cases xs with
  | nil =>
    cases ys with
    | nil => exact .inl rfl
    | cons y ys =>
      obtain ⟨rfl, hy⟩ := hsingle hjoined.symm
      exact .inr (.inl ⟨rfl, y, rfl, hy⟩)
  | cons x xs =>
    cases ys with
    | nil =>
      obtain ⟨rfl, hx⟩ := hsingle hjoined
      exact .inr (.inr ⟨x, rfl, hx, rfl⟩)
    | cons y ys =>
      have hcomma : Legible (fun c => c = ',' ∨ False) fun a => (write a).text.toList := by
        simpa only [or_false] using h
      have hrow := congrArg (· ++ []) hjoined
      exact .inl (Legible.joinedCons id hcomma (begins_nil _) (begins_nil _) hrow)

namespace Extension

/-- Names of servers are told by the text of their extension. -/
theorem eq_of_write_sni {xs ys : List (UInt8 × Bytes)} (hx : ∀ name ∈ xs, name.2.IsNameText)
    (hy : ∀ name ∈ ys, name.2.IsNameText)
    (he : ((sni xs).write {}).text = ((sni ys).write {}).text) : xs = ys := by
  lift xs to List ServerName using hx
  lift ys to List ServerName using hy
  have hlist := Rendered.text_of_tagged he
  rw [List.map_map, List.map_map] at hlist
  obtain rfl | ⟨rfl, y, rfl, hempty⟩ | ⟨x, rfl, hempty, rfl⟩ :=
    Rendered.eq_of_list ServerName.legible_writeName hlist
  · rfl
  · exact absurd hempty (ServerName.writeName_ne y.1)
  · exact absurd hempty (ServerName.writeName_ne x.1)

/-- Names of protocols are told by the text of their extension, but for a list without names
and a list with one empty name. -/
theorem eq_of_write_alpn {xs ys : List Bytes} (hx : ∀ name ∈ xs, name.IsNameText)
    (hy : ∀ name ∈ ys, name.IsNameText)
    (he : ((alpn xs).write {}).text = ((alpn ys).write {}).text) :
    xs = ys ∨ (xs = [] ∧ ys = [[]]) ∨ (xs = [[]] ∧ ys = []) := by
  lift xs to List NameText using hx
  lift ys to List NameText using hy
  have hlist := Rendered.text_of_tagged he
  rw [List.map_map, List.map_map] at hlist
  obtain rfl | ⟨rfl, y, rfl, hempty⟩ | ⟨x, rfl, hempty, rfl⟩ :=
    Rendered.eq_of_list NameText.legible_ofOctets hlist
  · exact .inl rfl
  · exact .inr (.inl ⟨rfl, congrArg (fun data => [data]) (NameText.eq_nil_of_ofOctets y.2 hempty)⟩)
  · exact .inr (.inr ⟨congrArg (fun data => [data]) (NameText.eq_nil_of_ofOctets x.2 hempty), rfl⟩)

end Extension

namespace Datum

/-- Names that are texts without commas are told by the rendering of their extension. Every
list of them is rendered, whatever names of codes are given. A list of names of servers with
their types is rendered like itself alone; so is a list of names of protocols, but for the
list without names and the list with one empty name, which are rendered alike. Nothing else is
asked of the names: they may hold brackets, labels, line ends and the placeholder. -/
theorem renderExtension_tells_texts (given other : Except Failure Naming) (w v : World) :
    (∀ x y : List (UInt8 × Bytes), (∀ name ∈ x, name.2.IsNameText) →
      (∀ name ∈ y, name.2.IsNameText) → ∃ text,
        ((renderExtension given (.model (.extension (.sni x)))).runIn w).1 = .ok text ∧
        (((renderExtension other (.model (.extension (.sni y)))).runIn v).1 = .ok text ↔
          y = x)) ∧
    ∀ x y : List Bytes, (∀ name ∈ x, name.IsNameText) → (∀ name ∈ y, name.IsNameText) →
      ∃ text, ((renderExtension given (.model (.extension (.alpn x)))).runIn w).1 = .ok text ∧
        (((renderExtension other (.model (.extension (.alpn y)))).runIn v).1 = .ok text ↔
          y = x ∨ (y = [] ∧ x = [[]]) ∨ (y = [[]] ∧ x = [])) := by
  have hrun : ∀ (given : Except Failure Naming) (w : World) {content : Extension},
      content.codes = [] →
        ((renderExtension given (.model (.extension content))).runIn w).1 =
          .ok (content.write {}).text := by
    intro given w content hcodes
    rw [comesTo_renderExtension_of_codes given hcodes w]
  refine ⟨fun x y hx hy => ⟨_, hrun given w rfl, ?_⟩,
    fun x y hx hy => ⟨_, hrun given w rfl, ?_⟩⟩
  · rw [hrun other v rfl, Except.ok.injEq]
    refine ⟨Extension.eq_of_write_sni hy hx, ?_⟩
    rintro rfl
    rfl
  · rw [hrun other v rfl, Except.ok.injEq]
    refine ⟨Extension.eq_of_write_alpn hy hx, ?_⟩
    rintro (rfl | ⟨rfl, rfl⟩ | ⟨rfl, rfl⟩)
    · rfl
    · rfl
    · rfl

/-- Names that look like the end of a list, like the beginning of another name or like the
placeholder are told, and the two empty lists are not. -/
theorem renderExtension_tells_texts_lookalike :
    let name (text : String) : Bytes := text.toUTF8.data.toList
    let x := [(0, name "a])\n"), (1, name "type=0x0 name=b"), (0, name "")]
    let y := [(0, name "a"), (1, name "<error decoding utf8 string>"), (0, name "])")]
    let rendering (content : Extension) :=
      ((renderExtension (.ok .assigned) (.model (.extension content))).runIn {}).1
    (∀ name ∈ x, name.2.IsNameText) ∧ (∀ name ∈ y, name.2.IsNameText) ∧
      Bytes.IsNameText [] ∧
      (∃ text, rendering (.sni x) = .ok text ∧ rendering (.sni y) ≠ .ok text) ∧
      ∃ text, rendering (.alpn []) = .ok text ∧ rendering (.alpn [[]]) = .ok text := by
  intro name x y rendering
  have hx : ∀ name ∈ x, name.2.IsNameText := by
    simp only [x, List.forall_mem_cons]
    exact ⟨⟨_, rfl, by decide⟩, ⟨_, rfl, by decide⟩, ⟨_, rfl, by decide⟩, nofun⟩
  have hy : ∀ name ∈ y, name.2.IsNameText := by
    simp only [y, List.forall_mem_cons]
    exact ⟨⟨_, rfl, by decide⟩, ⟨_, rfl, by decide⟩, ⟨_, rfl, by decide⟩, nofun⟩
  have hnil : Bytes.IsNameText [] := ⟨"", rfl, by decide⟩
  have htells := renderExtension_tells_texts (.ok .assigned) (.ok .assigned) {} {}
  refine ⟨hx, hy, hnil, ?_, ?_⟩
  · obtain ⟨text, htext, hother⟩ := htells.1 x y hx hy
    exact ⟨text, htext, mt hother.mp (by decide)⟩
  · obtain ⟨text, htext, hother⟩ := htells.2 [] [[]] nofun (by simpa using hnil)
    exact ⟨text, htext, hother.mpr (.inr (.inr ⟨rfl, rfl⟩))⟩

/-- A comma in a name hides where the name ends. -/
example : (Extension.alpn [[0x61], [0x62]]).write {} =
    (Extension.alpn [[0x61, 0x2C, 0x20, 0x62]]).write {} := by decide

end Datum

end TlsTranscript
