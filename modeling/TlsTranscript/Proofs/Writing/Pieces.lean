import TlsTranscript.Proofs.Writing.Printable

/-!
# What renderings are put together of

A written structure is a row of pieces: fixed texts, codes with their names, and
octets that are shown as the text they are. Which pieces there are and in which order
belongs to the structure alone; registries decide only how the codes among them are
written. So the text of a rendering shows its values one after the other, and its
records are those of the values in the same order.
-/

namespace TlsTranscript

/-- A piece of a written structure. -/
inductive Piece where
  /-- A fixed text. -/
  | literal (text : String)
  /-- A code of a kind. -/
  | code (kind : RegistryKind) (value : Int)
  /-- Octets that are shown as text. -/
  | rawText (data : Bytes)
  deriving DecidableEq

namespace Rendered

/-- Renderings side by side can be grouped at will. -/
theorem append_assoc (a b c : Rendered) : a ++ b ++ c = a ++ (b ++ c) :=
  Rendered.mk.injEq .. |>.mpr ⟨String.append_assoc .., List.append_assoc ..⟩

/-- An empty text in front of a rendering changes nothing. -/
theorem plain_empty_append (a : Rendered) : plain "" ++ a = a :=
  Rendered.mk.injEq .. |>.mpr ⟨String.empty_append .., List.nil_append ..⟩

/-- An empty text behind a rendering changes nothing. -/
theorem append_plain_empty (a : Rendered) : a ++ plain "" = a :=
  Rendered.mk.injEq .. |>.mpr ⟨String.append_empty .., List.append_nil ..⟩

/-- A single rendering has no separator. -/
theorem join_singleton (separator : String) (a : Rendered) : join separator [a] = a :=
  Rendered.mk.injEq .. |>.mpr ⟨String.intercalate_singleton, List.append_nil _⟩

/-- The first of several renderings has a separator behind it. -/
theorem join_cons_cons (separator : String) (a b : Rendered) (rest : List Rendered) :
    join separator (a :: b :: rest) = a ++ (plain separator ++ join separator (b :: rest)) :=
  Rendered.mk.injEq .. |>.mpr
    ⟨String.intercalate_cons_cons.trans (String.append_assoc ..), rfl⟩

end Rendered

namespace Piece

open Rendered

/-- A piece as it is written. -/
def write (registries : Registries) : Piece → Rendered
  | .literal text => plain text
  | .code kind value => registries.write kind value
  | .rawText data => ofOctets data

/-- Pieces as they are written side by side. -/
def writeAll (registries : Registries) : List Piece → Rendered
  | [] => plain ""
  | piece :: rest => piece.write registries ++ writeAll registries rest

/-- Whether a piece shows a value, which a fixed text does not. -/
def isValue : Piece → Bool
  | .literal _ => false
  | .code _ _ => true
  | .rawText _ => true

variable {registries : Registries}

/-- Two rows of pieces are written one behind the other. -/
theorem writeAll_append (first second : List Piece) :
    writeAll registries (first ++ second) =
      writeAll registries first ++ writeAll registries second := by
  induction first with
  | nil => exact (plain_empty_append _).symm
  | cons piece rest ih => rw [List.cons_append, writeAll, ih, writeAll, append_assoc]

/-- Fixed texts leave no records, so the records of pieces are those of the values
among them. -/
theorem log_writeAll (pieces : List Piece) :
    (writeAll registries pieces).log =
      (pieces.filter isValue).flatMap fun piece => (piece.write registries).log := by
  induction pieces with
  | nil => rfl
  | cons piece rest ih =>
    rw [writeAll, log_append, ih]
    cases piece with
    | literal text => rfl
    | code kind value => rfl
    | rawText data => rfl

end Piece

/-- A way to write something shows values one after the other: whatever the registries
are, it writes the same pieces, and these are the values with fixed texts between
them. -/
def Shows (values : List Piece) (write : Registries → Rendered) : Prop :=
  ∃ pieces : List Piece, pieces.filter Piece.isValue = values ∧
    ∀ registries, write registries = Piece.writeAll registries pieces

namespace Shows

open Rendered

variable {α : Type} {xs ys : List Piece} {a b : Registries → Rendered}

/-- The values that are shown can be given in another way. -/
theorem of_eq (ha : Shows xs a) (h : ys = xs) : Shows ys a := h ▸ ha

/-- A fixed text shows no value. -/
theorem text (text : String) : Shows [] fun _ => plain text :=
  ⟨[.literal text], rfl, fun _ => (append_plain_empty _).symm⟩

/-- A code shows itself. -/
theorem code (kind : RegistryKind) (value : Int) :
    Shows [.code kind value] fun registries => registries.write kind value :=
  ⟨[.code kind value], rfl, fun _ => (append_plain_empty _).symm⟩

/-- Octets that are shown as text show themselves. -/
theorem rawText (data : Bytes) : Shows [.rawText data] fun _ => ofOctets data :=
  ⟨[.rawText data], rfl, fun _ => (append_plain_empty _).symm⟩

/-- Side by side, the values of the first are shown before those of the second. -/
theorem append (ha : Shows xs a) (hb : Shows ys b) :
    Shows (xs ++ ys) fun registries => a registries ++ b registries := by
  obtain ⟨p, rfl, hp⟩ := ha
  obtain ⟨q, rfl, hq⟩ := hb
  refine ⟨p ++ q, List.filter_append .., fun registries => ?_⟩
  rw [Piece.writeAll_append, ← hp, ← hq]

/-- A text in front shows no further value. -/
theorem behind (ha : Shows xs a) (front : String) :
    Shows xs fun registries => plain front ++ a registries :=
  (text front).append ha

/-- A text behind shows no further value. -/
theorem before (ha : Shows xs a) (back : String) :
    Shows xs fun registries => a registries ++ plain back := by
  simpa using ha.append (text back)

/-- The first of several parts and a separator, in front of the other parts. -/
theorem joinCons {separator : String} {rest : Registries → List Rendered} (ha : Shows xs a)
    (hb : Shows ys fun registries => join separator (b registries :: rest registries)) :
    Shows (xs ++ ys) fun registries =>
      join separator (a registries :: b registries :: rest registries) := by
  simpa only [join_cons_cons] using ha.append (hb.behind separator)

/-- The parts made of items, with a separator between them, show the values of the
items in the order of the items. -/
theorem join (separator : String) {write : Registries → α → Rendered} {values : α → List Piece}
    (h : ∀ item, Shows (values item) fun registries => write registries item)
    (items : List α) :
    Shows (items.flatMap values) fun registries =>
      Rendered.join separator (items.map (write registries)) := by
  induction items with
  | nil => exact text ""
  | cons first rest ih =>
    cases rest with
    | nil => simpa only [List.map_cons, List.map_nil, List.flatMap_cons, List.flatMap_nil,
        List.append_nil, join_singleton] using h first
    | cons second rest => exact (h first).joinCons ih

/-- A list in brackets. -/
theorem list {write : Registries → α → Rendered} {values : α → List Piece}
    (h : ∀ item, Shows (values item) fun registries => write registries item)
    (items : List α) :
    Shows (items.flatMap values) fun registries => Rendered.list (items.map (write registries)) :=
  ((join ", " h items).behind "[").before "]"

/-- A list in brackets of items that show one value each. -/
theorem listOfValues {write : Registries → α → Rendered} {value : α → Piece}
    (h : ∀ item, Shows [value item] fun registries => write registries item)
    (items : List α) :
    Shows (items.map value) fun registries => Rendered.list (items.map (write registries)) := by
  rw [List.map_eq_flatMap]
  exact list h items

/-- A list in brackets of items that are fixed texts. -/
theorem listOfTexts (write : α → String) (items : List α) :
    Shows [] fun _ => Rendered.list (items.map fun item => plain (write item)) := by
  have hitem : ∀ item, Shows [] fun _ => plain (write item) := fun item => text (write item)
  exact (list hitem items).of_eq (List.flatMap_eq_nil_iff.mpr fun _ _ => rfl).symm

/-- A named value in parentheses. -/
theorem tagged (ha : Shows xs a) (name : String) :
    Shows xs fun registries => Rendered.tagged name (a registries) :=
  (ha.behind (name ++ "(")).before ")"

end Shows

/-- Labelled fields show values one after the other when they are joined. -/
def ShowsFields (values : List Piece) (fields : Registries → List (String × Rendered)) : Prop :=
  Shows values fun registries =>
    Rendered.join ", " ((fields registries).map fun entry => Rendered.field entry.1 entry.2)

namespace ShowsFields

variable {xs ys : List Piece} {a : Registries → Rendered}

/-- A single field. -/
theorem last (ha : Shows xs a) (label : String) :
    ShowsFields xs fun registries => [(label, a registries)] := by
  simpa only [ShowsFields, List.map_cons, List.map_nil, Rendered.join_singleton,
    Rendered.field] using ha.behind (label ++ ": ")

/-- A field in front of others. -/
theorem cons {second : Registries → String × Rendered}
    {rest : Registries → List (String × Rendered)} (ha : Shows xs a) (label : String)
    (hb : ShowsFields ys fun registries => second registries :: rest registries) :
    ShowsFields (xs ++ ys) fun registries =>
      (label, a registries) :: second registries :: rest registries :=
  (ha.behind (label ++ ": ")).joinCons hb

/-- A record of fields. -/
theorem record {fields : Registries → List (String × Rendered)} (h : ShowsFields xs fields)
    (name : String) : Shows xs fun registries => Rendered.record name (fields registries) :=
  (Shows.behind h (name ++ " \x7b ")).before " \x7d"

end ShowsFields

namespace Extension

/-- The values that an extension shows, in the order in which they are written. -/
def values (e : Extension) : List Piece :=
  e.codes.map (fun code => .code code.1 code.2) ++ e.rawTexts.map .rawText

/-- An extension shows its values. -/
theorem shows_write (e : Extension) : Shows e.values fun registries => e.write registries := by
  have hdata : ∀ (name : String) (data : Option Bytes),
      Shows [] fun _ => writeData name data := fun name data => .text _
  cases e with
  | sni names =>
    have hname : ∀ name : UInt8 × Bytes,
        Shows [.rawText name.2] fun _ => writeName name := fun name =>
      (Shows.rawText name.2).behind _
    exact ((Shows.listOfValues hname names).tagged "SNI").of_eq (by simp [values, codes, rawTexts])
  | ellipticCurves groups =>
    exact ((Shows.listOfValues (fun group : UInt16 => .code .namedGroup (UInt16.code group))
      groups).tagged "EllipticCurves").of_eq (by simp [values, codes, rawTexts])
  | signatureAlgorithms algorithms =>
    have hpair : ∀ pair : UInt8 × UInt8,
        Shows [.code .hashAlgorithm (UInt8.code pair.1),
          .code .signatureAlgorithm (UInt8.code pair.2)] fun registries =>
            writePair registries pair := fun pair =>
      ((((Shows.code .hashAlgorithm _).behind "(").before ",").append
        (.code .signatureAlgorithm _)).before ")"
    exact ((Shows.list hpair algorithms).tagged "SignatureAlgorithms").of_eq
      (by simp [values, codes, rawTexts, List.map_flatMap])
  | alpn protocols => exact (Shows.listOfValues Shows.rawText protocols).tagged "ALPN"
  | supportedVersions versions => exact (Shows.listOfTexts _ versions).tagged "SupportedVersions"
  | pskExchangeModes modes => exact (Shows.listOfTexts _ modes).tagged "PskExchangeModes"
  | statusRequest data => exact hdata _ data
  | ecPointFormats formats => exact hdata _ formats
  | sessionTicket data => exact hdata _ data
  | keyShare data => exact hdata _ data
  | preSharedKey data => exact hdata _ data
  | cookie data => exact hdata _ data
  | signedCertificateTimestamp data => exact hdata _ data
  | padding data => exact hdata _ data
  | renegotiationInfo data => exact hdata _ data
  | _ => exact .text _

end Extension

namespace Message

open ShowsFields

/-- The values that a message shows, in the order in which they are written. -/
def values (m : Message) : List Piece := m.codes.map fun code => .code code.1 code.2

/-- A pair of algorithms shows its hash algorithm and then its signature algorithm. -/
theorem shows_writeAlgorithm (algorithm : HashSignAlgorithm) :
    Shows ((algorithmCodes algorithm).map fun code => .code code.1 code.2) fun registries =>
      writeAlgorithm registries algorithm :=
  record (cons (.code .hashAlgorithm _) _ (last (.code .signatureAlgorithm _) _)) _

/-- A message shows its values. -/
theorem shows_write (m : Message) : Shows m.values fun registries => m.write registries := by
  cases m with
  | recordHeader header =>
    exact record (cons (.text _) _ (cons (.text _) _ (last (.text _) _))) _
  | alert notice => exact record (cons (.code _ _) _ (last (.text _) _)) _
  | clientHello hello =>
    have hciphers := Shows.listOfValues
      (fun cipher : UInt16 => .code .cipherSuite (UInt16.code cipher)) hello.ciphers
    have hmethods := Shows.listOfTexts
      (fun method => Text.hex8 (UInt8.code method)) hello.compressions
    refine Shows.of_eq (record (cons (.text _) _ (cons (.text _) _ (cons (.text _) _
      (cons (.text _) _ (cons hciphers _ (cons hmethods _ (last (.text _) _))))))) _) ?_
    simp [values, codes]
  | serverHello hello =>
    exact record (cons (.text _) _ (cons (.text _) _ (cons (.text _) _ (cons (.text _) _
      (cons (.code _ _) _ (cons (.text _) _ (last (.text _) _))))))) _
  | serverHelloV13 hello =>
    exact record (cons (.text _) _ (cons (.text _) _ (cons (.code _ _) _
      (last (.text _) _)))) _
  | helloRetryRequest request => exact record (cons (.text _) _ (last (.text _) _)) _
  | rawCertificate certificate => exact record (last (.text _) _) _
  | serverKeyExchange exchange => exact record (last (.text _) _) _
  | clientKeyExchange exchange => exact record (last (.text _) _) _
  | serverDHParams params =>
    exact record (cons (.text _) _ (cons (.text _) _ (cons (.text _) _ (last (.text _) _)))) _
  | hashSignAlgorithm algorithm => exact shows_writeAlgorithm algorithm
  | digitallySigned signed =>
    exact record (cons (shows_writeAlgorithm signed.algorithm) _ (last (.text _) _)) _

end Message

namespace Model

/-- The codes in a model that registries name, in the order in which they are
written. -/
def codes : Model → List (RegistryKind × Int)
  | .message content => content.codes
  | .extension content => content.codes
  | _ => []

/-- The values that a model shows, in the order in which they are written. -/
def values : Model → List Piece
  | .message content => content.values
  | .extension content => content.values
  | _ => []

/-- A model shows its values whenever it is rendered. -/
theorem exists_pieces (model : Model) :
    ∃ pieces : List Piece, pieces.filter Piece.isValue = model.values ∧
      ∀ registries rendered, model.rendered registries = .ok rendered →
        rendered = Piece.writeAll registries pieces := by
  cases model with
  | message content =>
    obtain ⟨pieces, hvalues, hwrite⟩ := content.shows_write
    refine ⟨pieces, hvalues, fun registries rendered h => ?_⟩
    simp only [Model.rendered] at h
    split at h
    · exact (Except.ok.inj h).symm.trans (hwrite registries)
    · cases h
  | extension content =>
    obtain ⟨pieces, hvalues, hwrite⟩ := content.shows_write
    exact ⟨pieces, hvalues, fun registries rendered h =>
      (Except.ok.inj h).symm.trans (hwrite registries)⟩
  | _ =>
    refine ⟨[], rfl, fun registries rendered h => ?_⟩
    cases h

end Model

end TlsTranscript
