import TlsTranscript.Proofs.Rendering.Elementwise
import TlsTranscript.Proofs.Rendering.Lists

/-!
# Lists rendered element by element

The extensions that list their items one by one, the cipher suites of a hello and rows of
extensions are all rendered element by element, with any registries and whether or not the
names in them are texts. A name that is not UTF-8 and a code without a name are elements like
others: wherever they stand, they change their own segments and add their own records.
-/

namespace TlsTranscript

open TlsTranscript.Action Rendered

/-- The extensions that list their items one by one. -/
inductive ListedKind where
  /-- Names of the server, each with its type. -/
  | sni
  /-- Groups for key exchange. -/
  | ellipticCurves
  /-- Pairs of a hash algorithm and a signature algorithm. -/
  | signatureAlgorithms
  /-- Versions offered. -/
  | supportedVersions
  /-- Modes of key exchange with a key known beforehand. -/
  | pskExchangeModes
  /-- Names of application protocols. -/
  | alpn

namespace ListedKind

/-- What an extension of a kind lists. -/
abbrev Element : ListedKind → Type
  | .sni => UInt8 × Bytes
  | .ellipticCurves => UInt16
  | .signatureAlgorithms => UInt8 × UInt8
  | .supportedVersions => UInt16
  | .pskExchangeModes => UInt8
  | .alpn => Bytes

/-- The extension with a list of elements. -/
def extension : (kind : ListedKind) → List kind.Element → Extension
  | .sni, names => .sni names
  | .ellipticCurves, groups => .ellipticCurves groups
  | .signatureAlgorithms, algorithms => .signatureAlgorithms algorithms
  | .supportedVersions, versions => .supportedVersions versions
  | .pskExchangeModes, modes => .pskExchangeModes modes
  | .alpn, protocols => .alpn protocols

/-- The name under which the extensions of a kind are written. -/
def name (kind : ListedKind) : String := (kind.extension []).kind.name

end ListedKind

namespace ClientHello

/-- The message with other cipher suites. -/
def withCiphers (hello : ClientHello) (ciphers : List UInt16) : Message :=
  .clientHello { hello with ciphers }

/-- What is written of a hello in front of its cipher suites. -/
def beforeCiphers (hello : ClientHello) : String :=
  "ClientHello \x7b version: " ++ Text.hex16 (UInt16.code hello.version) ++ ", rand_time: " ++
    Text.decimal hello.randTime.toNat ++ ", rand_data: " ++ Bytes.listing hello.randData ++
    ", session_id: " ++ Bytes.listingOrNone hello.sessionId ++ ", ciphers: ["

/-- What is written of a hello behind its cipher suites. -/
def afterCiphers (hello : ClientHello) : String :=
  "], comp: [" ++ ", ".intercalate (hello.compressions.map fun method =>
    Text.hex8 (UInt8.code method)) ++ "], ext: " ++ Bytes.listingOrNone hello.extensions ++
    " \x7d"

/-- The fields of a hello in front of its cipher suites. -/
def fieldsBefore (hello : ClientHello) : List (String × Rendered) :=
  [("version", plain (Text.hex16 (UInt16.code hello.version))),
    ("rand_time", plain (Text.decimal hello.randTime.toNat)),
    ("rand_data", plain (Bytes.listing hello.randData)),
    ("session_id", plain (Bytes.listingOrNone hello.sessionId))]

/-- The fields of a hello behind its cipher suites. -/
def fieldsAfter (hello : ClientHello) : List (String × Rendered) :=
  [("comp", list (hello.compressions.map fun method => plain (Text.hex8 (UInt8.code method)))),
    ("ext", plain (Bytes.listingOrNone hello.extensions))]

/-- A hello is written as its cipher suites between the texts of its other fields. -/
theorem text_record (hello : ClientHello) (items : List String) :
    (record "ClientHello" (hello.fieldsBefore ++
      ("ciphers", plain (bracketed "[" "]" items)) :: hello.fieldsAfter)).text =
        hello.beforeCiphers ++ ", ".intercalate items ++ hello.afterCiphers := by
  refine String.toList_inj.mp ?_
  unfold beforeCiphers afterCiphers
  simp [record, field, list, bracketed, fieldsBefore, fieldsAfter, Function.comp_def]

end ClientHello

variable {given : Except Failure Naming}

namespace Datum

/-- An integer is recorded without a name in every world. -/
theorem settled_noteMiss (kind : RegistryKind) (code : Int) :
    (noteMiss kind (.integer code)).Settled := settled_note _

/-- A code that is an integer is written in the same way in every world. -/
theorem settled_writeCode (kind : RegistryKind) (given : Except Failure Naming) (code : Int) :
    ((Datum.integer code).writeCode kind given).Settled := by
  unfold writeCode
  refine settled_bind (settled_ofResult _) fun naming =>
    settled_bind (settled_ofResult _) fun found => ?_
  cases found with
  | absent => exact settled_bind (settled_noteMiss kind code) fun _ => settled_ofResult _
  | _ => exact settled_ofResult _

/-- A code that is an integer is displayed in the same way in every world. -/
theorem settled_displayCode (kind : RegistryKind) (given : Except Failure Naming) (code : Int) :
    ((Datum.integer code).displayCode kind given).Settled :=
  settled_bind (settled_writeCode kind given code) fun _ => settled_ofResult _

end Datum

namespace Extension

/-- A pair of algorithms is written in the same way in every world. -/
theorem settled_displayPair (given : Except Failure Naming) (pair : UInt8 × UInt8) :
    Settled (do
      let hash ← (Datum.ofOctet pair.1).displayCode .hashAlgorithm given
      let sign ← (Datum.ofOctet pair.2).displayCode .signatureAlgorithm given
      return "(" ++ hash ++ "," ++ sign ++ ")" : Action String) :=
  settled_bind (Datum.settled_displayCode _ _ _) fun _ =>
    settled_bind (Datum.settled_displayCode _ _ _) fun _ => settled_ofResult (.ok _)

/-- An extension is written code by code in the same way in every world. -/
theorem settled_writeCodes (given : Except Failure Naming) (e : Extension) :
    (e.writeCodes given).Settled := by
  cases e with
  | ellipticCurves groups =>
    exact settled_bind (settled_mapM (fun _ => Datum.settled_displayCode _ _ _) groups) fun _ =>
      settled_ofResult (.ok _)
  | signatureAlgorithms algorithms =>
    exact settled_bind (settled_mapM (settled_displayPair given) algorithms) fun _ =>
      settled_ofResult (.ok _)
  | _ => exact settled_emit _

end Extension

namespace Datum

/-- A datum that must be an extension is rendered in the same way in every world. -/
theorem settled_renderExtension (given : Except Failure Naming) (datum : Datum) :
    (datum.renderExtension given).Settled := by
  cases datum with
  | model value =>
    cases value with
    | extension content =>
      simp only [renderExtension, emitNamed]
      split
      · exact settled_emit _
      · refine settled_bind (settled_ofResult given) fun naming => ?_
        split
        · exact settled_emit _
        · exact content.settled_writeCodes given
    | _ => exact settled_ofResult (.error _)
  | _ => exact settled_ofResult (.error _)

/-- A list in parentheses stands between a name with both brackets and the brackets that
close them. -/
theorem tagged_list_eq (name : String) (parts : List Rendered) :
    tagged name (Rendered.list parts) = between (name ++ "([") "])" (join ", " parts) :=
  eq_of_parts (by simp [tagged, Rendered.list, between, ← String.toList_inj])
    (by simp [tagged, Rendered.list, between])

/-- Texts in brackets and parentheses have the brackets around them. -/
theorem tagged_bracketed_eq (name : String) (items : List String) :
    name ++ "(" ++ bracketed "[" "]" items ++ ")" =
      name ++ "([" ++ ", ".intercalate items ++ "])" := by
  simp [bracketed, ← String.toList_inj]

/-- An extension without codes that is written as a list comes to its items. -/
theorem comesTo_renderExtension_list (given : Except Failure Naming) {content : Extension}
    {name : String} {parts : List Rendered} (hcodes : content.codes = [])
    (hwrite : content.write {} = tagged name (Rendered.list parts)) :
    (renderExtension given (.model (.extension content))).ComesTo
      (.ok (between (name ++ "([") "])" (join ", " parts))) := by
  rw [← tagged_list_eq, ← hwrite]
  exact comesTo_renderExtension_of_codes given hcodes

/-- The extensions that list their items are rendered element by element. -/
theorem elementwise_renderExtension (given : Except Failure Naming) (kind : ListedKind) :
    Elementwise (kind.name ++ "([") "])" fun elements : List kind.Element =>
      renderExtension given (.model (.extension (kind.extension elements))) := by
  cases kind with
  | sni => exact .of_comesTo fun names => comesTo_renderExtension_list given rfl rfl
  | ellipticCurves =>
    refine .of_segments (fun group => settled_displayCode .namedGroup given (UInt16.code group))
      fun {groups} hne w => ?_
    have hcodes : (Extension.ellipticCurves groups).codes ≠ [] := mt List.map_eq_nil_iff.mp hne
    simp only [← tagged_bracketed_eq]
    exact runIn_renderExtension_eq hcodes given w
  | signatureAlgorithms =>
    refine .of_segments (Extension.settled_displayPair given) fun {algorithms} hne w => ?_
    obtain ⟨pair, rest, rfl⟩ := List.exists_cons_of_ne_nil hne
    have hcodes : (Extension.signatureAlgorithms (pair :: rest)).codes ≠ [] := nofun
    simp only [← tagged_bracketed_eq]
    exact runIn_renderExtension_eq hcodes given w
  | supportedVersions =>
    exact .of_comesTo fun versions => comesTo_renderExtension_list given rfl rfl
  | pskExchangeModes =>
    exact .of_comesTo fun modes => comesTo_renderExtension_list given rfl rfl
  | alpn => exact .of_comesTo fun protocols => comesTo_renderExtension_list given rfl rfl

/-- Rows of data are rendered element by element as extensions. -/
theorem elementwise_renderExtensions (given : Except Failure Naming) :
    Elementwise "[" "]" fun data : List Datum => renderExtensions given (.list data) :=
  .of_segments (settled_renderExtension given) fun _ _ => rfl

section Record

variable {algorithm : Datum → Action String} {datum : Datum} {kind : MessageKind}
  {front rest : List LaidField} {field : LaidField} {before behind : List (String × Rendered)}

/-- A datum with one field that need not be written, among others that always are and are worth
no record, is written as a record with this field. -/
theorem runIn_writeLaidWith_of_field (hl : kind.layout = front ++ field :: rest)
    (hf : List.Forall₂ (WritesField algorithm given datum) front before)
    (hb : List.Forall₂ (WritesField algorithm given datum) rest behind)
    (hflog : before.flatMap (fun entry => entry.2.log) = [])
    (hblog : behind.flatMap (fun entry => entry.2.log) = []) {action : Action String}
    (ha : writeField algorithm given datum field =
      (do return (field.label, .text (← action)) : Action (String × Datum))) (w : World) :
    (datum.writeLaidWith algorithm given kind).runIn w =
      (do return (record kind.name (before ++ (field.label, plain (← action)) :: behind)).text :
        Action String).runIn w := by
  have hfront := runIn_writeFields hf w
  rw [hflog] at hfront
  have hfield : (writeField algorithm given datum field).runIn w = _ :=
    congrArg (fun written => written.runIn w) ha
  rw [writeLaidWith_eq, hl, List.mapM_append, List.mapM_cons]
  rcases hrun : action.runIn w with ⟨failure | text, after⟩
  · rw [Action.runIn_bind_of_error hrun] at hfield
    rw [Action.runIn_bind_of_error hrun]
    refine Action.runIn_bind_of_error ?_
    rw [Action.runIn_bind_of_ok hfront]
    exact Action.runIn_bind_of_error (Action.runIn_bind_of_error hfield)
  · rw [Action.runIn_bind_of_ok hrun, Action.runIn_pure] at hfield
    rw [Action.runIn_bind_of_ok hrun, Action.runIn_pure]
    have hback := runIn_writeFields hb after
    rw [hblog] at hback
    have hfields := runIn_displayFields (before ++ (field.label, plain text) :: behind) after
    have hlaid : (do
        let first ← front.mapM (writeField algorithm given datum)
        let second ← (do
          let value ← writeField algorithm given datum field
          let others ← rest.mapM (writeField algorithm given datum)
          pure (value :: others))
        pure (first ++ second) : Action (List (String × Datum))).runIn w =
          (.ok ((before ++ (field.label, plain text) :: behind).map fun entry =>
            (entry.1, .text entry.2.text)), after) := by
      rw [Action.runIn_bind_of_ok hfront]
      refine (Action.runIn_bind_of_ok ((Action.runIn_bind_of_ok hfield).trans
        (Action.runIn_bind_of_ok hback))).trans ?_
      simp [Action.runIn_pure]
    rw [Action.runIn_bind_of_ok hlaid, Action.runIn_bind_of_ok hfields, Action.runIn_pure,
      recordText_eq]

/-- Codes that are displayed in brackets, one after the other. -/
def displayCodes (named : RegistryKind) (given : Except Failure Naming) (codes : List Datum) :
    Action String := do
  return bracketed "[" "]" (← codes.mapM (displayCode named given))

/-- A field of codes is written as the list of all its codes. -/
theorem writeField_codes {label property : String} {named : RegistryKind} {codes : List Datum}
    (hp : datum.propertyOperand property = .ok (.list codes)) :
    writeField algorithm given datum ⟨label, property, .codes named⟩ =
      (do return (label, .text (← displayCodes named given codes)) : Action (String × Datum)) := by
  have hvalue : Action.ofResult (datum.propertyOperand property) =
      (pure (.list codes) : Action Datum) := by rw [hp]; rfl
  have hcodes : Action.ofResult (Datum.list codes).items =
      (pure codes : Action (List Datum)) := rfl
  simp only [writeField, hvalue, writeValueWith, writeItems, hcodes, displayCodes, pure_bind,
    bind_assoc]

/-- The fields of a hello in front of its cipher suites are all written. -/
theorem writesFields_before (given : Except Failure Naming) (hello : ClientHello)
    (ciphers : List UInt16) :
    List.Forall₂ (WritesField algorithm given (.model (.message (hello.withCiphers ciphers))))
      [⟨"version", "version", .twoOctets⟩, ⟨"rand_time", "rand_time", .display⟩,
        ⟨"rand_data", "rand_data", .listing⟩, ⟨"session_id", "session_id", .listingOrNone⟩]
      hello.fieldsBefore :=
  .cons (.twoOctets rfl) (.cons (.display hello.randTime.toNat_lt rfl)
    (.cons (.listing rfl) (.cons (.listingOrNone rfl) .nil)))

/-- The fields of a hello behind its cipher suites are all written. -/
theorem writesFields_after (given : Except Failure Naming) (hello : ClientHello)
    (ciphers : List UInt16) :
    List.Forall₂ (WritesField algorithm given (.model (.message (hello.withCiphers ciphers))))
      [⟨"comp", "comp", .octets⟩, ⟨"ext", "ext", .listingOrNone⟩] hello.fieldsAfter :=
  .cons (.octets rfl) (.cons (.listingOrNone rfl) .nil)

end Record

/-- A hello is written as its cipher suites are, between the texts of its other fields. -/
theorem runIn_writeLaid_hello (given : Except Failure Naming) (hello : ClientHello)
    (ciphers : List UInt16) (w : World) :
    (writeLaid .clientHello given (.model (.message (hello.withCiphers ciphers)))).runIn w =
      (do
        let items ← ciphers.mapM fun cipher =>
          (Datum.ofPair cipher).displayCode .cipherSuite given
        return hello.beforeCiphers ++ ", ".intercalate items ++ hello.afterCiphers :
          Action String).runIn w := by
  have hlog : hello.fieldsAfter.flatMap (fun entry => entry.2.log) = [] := by
    simp [ClientHello.fieldsAfter, Rendered.list]
  have hlaid :
      (writeLaid .clientHello given (.model (.message (hello.withCiphers ciphers)))).runIn w = _ :=
    runIn_writeLaidWith_of_field rfl (writesFields_before given hello ciphers)
      (writesFields_after given hello ciphers) rfl hlog (writeField_codes rfl) w
  simp only [displayCodes, MessageKind.name, pure_bind, bind_assoc,
    ClientHello.text_record] at hlaid
  rw [ClientHello.withCiphers, List.mapM_map] at hlaid
  exact hlaid

/-- The cipher suites of a hello are rendered element by element. -/
theorem elementwise_ciphers (given : Except Failure Naming) (hello : ClientHello) :
    Elementwise hello.beforeCiphers hello.afterCiphers fun ciphers : List UInt16 =>
      render given (.model (.message (hello.withCiphers ciphers))) := by
  refine .of_segments (fun cipher => settled_displayCode .cipherSuite given (UInt16.code cipher))
    fun {ciphers} hne w => ?_
  have hcodes : (hello.withCiphers ciphers).codes ≠ [] := mt List.map_eq_nil_iff.mp hne
  exact (runIn_renderMessage_eq rfl hcodes given w).trans
    (runIn_writeLaid_hello given hello ciphers w)

/-- Elements of lists are rendered independently of each other, whatever names of codes are
given. The extensions that list their items, the cipher suites of a hello and rows of
extensions are all rendered element by element: rows behind each other are rendered to the
texts and the records of both, behind each other, and an element that is exchanged changes its
own segment and its own records. Where all names are texts, every list of elements is
rendered. -/
theorem renderings_elementwise (given : Except Failure Naming) :
    (∀ kind : ListedKind, Elementwise (kind.name ++ "([") "])"
      fun elements : List kind.Element =>
        renderExtension given (.model (.extension (kind.extension elements)))) ∧
    (∀ hello : ClientHello, Elementwise hello.beforeCiphers hello.afterCiphers fun ciphers =>
      render given (.model (.message (hello.withCiphers ciphers)))) ∧
    (Elementwise "[" "]" fun data : List Datum => renderExtensions given (.list data)) ∧
    ∀ (naming : Naming) (registries : Registries), given = .ok naming →
      naming.registries? = some registries →
        (∀ content : Extension, ∃ text, ∀ w,
          ((renderExtension given (.model (.extension content))).runIn w).1 = .ok text) ∧
        (∀ (hello : ClientHello) (ciphers : List UInt16), ∃ text, ∀ w,
          ((render given (.model (.message (hello.withCiphers ciphers)))).runIn w).1 =
            .ok text) ∧
        ∀ contents : List Extension, ∃ text, ∀ w,
          (((ofExtensions contents).renderExtensions given).runIn w).1 = .ok text := by
  refine ⟨elementwise_renderExtension given, elementwise_ciphers given,
    elementwise_renderExtensions given, ?_⟩
  rintro naming registries rfl hn
  refine ⟨fun content => ⟨(content.write registries).text, fun w => ?_⟩,
    fun hello ciphers => ⟨((hello.withCiphers ciphers).write registries).text, fun w => ?_⟩,
    fun contents => ⟨_, runIn_renderExtensions hn contents⟩⟩
  · have hcomes := comesTo_render hn (.model (.extension content)) w
    exact congrArg Prod.fst hcomes
  · have hcomes := comesTo_render hn (.model (.message (hello.withCiphers ciphers))) w
    exact congrArg Prod.fst hcomes

/-- A name that is not UTF-8 and a code without a name, both between two others. -/
theorem renderings_elementwise_faulty :
    let names (protocols : List Bytes) : Action String :=
      renderExtension (.ok .assigned) (.model (.extension (.alpn protocols)))
    let codes (groups : List UInt16) : Action String :=
      renderExtension (.ok .assigned) (.model (.extension (.ellipticCurves groups)))
    (∃ left right : Rendered,
      (names [[0x68], [0x69], [0x6A]]).ComesTo
        (.ok (between "ALPN([" "])" (left ++ plain "i" ++ right))) ∧
      (names [[0x68], [0xFF], [0x6A]]).ComesTo
        (.ok (between "ALPN([" "])"
          (left ++ ⟨undecodable, [.undecodableText (Bytes.quoted [0xFF])]⟩ ++ right)))) ∧
    ∃ a b : Rendered, a.log = [] ∧ b.log = [.unlistedCode .namedGroup 0x9999] ∧
      (codes [0x1D]).ComesTo (.ok (between "EllipticCurves([" "])" a)) ∧
      (codes [0x9999, 0x17]).ComesTo (.ok (between "EllipticCurves([" "])" b)) ∧
      (codes [0x1D, 0x9999, 0x17]).ComesTo
        (.ok (between "EllipticCurves([" "])" (a ++ plain ", " ++ b))) := by
  intro names codes
  have hall := (renderings_elementwise (.ok .assigned)).1
  have halpn : Elementwise ("ALPN" ++ "([") "])" names := hall .alpn
  have hcurves : Elementwise ("EllipticCurves" ++ "([") "])" codes := hall .ellipticCurves
  have hnames : ∀ protocols : List Bytes, (names protocols).ComesTo
      (.ok (between ("ALPN" ++ "([") "])" (join ", " (protocols.map ofOctets)))) :=
    fun protocols => comesTo_renderExtension_list (.ok .assigned) rfl rfl
  have hcodes : ∀ groups : List UInt16, (codes groups).ComesTo
      (.ok (between ("EllipticCurves" ++ "([") "])" (join ", " (groups.map fun group =>
        Registries.assigned.write .namedGroup (UInt16.code group))))) := by
    intro groups
    have hn : Naming.assigned.registries? = some .assigned := rfl
    rw [← tagged_list_eq]
    exact comesTo_render hn (.model (.extension (.ellipticCurves groups)))
  rw [← show "ALPN" ++ "([" = "ALPN([" by decide,
    ← show "EllipticCurves" ++ "([" = "EllipticCurves([" by decide]
  constructor
  · have hrow : (names ([[0x68]] ++ [0x69] :: [[0x6A]])).ComesTo _ := hnames _
    obtain ⟨left, right, hreplace⟩ := halpn.replace hrow
    exact ⟨left, right, (hreplace [0x69] _).mpr ⟨_, hnames [[0x69]], rfl⟩,
      (hreplace [0xFF] _).mpr ⟨_, hnames [[0xFF]], rfl⟩⟩
  · refine ⟨_, _, rfl, rfl, hcodes [0x1D], hcodes [0x9999, 0x17], ?_⟩
    exact (hcurves.append (List.cons_ne_nil 0x1D []) (List.cons_ne_nil 0x9999 [0x17])).mpr
      ⟨_, _, hcodes _, hcodes _, rfl⟩

end Datum

end TlsTranscript
