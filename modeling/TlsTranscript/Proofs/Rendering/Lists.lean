import Mathlib.Data.Set.List
import TlsTranscript.Proofs.Rendering.Rows
import TlsTranscript.Proofs.Writing.Assigned

/-!
# Rendered lists of extensions told apart

Extensions are rendered one behind the other in brackets. Each of them ends in front of the
comma or the bracket behind it, also one that is a bare name: what follows the name is no
letter. So a list tells its extensions, their order and all their fields, unless names of
servers or protocols are shown in it as they are.
-/

namespace TlsTranscript

open Text

/-- No two kinds of extensions are written under one name. -/
theorem ExtensionKind.eq_of_front {first second : ExtensionKind}
    (h : first.front = second.front) : first = second :=
  ModelKind.extension.inj (ModelKind.eq_of_front h)

/-- The name of a kind is not empty and begins with a letter or a digit. -/
theorem ExtensionKind.front_eq_cons (kind : ExtensionKind) :
    ∃ c rest, kind.front.toList = c :: rest ∧ c.isAlphanum = true := by
  have hne : kind.front.toList ≠ [] := by cases kind <;> decide
  obtain ⟨c, rest, hfront⟩ := List.exists_cons_of_ne_nil hne
  refine ⟨c, rest, hfront, ModelKind.isAlphanum_front (.extension kind) c ?_⟩
  exact hfront ▸ List.mem_cons_self

/-- Extensions that show no raw text. -/
abbrev PlainExtension :=
  { content : Extension // (ModelKind.extension content.kind).showsRawText = false }

namespace Extension

variable {registries : Registries}

/-- Extensions of whatever kinds are legible in front of what is no letter and no digit,
if pairs tell their codes and no raw text is shown. -/
theorem legible_write (h : registries.PairsTell) :
    Legible (fun c => ¬c.isAlphanum) fun content : PlainExtension =>
      (content.1.write registries).text.toList := by
  rintro ⟨first, hfirst⟩ ⟨second, _⟩ s t hs ht he
  obtain ⟨x, hx, hbx⟩ := first.toList_write registries
  obtain ⟨y, hy, hby⟩ := second.toList_write registries
  have hopen : ∀ {rest : List Char}, Begins (· = '(') rest →
      Begins (fun c => ¬c.isAlphanum) rest := fun hb c hc => by
    rw [hb c hc]
    decide
  have hfront : first.kind.front.toList = second.kind.front.toList := by
    refine apart_of_class (ModelKind.isAlphanum_front (.extension first.kind))
      (ModelKind.isAlphanum_front (.extension second.kind)) (x ++ s) (y ++ t)
      (begins_append (hopen hbx) hs) (begins_append (hopen hby) ht) ?_
    simpa only [hx, hy, List.append_assoc] using he
  have hkind := ExtensionKind.eq_of_front (String.toList_inj.mp hfront)
  have hne : ∀ kind, (ModelKind.extension kind).showsRawText = true → first.kind ≠ kind :=
    fun kind hk => mt (congrArg ModelKind.extension) (ModelKind.ne_of_sort hfirst hk)
  exact Subtype.ext (eq_of_write_append hkind (hne _ rfl) (hne _ rfl) (fun _ => h) he)

/-- Extensions are told by the list that they are written to. -/
theorem legible_writeList (h : registries.PairsTell) :
    Legible (fun _ => True) fun contents : List PlainExtension =>
      (Rendered.list (contents.map fun content => content.1.write registries)).text.toList := by
  refine Rendered.legible_list ((legible_write h).mono ?_) fun content => ?_
  · rintro c (rfl | rfl) <;> decide
  · obtain ⟨c, front, hfront, hc⟩ := content.1.kind.front_eq_cons
    obtain ⟨rest, hw, -⟩ := content.1.toList_write registries
    refine ⟨c, front ++ rest, by rw [hw, hfront, List.cons_append], ?_⟩
    rintro rfl
    exact absurd hc (by decide)

end Extension

namespace Datum

variable {naming : Naming} {registries : Registries}

/-- Extensions as data. -/
def ofExtensions (contents : List Extension) : Datum :=
  .list (contents.map fun content => .model (.extension content))

/-- Extensions are rendered to the list of what they are written to. -/
theorem runIn_renderExtensions (hn : naming.registries? = some registries)
    (contents : List Extension) (w : World) :
    (((ofExtensions contents).renderExtensions (.ok naming)).runIn w).1 =
      .ok (Rendered.list (contents.map (Extension.write registries))).text := by
  have hitem : ∀ content : Extension,
      (renderExtension (.ok naming) (.model (.extension content))).ComesTo
        (.ok (content.write registries)) :=
    fun content => comesTo_render hn (.model (.extension content))
  have hrow : (Rendered.row (fun content => .ok (content.write registries)) contents).1 =
      .ok (contents.map fun content => (content.write registries).text) :=
    Rendered.row_of_forall fun content _ => ⟨_, rfl, rfl⟩
  have hitems : (ofExtensions contents).items =
    .ok (contents.map fun content => .model (.extension content)) := rfl
  have htexts := Action.runIn_mapM hitem contents w
  rw [hrow] at htexts
  unfold renderExtensions
  rw [hitems, Action.runIn_bind_of_ok (Action.runIn_ofResult _ w), List.mapM_map]
  unfold Function.comp
  rw [Action.runIn_bind_of_ok htexts]
  simp [bracketed, Rendered.list, Function.comp_def]

/-- The rendered list of extensions determines the list. If the names of hash algorithms
and signature algorithms are distinct within each table, begin with no mark of an unknown
code and hold no comma and no closing parenthesis, then every row of extensions is
rendered, and rows without names of servers and protocols are rendered alike only if they
are the same. -/
theorem renderExtensions_tells (hn : naming.registries? = some registries)
    (hpairs : registries.PairsTell) (first second : List Extension)
    (hfirst : ∀ content ∈ first, (ModelKind.extension content.kind).showsRawText = false)
    (hsecond : ∀ content ∈ second, (ModelKind.extension content.kind).showsRawText = false)
    (w v : World) :
    ∃ text, (((ofExtensions first).renderExtensions (.ok naming)).runIn w).1 = .ok text ∧
      ((((ofExtensions second).renderExtensions (.ok naming)).runIn v).1 = .ok text ↔
        second = first) := by
  refine ⟨_, runIn_renderExtensions hn first w, ?_⟩
  rw [runIn_renderExtensions hn]
  constructor
  · intro h
    lift first to List PlainExtension using hfirst
    lift second to List PlainExtension using hsecond
    rw [Except.ok.injEq, List.map_map, List.map_map] at h
    rw [(Extension.legible_writeList hpairs).injective (congrArg String.toList h)]
  · rintro rfl
    rfl

/-- One list of groups looks like two with a bare name between them, but for one digit. -/
theorem renderExtensions_tells_lookalike :
    let names : Registries := { namedGroups := [
      (0x1D, some "a)]), EarlyData, EllipticCurves([0x0017(b"), (0x1E, some "a"),
      (0x17, some "b")] }
    let first : List Extension := [.ellipticCurves [0x1D]]
    let second : List Extension := [.ellipticCurves [0x1E], .earlyData, .ellipticCurves [0x17]]
    names.PairsTell ∧
      (∀ content ∈ first, (ModelKind.extension content.kind).showsRawText = false) ∧
      (∀ content ∈ second, (ModelKind.extension content.kind).showsRawText = false) ∧ ∃ text,
        (((ofExtensions first).renderExtensions (.ok names.toNaming)).runIn {}).1 = .ok text ∧
        ((((ofExtensions second).renderExtensions (.ok names.toNaming)).runIn {}).1 = .ok text ↔
          second = first) := by
  intro names first second
  have hpairs : names.PairsTell :=
    Registries.pairsTell_of_table (Registries.namesTell_of_table (by decide) (by decide))
      (Registries.namesTell_of_table (by decide) (by decide)) (by decide)
  have hfirst : ∀ content ∈ first,
    (ModelKind.extension content.kind).showsRawText = false := by decide
  have hsecond : ∀ content ∈ second,
    (ModelKind.extension content.kind).showsRawText = false := by decide
  exact ⟨hpairs, hfirst, hsecond, renderExtensions_tells names.registries?_toNaming hpairs
    first second hfirst hsecond {} {}⟩

end Datum

end TlsTranscript
