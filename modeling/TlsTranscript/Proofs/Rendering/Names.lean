import TlsTranscript.Proofs.Rendering.Rows
import TlsTranscript.Proofs.Writing.Assigned

/-!
# Names that stand alone

Alerts, pairs of algorithms and what is signed with such a pair show codes of one octet
under their names, without the numbers. Their renderings tell them all the same, if the
names of each kind are distinct and look like no mark of an unknown code, and if those in
pairs hold no separator. The names of the assigned codes are of that sort.
-/

namespace TlsTranscript

open Text

/-- Whether the models of a kind show names of codes without the numbers behind them, and
no text as it was sent. -/
def ModelKind.showsNamesAlone : ModelKind → Bool
  | .message .alert | .message .hashSignAlgorithm | .message .digitallySigned
  | .extension .signatureAlgorithms => true
  | _ => false

/-- Registries whose names tell their codes wherever they stand alone. -/
structure Registries.NamesAloneTell (registries : Registries) : Prop where
  /-- Names of severities tell their codes. -/
  severities : registries.NamesTell .alertSeverity
  /-- Names of algorithms tell their codes in pairs. -/
  pairs : registries.PairsTell

/-- The assigned names tell their codes wherever they stand alone. -/
theorem Registries.assigned_namesAloneTell : assigned.NamesAloneTell where
  severities := assigned_namesTell_alertSeverity
  pairs := assigned_pairsTell

namespace Model

variable {naming : Naming} {registries : Registries}

/-- Models that show names alone are rendered, whatever the names are. -/
theorem exists_rendered_of_showsNamesAlone (registries : Registries) {model : Model}
    (h : model.kind.showsNamesAlone = true) :
    ∃ rendered, model.rendered registries = .ok rendered := by
  rw [exists_rendered_iff]
  cases model with
  | message content =>
    refine ⟨rfl, ?_⟩
    cases content with
    | recordHeader header => cases h
    | _ => rfl
  | extension content => exact ⟨rfl, rfl⟩
  | _ => cases h

/-- Where names tell their codes, a model that shows names alone is told by its
rendering. -/
theorem eq_of_rendered_of_showsNamesAlone (hr : registries.NamesAloneTell)
    {first second : Model} {x y : Rendered} (h : first.kind.showsNamesAlone = true)
    (hx : first.rendered registries = .ok x) (hy : second.rendered registries = .ok y)
    (he : x.text = y.text) : first = second := by
  exact eq_of_rendered hx hy he (ModelKind.ne_of_sort h rfl) (ModelKind.ne_of_sort h rfl)
    (fun _ => hr.severities) fun _ => hr.pairs

/-- Renderings with names alone are unambiguous under sane tables. If the names of
severities, hash algorithms and signature algorithms are distinct within each table and
begin with no mark of an unknown code, and those of algorithms hold no comma and no
closing parenthesis, then every alert, pair of algorithms, signed content and row of pairs
is rendered, and a model that is rendered alike is the same one. The assigned names are of
that sort. -/
theorem render_tells_namesAlone :
    (∀ (naming : Naming) (registries : Registries), naming.registries? = some registries →
      registries.NamesAloneTell →
      ∀ (first second : Model), first.kind.showsNamesAlone = true → ∀ w v : World, ∃ text,
        (((Datum.model first).render (.ok naming)).runIn w).1 = .ok text ∧
        ((((Datum.model second).render (.ok naming)).runIn v).1 = .ok text ↔
          second = first)) ∧
    Naming.assigned.registries? = some .assigned ∧ Registries.assigned.NamesAloneTell := by
  refine ⟨?_, rfl, Registries.assigned_namesAloneTell⟩
  intro naming registries hn hr first second h w v
  obtain ⟨rendered, hfirst⟩ := exists_rendered_of_showsNamesAlone registries h
  have hresult : ∀ u : World,
      (((Datum.model first).render (.ok naming)).runIn u).1 = .ok rendered.text := by
    intro u
    rw [Datum.runIn_render hn, hfirst]
  refine ⟨rendered.text, hresult w, fun hsecond => ?_, fun he => he ▸ hresult v⟩
  rw [Datum.runIn_render hn] at hsecond
  cases hother : second.rendered registries with
  | error failure => simp only [hother, reduceCtorEq] at hsecond
  | ok other =>
    simp only [hother, Except.ok.injEq] at hsecond
    exact (eq_of_rendered_of_showsNamesAlone hr h hfirst hother hsecond.symm).symm

/-- Names may be empty, come close to the mark of an unknown code, or look like the end of
one field and the beginning of another. -/
theorem render_tells_namesAlone_lookalike :
    let names : Registries := {
      hashAlgorithms := [(1, some ""), (2, none), (3, some "Unknown hash 0x2/2>")]
      signatureAlgorithms := [(1, some "<Unknown"), (2, some " \x7d")]
      alertSeverities := [(1, some "fatal, code: 2 \x7d"), (2, some "fatal")] }
    let signed : Model := .message (.digitallySigned ⟨⟨2, 2⟩, [0x29]⟩)
    let other : Model := .message (.digitallySigned ⟨⟨3, 2⟩, [0x29]⟩)
    names.NamesAloneTell ∧ signed.kind.showsNamesAlone = true ∧ ∃ text,
      (((Datum.model signed).render (.ok names.toNaming)).runIn {}).1 = .ok text ∧
      ((((Datum.model other).render (.ok names.toNaming)).runIn {}).1 = .ok text ↔
        other = signed) := by
  intro names signed other
  have hr : names.NamesAloneTell := {
    severities := Registries.namesTell_of_table (by decide) (by decide)
    pairs := Registries.pairsTell_of_table
      (Registries.namesTell_of_table (by decide) (by decide))
      (Registries.namesTell_of_table (by decide) (by decide)) (by decide) }
  exact ⟨hr, rfl, render_tells_namesAlone.1 _ _ names.registries?_toNaming hr signed other rfl
    {} {}⟩

end Model

end TlsTranscript
