import Mathlib.Data.List.Basic
import Mathlib.Data.List.TakeWhile
import TlsTranscript.Proofs.Rendering.Rows
import TlsTranscript.Proofs.Writing.Pieces

/-!
# What renderings report

The log of a rendering is a trace of what could not be shown by name or by text. Each
code without a name and each octet string that is not UTF-8 is reported once for every
time that it is shown, in the order in which the values are shown, and nothing else is.
A row of renderings reports what its elements do, one after the other, up to the first
that is refused.
-/

namespace TlsTranscript

variable {naming : Naming} {registries : Registries}

/-- What can be read of a record in a log. -/
structure Report where
  /-- The part of the program that wrote the record. -/
  source : String
  /-- The name of its level. -/
  level : String
  /-- Its wording. -/
  message : String
  deriving DecidableEq

namespace Report

/-- That a code of a kind has no name. -/
def unlisted (kind : RegistryKind) (code : Int) : Report :=
  ⟨"tlsdebug.registry.resolve", "DEBUG", "no " ++ kind.name ++ " entry for " ++
    Text.hexSigned code⟩

/-- That octets are not UTF-8. -/
def undecodable (data : Bytes) : Report :=
  ⟨"tlsdebug.common.utils", "DEBUG", "invalid utf-8 in text field: " ++ Bytes.quoted data⟩

end Report

/-- What can be read of a record. -/
def LogRecord.report (entry : LogRecord) : Report :=
  ⟨entry.source, entry.level.name, entry.message⟩

/-- An action reports something: whatever the world is, it adds records that read like
this to the log, the oldest one first, and changes nothing else. -/
def Action.Reports {α : Type} (action : Action α) (reports : List Report) : Prop :=
  ∀ w, ∃ records : List LogRecord,
    (action.runIn w).2 = { w with log := records.reverse ++ w.log } ∧
    records.map LogRecord.report = reports

/-- What is reported of a piece that is shown: a code without a name, and octets that
are not UTF-8. -/
def Piece.report? (registries : Registries) : Piece → Option Report
  | .literal _ => none
  | .code kind value =>
    match registries.nameOf? kind value with
    | some _ => none
    | none => some (.unlisted kind value)
  | .rawText data =>
    match Utf8.decode data with
    | .ok _ => none
    | .error _ => some (.undecodable data)

/-- The records of a written piece are what is reported of it. -/
theorem Piece.map_report_log (piece : Piece) :
    (piece.write registries).log.map LogRecord.report = (piece.report? registries).toList := by
  cases piece with
  | literal text => rfl
  | code kind value =>
    simp only [write, Registries.write, report?]
    cases registries.nameOf? kind value with
    | some name => rfl
    | none => rfl
  | rawText data =>
    simp only [write, Rendered.ofOctets, report?]
    cases Utf8.decode data with
    | ok text => rfl
    | error fault => rfl

/-- The records of pieces are what is reported of the values among them. -/
theorem Piece.map_report_log_writeAll (pieces : List Piece) :
    (writeAll registries pieces).log.map LogRecord.report =
      (pieces.filter isValue).filterMap (report? registries) := by
  rw [log_writeAll, List.map_flatMap, List.filterMap_eq_flatMap_toList]
  exact List.flatMap_congr fun piece _ => piece.map_report_log

namespace Model

/-- What is reported of a model: what is reported of the values that it shows, in the
order in which it shows them. -/
def reports (registries : Registries) (model : Model) : List Report :=
  model.values.filterMap (Piece.report? registries)

/-- The records of a rendered model are what is reported of it. -/
theorem map_report_log {model : Model} {rendered : Rendered}
    (h : model.rendered registries = .ok rendered) :
    rendered.log.map LogRecord.report = model.reports registries := by
  obtain ⟨pieces, hvalues, hwrite⟩ := model.exists_pieces
  rw [hwrite registries rendered h, Piece.map_report_log_writeAll, hvalues, reports]

/-- The records of a rendered model are for those who look for a fault. -/
theorem level_of_mem_log {model : Model} {rendered : Rendered}
    (h : model.rendered registries = .ok rendered) {entry : LogRecord}
    (hmem : entry ∈ rendered.log) : entry.level = .debug := by
  have hreport : entry.report ∈ model.reports registries := by
    rw [← map_report_log h]
    exact List.mem_map_of_mem hmem
  obtain ⟨piece, -, hpiece⟩ := List.mem_filterMap.mp hreport
  have hlevel : entry.report.level = "DEBUG" := by
    cases piece with
    | literal text => cases hpiece
    | code kind value =>
      simp only [Piece.report?] at hpiece
      split at hpiece
      · cases hpiece
      · rw [← Option.some.inj hpiece]
        rfl
    | rawText data =>
      simp only [Piece.report?] at hpiece
      split at hpiece
      · cases hpiece
      · rw [← Option.some.inj hpiece]
        rfl
  have hinfo : "INFO" ≠ "DEBUG" := by decide
  cases entry with
  | unlistedCode kind code => rfl
  | undecodableText literal => rfl
  | transcriptWritten path => exact absurd hlevel hinfo
  | linesRendered count => exact absurd hlevel hinfo

/-- Of a model that is refused nothing is reported, since it shows no values. -/
theorem reports_of_error {model : Model} {failure : Failure}
    (h : model.rendered registries = .error failure) : model.reports registries = [] := by
  cases model with
  | message content =>
    cases content with
    | recordHeader header => rfl
    | _ => cases h
  | extension content => cases h
  | parsed => rfl
  | bareExtension => rfl
  | settings content => rfl

/-- The rendering of a model reports what there is to be reported of it, also where it
fails. -/
theorem reports_render (hn : naming.registries? = some registries) (model : Model) :
    ((Datum.model model).render (.ok naming)).Reports (model.reports registries) := by
  intro w
  rw [Datum.runIn_render hn]
  cases hr : model.rendered registries with
  | ok rendered => exact ⟨rendered.log, rfl, map_report_log hr⟩
  | error failure => exact ⟨[], rfl, (reports_of_error hr).symm⟩

/-- A row of renderings reports what its elements do, up to the first that is refused. -/
theorem reports_renderLines (hn : naming.registries? = some registries) {models : List Model}
    (hp : ∀ model ∈ models, model.isProtocol = true) :
    ((Datum.ofModels models).renderLines (.ok naming)).Reports
      ((models.takeWhile isWritable).flatMap (reports registries)) := by
  intro w
  refine ⟨_, by rw [Datum.runIn_renderModels hn], Rendered.map_records_row ?_ ?_⟩
  · intro model hm hw
    obtain ⟨rendered, hr⟩ := (exists_rendered_iff registries model).mpr ⟨hp model hm, hw⟩
    exact ⟨rendered, hr, map_report_log hr⟩
  · intro model hm hw
    cases hr : model.rendered registries with
    | error failure => exact ⟨failure, rfl⟩
    | ok rendered =>
      have hwritable := ((exists_rendered_iff registries model).mp ⟨rendered, hr⟩).2
      rw [hw] at hwritable
      cases hwritable

/-- The log of a rendering is a trace of the values that could not be shown by name or as
text. Every model shows its values in the fixed order of its own, whatever the registries
are, and its rendering reports those of them that have no name and those that are not
UTF-8, one by one in this order. A row of renderings reports what its elements do one
after the other, if every element is rendered; otherwise it ends at the first that is
refused. -/
theorem render_reports_values (hn : naming.registries? = some registries) :
    (∀ model : Model,
      (∃ pieces : List Piece, pieces.filter Piece.isValue = model.values ∧
        ∀ others rendered, model.rendered others = .ok rendered →
          rendered = Piece.writeAll others pieces) ∧
      (∀ w, (((Datum.model model).render (.ok naming)).runIn w).1 =
        (model.rendered registries).map Rendered.text) ∧
      ((Datum.model model).render (.ok naming)).Reports
        (model.values.filterMap (Piece.report? registries))) ∧
    ∀ models : List Model, (∀ model ∈ models, model.isProtocol = true) →
      ((Datum.ofModels models).renderLines (.ok naming)).Reports
        ((models.takeWhile isWritable).flatMap (reports registries)) ∧
      ((∀ model ∈ models, model.isWritable = true) →
        ((Datum.ofModels models).renderLines (.ok naming)).Reports
          (models.flatMap (reports registries))) := by
  refine ⟨fun model => ⟨model.exists_pieces, fun w => ?_, reports_render hn model⟩,
    fun models hp => ⟨reports_renderLines hn hp, fun hw => ?_⟩⟩
  · rw [Datum.runIn_render hn]
    cases model.rendered registries with
    | ok rendered => rfl
    | error failure => rfl
  · have hall : models.takeWhile isWritable = models := List.takeWhile_eq_self_iff.mpr hw
    have hreports := reports_renderLines hn hp
    rwa [hall] at hreports

/-- Codes and names that are shown twice are reported twice, hash algorithms in front of
signature algorithms. -/
theorem render_reports_values_twice :
    let names : Registries := { hashAlgorithms := [(4, some "sha256"), (6, none)] }
    let model : Model := .extension (.signatureAlgorithms [(6, 1), (4, 1)])
    let models : List Model := [model, .extension (.alpn [[0x68], [0xFF], [0xFF]])]
    let hash : Report := .unlisted .hashAlgorithm 6
    let sign : Report := .unlisted .signatureAlgorithm 1
    let text : Report := .undecodable [0xFF]
    ((Datum.model model).render (.ok names.toNaming)).Reports [hash, sign, sign] ∧
      ((Datum.ofModels models).renderLines (.ok names.toNaming)).Reports
        [hash, sign, sign, text, text] := by
  intro names model models hash sign text
  have hreports := render_reports_values names.registries?_toNaming
  exact ⟨(hreports.1 model).2.2, (hreports.2 models (by decide)).2 (by decide)⟩

/-- A record whose length has too many digits ends a row of renderings, and the group
without a name behind it goes unreported. -/
theorem renderLines_ends_reports :
    let header : Model := .message (.recordHeader ⟨0x16, 0x0301, Nat.pow 10 Text.maxDigits⟩)
    let models : List Model := [header, .extension (.ellipticCurves [0x9999])]
    let row := (Datum.ofModels models).renderLines (.ok .assigned)
    (∀ model ∈ models, model.isProtocol = true) ∧
      models.flatMap (reports .assigned) = [.unlisted .namedGroup 0x9999] ∧
      row.runIn {} = (.error (.refused .tooManyDigits), {}) ∧
      ¬row.Reports (models.flatMap (reports .assigned)) := by
  intro header models row
  have hreported : models.flatMap (reports .assigned) = [.unlisted .namedGroup 0x9999] := rfl
  have hrefused : header.rendered .assigned = .error (.refused .tooManyDigits) :=
    rendered_of_isWritable_eq_false (Message.isWritable_recordHeader_pow _ _) .assigned
  have hn : Naming.assigned.registries? = some .assigned := rfl
  have hrun : row.runIn {} = (.error (.refused .tooManyDigits), {}) := by
    simp only [row, models]
    rw [Datum.runIn_renderModels hn, Rendered.row, hrefused]
    rfl
  refine ⟨by decide, hreported, hrun, fun hreports => ?_⟩
  obtain ⟨records, hworld, hrecords⟩ := hreports {}
  have hlog : records.reverse ++ [] = [] := by
    rw [hrun] at hworld
    exact (congrArg World.log hworld).symm
  rw [List.append_nil, List.reverse_eq_nil_iff] at hlog
  rw [hreported, hlog] at hrecords
  cases hrecords

end Model

end TlsTranscript
