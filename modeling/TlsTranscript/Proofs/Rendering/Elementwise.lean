import TlsTranscript.Proofs.Rendering.Dependence

/-!
# Rows rendered element by element

A row is rendered element by element if its text is put together of segments, one for each
element, with commas between neighbours and fixed texts around them, and if its records are
those of the segments in their order. Then the rendering of two rows behind each other is made
of the renderings of both, and an element that is exchanged for another one takes nothing with
it but its own segment and its own records. All of this follows from one property of the
segments: an element is rendered in the same way whatever was rendered before.
-/

namespace TlsTranscript

/-- Renderings are the same if their texts and their records are. -/
theorem Rendered.eq_of_parts {first second : Rendered} (ht : first.text = second.text)
    (hl : first.log = second.log) : first = second := by
  cases first
  cases second
  simp only at ht hl
  rw [ht, hl]

namespace Action

variable {α β : Type}

/-- An action is settled if it answers and records the same in every world and changes
nothing else. -/
def Settled (action : Action α) : Prop :=
  ∃ (result : Except Failure α) (records : List LogRecord), ∀ w,
    action.runIn w = (result, { w with log := records.reverse ++ w.log })

/-- A known result is settled. -/
theorem settled_ofResult (result : Except Failure α) : (ofResult result).Settled :=
  ⟨result, [], fun _ => rfl⟩

/-- Records are added in every world. -/
theorem settled_note (records : List LogRecord) : (note records).Settled :=
  ⟨.ok (), records, fun _ => rfl⟩

/-- A rendering is settled. -/
theorem settled_emit (rendered : Rendered) : (emit rendered).Settled :=
  ⟨.ok rendered.text, rendered.log, fun _ => rfl⟩

/-- A step and what follows it are settled if both are. -/
theorem settled_bind {action : Action α} {next : α → Action β} (h : action.Settled)
    (hnext : ∀ value, (next value).Settled) : (action >>= next).Settled := by
  obtain ⟨result, records, hrun⟩ := h
  cases result with
  | error failure => exact ⟨.error failure, records, fun w => runIn_bind_of_error (hrun w)⟩
  | ok value =>
    obtain ⟨last, more, hmore⟩ := hnext value
    refine ⟨last, records ++ more, fun w => ?_⟩
    rw [runIn_bind_of_ok (hrun w), hmore, List.reverse_append, List.append_assoc]

/-- An action for each item of a list is settled if each one is. -/
theorem settled_mapM {action : α → Action β} (h : ∀ item, (action item).Settled)
    (items : List α) : (items.mapM action).Settled := by
  induction items with
  | nil =>
    rw [List.mapM_nil]
    exact settled_ofResult (.ok [])
  | cons item rest ih =>
    rw [List.mapM_cons]
    exact settled_bind (h item) fun _ => settled_bind ih fun _ => settled_ofResult (.ok _)

/-- A settled action that answers in one world comes to a rendering. -/
theorem Settled.comesTo {action : Action String} (h : action.Settled) {w after : World}
    {text : String} (hrun : action.runIn w = (.ok text, after)) :
    ∃ rendered : Rendered, rendered.text = text ∧ action.ComesTo (.ok rendered) := by
  obtain ⟨result, records, hall⟩ := h
  have hresult : result = .ok text := by
    rw [hall w] at hrun
    exact (Prod.mk.inj hrun).1
  rw [hresult] at hall
  exact ⟨⟨text, records⟩, rfl, hall⟩

/-- An action comes to one rendering. -/
theorem ComesTo.unique {action : Action String} {first second : Rendered}
    (hf : action.ComesTo (.ok first)) (hs : action.ComesTo (.ok second)) : first = second := by
  have hrun := (hf {}).symm.trans (hs {})
  have hlog := congrArg World.log (Prod.mk.inj hrun).2
  simp only [List.append_nil, List.reverse_inj] at hlog
  exact Rendered.eq_of_parts (Except.ok.inj (Prod.mk.inj hrun).1) hlog

/-- Renderings that the items of a list come to, one for each. -/
abbrev Segments (segment : α → Action String) (items : List α) (parts : List Rendered) : Prop :=
  List.Forall₂ (fun item part => (segment item).ComesTo (.ok part)) items parts

variable {segment : α → Action String}

/-- Items that are all rendered are rendered one after the other. -/
theorem runIn_mapM_of_segments {items : List α} {parts : List Rendered}
    (h : Segments segment items parts) (w : World) :
    (items.mapM segment).runIn w =
      (.ok (parts.map Rendered.text),
        { w with log := (parts.flatMap Rendered.log).reverse ++ w.log }) := by
  induction h generalizing w with
  | nil => rfl
  | @cons item part rest others hitem _ ih =>
    rw [List.mapM_cons, runIn_bind_of_ok (hitem w), runIn_bind_of_ok (ih _), runIn_pure]
    simp

/-- Settled items that are rendered one after the other come to renderings of their own. -/
theorem exists_segments (hs : ∀ item, (segment item).Settled) {items : List α} {w after : World}
    {texts : List String} (h : (items.mapM segment).runIn w = (.ok texts, after)) :
    ∃ parts, Segments segment items parts := by
  induction items generalizing w after texts with
  | nil => exact ⟨[], .nil⟩
  | cons item rest ih =>
    rw [List.mapM_cons] at h
    obtain ⟨text, between, hitem, h⟩ := runIn_bind_eq_ok h
    obtain ⟨more, last, hrest, -⟩ := runIn_bind_eq_ok h
    obtain ⟨part, -, hpart⟩ := (hs item).comesTo hitem
    obtain ⟨parts, hparts⟩ := ih hrest
    exact ⟨part :: parts, .cons hpart hparts⟩

/-- The renderings of two lists of items behind each other are those of both. -/
theorem exists_append_of_segments {front behind : List α} {parts : List Rendered}
    (h : Segments segment (front ++ behind) parts) :
    ∃ first second, parts = first ++ second ∧ Segments segment front first ∧
      Segments segment behind second :=
  ⟨parts.take front.length, parts.drop front.length, (List.take_append_drop _ _).symm,
    (List.forall₂_take_append _ _ _ h.flip).flip, (List.forall₂_drop_append _ _ _ h.flip).flip⟩

/-- The items of a list come to one rendering each. -/
theorem segments_unique {items : List α} {first second : List Rendered}
    (hf : Segments segment items first) (hs : Segments segment items second) :
    first = second := by
  induction hf generalizing second with
  | nil => exact (List.forall₂_nil_left_iff.mp hs).symm
  | cons hitem _ ih =>
    obtain ⟨part, parts, hpart, hparts, rfl⟩ := List.forall₂_cons_left_iff.mp hs
    rw [hitem.unique hpart, ih hparts]

/-- A row of items has no renderings only if it is empty. -/
theorem segments_ne_nil {items : List α} {parts : List Rendered}
    (h : Segments segment items parts) (hne : items ≠ []) : parts ≠ [] := by
  rintro rfl
  exact hne (List.forall₂_nil_right_iff.mp h)

end Action

namespace Rendered

/-- A rendering between two texts. -/
def between (front back : String) (inner : Rendered) : Rendered :=
  plain front ++ inner ++ plain back

/-- The same texts around two renderings hide no difference. -/
theorem between_inj {front back : String} {first second : Rendered} :
    between front back first = between front back second ↔ first = second := by
  constructor
  · intro h
    have ht := congrArg String.toList (congrArg text h)
    have hl := congrArg log h
    simp only [between, text_append, text_plain, String.toList_append,
      List.append_cancel_right_eq, List.append_cancel_left_eq] at ht
    simp only [between, log_append, log_plain, List.nil_append, List.append_nil] at hl
    exact eq_of_parts (String.toList_inj.mp ht) hl
  · exact congrArg (between front back)

/-- Rows behind each other are joined like their parts. -/
theorem join_append {first second : List Rendered} (hf : first ≠ []) (hs : second ≠ []) :
    join ", " (first ++ second) = join ", " first ++ plain ", " ++ join ", " second := by
  refine eq_of_parts ?_ (by simp)
  have hft : first.map text ≠ [] := fun h => hf (List.map_eq_nil_iff.mp h)
  have hst : second.map text ≠ [] := fun h => hs (List.map_eq_nil_iff.mp h)
  simp only [text_join, List.map_append, text_append, text_plain,
    String.intercalate_append_of_ne_nil hft hst]

/-- What stands around one part of a joined row does not depend on the part. -/
theorem exists_sides (front behind : List Rendered) :
    ∃ left right : Rendered, ∀ own,
      join ", " (front ++ own :: behind) = left ++ own ++ right := by
  have hright : ∃ right : Rendered, ∀ own : Rendered,
      join ", " (own :: behind) = own ++ right := by
    cases behind with
    | nil => exact ⟨plain "", fun own => by rw [join_singleton, append_plain_empty]⟩
    | cons next rest => exact ⟨_, fun own => join_cons_cons ", " own next rest⟩
  obtain ⟨right, hright⟩ := hright
  cases front with
  | nil => exact ⟨plain "", right, fun own => by rw [List.nil_append, hright, plain_empty_append]⟩
  | cons first rest =>
    refine ⟨join ", " (first :: rest) ++ plain ", ", right, fun own => ?_⟩
    rw [join_append (List.cons_ne_nil first rest) (List.cons_ne_nil own behind), hright,
      append_assoc (join ", " (first :: rest) ++ plain ", ")]

end Rendered

open TlsTranscript.Action Rendered

/-- A way to render rows element by element, between two texts. -/
structure Elementwise {α : Type} (front back : String) (render : List α → Action String) :
    Prop where
  /-- A row that is rendered in one world is rendered in every world, to a text between the
  two, with the same records. -/
  framed : ∀ {row : List α} {w after : World} {text : String}, row ≠ [] →
    (render row).runIn w = (.ok text, after) →
      ∃ inner, (between front back inner).text = text ∧
        (render row).ComesTo (.ok (between front back inner))
  /-- Two rows behind each other are rendered if both are. The texts of both stand beside
  each other, with a comma between them, and so do the records. -/
  append : ∀ {first second : List α} {whole : Rendered}, first ≠ [] → second ≠ [] →
    ((render (first ++ second)).ComesTo (.ok (between front back whole)) ↔
      ∃ a b, (render first).ComesTo (.ok (between front back a)) ∧
        (render second).ComesTo (.ok (between front back b)) ∧ whole = a ++ plain ", " ++ b)
  /-- An element of a rendered row may be exchanged for any that is rendered alone. Its own
  segment changes with it, text and records, and all that stands around stays. -/
  replace : ∀ {before behind : List α} {element : α} {whole : Rendered},
    (render (before ++ element :: behind)).ComesTo (.ok (between front back whole)) →
      ∃ left right : Rendered, ∀ (other : α) (changed : Rendered),
        (render (before ++ other :: behind)).ComesTo (.ok (between front back changed)) ↔
          ∃ own, (render [other]).ComesTo (.ok (between front back own)) ∧
            changed = left ++ own ++ right

namespace Elementwise

section Segmented

variable {α : Type} {front back : String} {render : List α → Action String}
  {segment : α → Action String} (hs : ∀ element, (segment element).Settled)
  (hr : ∀ {row : List α}, row ≠ [] → ∀ w, (render row).runIn w =
    (do return front ++ ", ".intercalate (← row.mapM segment) ++ back : Action String).runIn w)

include hr in
/-- A row comes to the renderings of its elements, joined between two texts. -/
theorem comesTo_of_segments {row : List α} (hne : row ≠ []) {parts : List Rendered}
    (h : Segments segment row parts) :
    (render row).ComesTo (.ok (between front back (join ", " parts))) := by
  intro w
  rw [hr hne, runIn_bind_of_ok (runIn_mapM_of_segments h w), runIn_pure]
  simp [between]

include hs hr

/-- The elements of a row that is rendered come to renderings of their own. -/
theorem exists_segments_of_runIn {row : List α} (hne : row ≠ []) {w after : World}
    {text : String} (h : (render row).runIn w = (.ok text, after)) :
    ∃ parts, Segments segment row parts := by
  rw [hr hne] at h
  obtain ⟨texts, last, htexts, -⟩ := runIn_bind_eq_ok h
  exact exists_segments hs htexts

/-- A row comes to nothing but the renderings of its elements, joined between two texts. -/
theorem comesTo_iff_of_segments {row : List α} (hne : row ≠ []) (inner : Rendered) :
    (render row).ComesTo (.ok (between front back inner)) ↔
      ∃ parts, Segments segment row parts ∧ inner = join ", " parts := by
  constructor
  · intro h
    obtain ⟨parts, hparts⟩ := exists_segments_of_runIn hs hr hne (h {})
    exact ⟨parts, hparts, between_inj.mp (h.unique (comesTo_of_segments hr hne hparts))⟩
  · rintro ⟨parts, hparts, rfl⟩
    exact comesTo_of_segments hr hne hparts

/-- Rows of segments are rendered between the two texts. -/
theorem framed_of_segments {row : List α} {w after : World} {text : String} (hne : row ≠ [])
    (h : (render row).runIn w = (.ok text, after)) :
    ∃ inner, (between front back inner).text = text ∧
      (render row).ComesTo (.ok (between front back inner)) := by
  obtain ⟨parts, hparts⟩ := exists_segments_of_runIn hs hr hne h
  have hcomes := comesTo_of_segments hr hne hparts
  rw [hcomes w] at h
  exact ⟨_, Except.ok.inj (Prod.mk.inj h).1, hcomes⟩

/-- Rows of segments behind each other are rendered behind each other. -/
theorem append_of_segments {first second : List α} (hf : first ≠ []) (hd : second ≠ [])
    (whole : Rendered) :
    (render (first ++ second)).ComesTo (.ok (between front back whole)) ↔
      ∃ a b, (render first).ComesTo (.ok (between front back a)) ∧
        (render second).ComesTo (.ok (between front back b)) ∧ whole = a ++ plain ", " ++ b := by
  have hne : first ++ second ≠ [] := fun h => hf (List.append_eq_nil_iff.mp h).1
  simp only [comesTo_iff_of_segments hs hr hf, comesTo_iff_of_segments hs hr hd,
    comesTo_iff_of_segments hs hr hne]
  constructor
  · rintro ⟨parts, hparts, rfl⟩
    obtain ⟨a, b, rfl, ha, hb⟩ := exists_append_of_segments hparts
    exact ⟨_, _, ⟨a, ha, rfl⟩, ⟨b, hb, rfl⟩,
      join_append (segments_ne_nil ha hf) (segments_ne_nil hb hd)⟩
  · rintro ⟨_, _, ⟨a, ha, rfl⟩, ⟨b, hb, rfl⟩, rfl⟩
    exact ⟨a ++ b, List.rel_append ha hb,
      (join_append (segments_ne_nil ha hf) (segments_ne_nil hb hd)).symm⟩

/-- A segment is exchanged for another one without a change around it. -/
theorem replace_of_segments {before behind : List α} {element : α} {whole : Rendered}
    (h : (render (before ++ element :: behind)).ComesTo (.ok (between front back whole))) :
    ∃ left right : Rendered, ∀ (other : α) (changed : Rendered),
      (render (before ++ other :: behind)).ComesTo (.ok (between front back changed)) ↔
        ∃ own, (render [other]).ComesTo (.ok (between front back own)) ∧
          changed = left ++ own ++ right := by
  have hne : ∀ other : α, before ++ other :: behind ≠ [] := fun other =>
    List.append_ne_nil_of_right_ne_nil before (List.cons_ne_nil other behind)
  obtain ⟨parts, hparts, -⟩ := (comesTo_iff_of_segments hs hr (hne element) whole).mp h
  obtain ⟨a, rest, -, ha, hrest⟩ := exists_append_of_segments hparts
  obtain ⟨-, b, -, hb, -⟩ := List.forall₂_cons_left_iff.mp hrest
  -- the elements around come to the same renderings beside every other element
  have haround : ∀ {other : α} {parts : List Rendered},
      Segments segment (before ++ other :: behind) parts ↔
        ∃ own, (segment other).ComesTo (.ok own) ∧ parts = a ++ own :: b := by
    intro other parts
    constructor
    · intro hparts
      obtain ⟨a', rest, rfl, ha', hrest⟩ := exists_append_of_segments hparts
      obtain ⟨own, b', hown, hb', rfl⟩ := List.forall₂_cons_left_iff.mp hrest
      exact ⟨own, hown, by rw [segments_unique ha' ha, segments_unique hb' hb]⟩
    · rintro ⟨own, hown, rfl⟩
      exact List.rel_append ha (.cons hown hb)
  have halone : ∀ {other : α} {own : Rendered},
      (render [other]).ComesTo (.ok (between front back own)) ↔
        (segment other).ComesTo (.ok own) := by
    intro other own
    rw [comesTo_iff_of_segments hs hr (List.cons_ne_nil other [])]
    constructor
    · rintro ⟨parts, hparts, rfl⟩
      obtain ⟨part, rest, hpart, hrest, rfl⟩ := List.forall₂_cons_left_iff.mp hparts
      obtain rfl := List.forall₂_nil_left_iff.mp hrest
      rwa [join_singleton]
    · exact fun hown => ⟨[own], .cons hown .nil, (join_singleton _ own).symm⟩
  obtain ⟨left, right, hsides⟩ := exists_sides a b
  refine ⟨left, right, fun other changed => ?_⟩
  simp only [comesTo_iff_of_segments hs hr (hne other), haround, halone]
  constructor
  · rintro ⟨_, ⟨own, hown, rfl⟩, rfl⟩
    exact ⟨own, hown, hsides own⟩
  · rintro ⟨own, hown, rfl⟩
    exact ⟨_, ⟨own, hown, rfl⟩, (hsides own).symm⟩

/-- Rows are rendered element by element if their segments are rendered one after the other
and each of them is settled. -/
theorem of_segments : Elementwise front back render where
  framed := framed_of_segments hs hr
  append := fun hf hd => append_of_segments hs hr hf hd _
  replace := replace_of_segments hs hr

end Segmented

/-- Rows that come to the renderings of their elements, joined between two texts, are rendered
element by element. -/
theorem of_comesTo {α : Type} {front back : String} {render : List α → Action String}
    {part : α → Rendered} (h : ∀ row,
      (render row).ComesTo (.ok (between front back (join ", " (row.map part))))) :
    Elementwise front back render := by
  have hsettled : ∀ element, (emit (part element)).Settled := fun element =>
    settled_emit (part element)
  refine of_segments hsettled fun {row} _ w => ?_
  have hsegments : Segments (fun element => emit (part element)) row (row.map part) :=
    List.forall₂_map_right_iff.mpr (List.forall₂_same.mpr fun element _ w => runIn_emit _ w)
  rw [h row w, runIn_bind_of_ok (runIn_mapM_of_segments hsegments w), runIn_pure]
  simp [between]

end Elementwise

end TlsTranscript
