import Mathlib.Logic.Basic
import TlsTranscript.Proofs.Text.Lines
import TlsTranscript.Proofs.Text.Utf8

/-!
# Line ends among octets

What it comes to among the octets of a text that its lines are cut apart and put together
again. A carriage return and a line feed are one octet each and no octet of another
character, so that the octets of the text need not be decoded for it: a carriage return in
front of a line feed is dropped, any other one is turned into a line feed, and a last line
without an end gets one.
-/

namespace TlsTranscript.Text

/-- Octets without the carriage returns that stand in front of a line feed. -/
def dropReturns : Bytes → Bytes
  | [] => []
  | octet :: rest =>
    if octet = 0x0D ∧ rest.head? = some 0x0A then dropReturns rest else octet :: dropReturns rest

/-- A line feed for a carriage return, and any other octet as it is. -/
def feedFor (octet : UInt8) : UInt8 := if octet = 0x0D then 0x0A else octet

/-- Nothing, or octets that end with a line feed or a carriage return. -/
def IsEnded (content : Bytes) : Prop :=
  content = [] ∨ content.getLast? = some 0x0A ∨ content.getLast? = some 0x0D

instance (content : Bytes) : Decidable (IsEnded content) :=
  inferInstanceAs (Decidable (_ ∨ _ ∨ _))

/-- Octets with one line feed for each line end, and with one at the end. -/
def normalize (content : Bytes) : Bytes :=
  (dropReturns content).map feedFor ++ if IsEnded content then [] else [0x0A]

/-- Octets without carriage returns are left as they are. -/
theorem dropReturns_append {front : Bytes} (h : 0x0D ∉ front) (rest : Bytes) :
    dropReturns (front ++ rest) = front ++ dropReturns rest := by
  induction front with
  | nil => rfl
  | cons octet front ih =>
    rw [List.mem_cons, not_or] at h
    obtain ⟨hne, hfront⟩ := h
    rw [List.cons_append, dropReturns, if_neg fun hr => hne hr.1.symm, ih hfront,
      List.cons_append]

/-- Octets without carriage returns stand for themselves. -/
theorem map_feedFor {content : Bytes} (h : 0x0D ∉ content) : content.map feedFor = content := by
  have hid : content.map feedFor = content.map fun octet => octet := by
    refine List.map_congr_left fun octet hm => if_neg ?_
    rintro rfl
    exact h hm
  rw [hid, List.map_id']

/-- A text begins with a line feed if its octets do. -/
theorem head?_eq_of_flatMap_encodeChar {text : List Char}
    (h : (text.flatMap Utf8.encodeChar).head? = some 0x0A) : ∃ rest, text = '\n' :: rest := by
  cases text with
  | nil => cases h
  | cons c rest =>
    obtain ⟨a, behind, he, -⟩ := Utf8.encodeChar_fronts c
    rw [List.flatMap_cons, he, List.cons_append, List.head?_cons] at h
    have hm : UInt8.ofNat '\n'.toNat ∈ Utf8.encodeChar c := by
      rw [he, show UInt8.ofNat '\n'.toNat = a from (Option.some.inj h).symm]
      exact List.mem_cons_self
    exact ⟨rest, by rw [Utf8.eq_of_mem_encodeChar (by decide) hm]⟩

/-- Line ends are turned into line feeds octet by octet as they are character by
character. -/
theorem flatMap_unifyLineEnds (text : List Char) :
    (unifyLineEnds text).flatMap Utf8.encodeChar =
      (dropReturns (text.flatMap Utf8.encodeChar)).map feedFor := by
  have hfeed : Utf8.encodeChar '\n' = [0x0A] := by decide
  have hreturn : Utf8.encodeChar '\r' = [0x0D] := by decide
  induction text using unifyLineEnds.induct with
  | case1 => rfl
  | case2 rest ih =>
    have hpair : ('\r' :: '\n' :: rest).flatMap Utf8.encodeChar =
        0x0D :: 0x0A :: rest.flatMap Utf8.encodeChar := by
      simp only [List.flatMap_cons, hfeed, hreturn, List.singleton_append]
    rw [unifyLineEnds, List.flatMap_cons, ih, hfeed, hpair, dropReturns, if_pos ⟨rfl, rfl⟩,
      dropReturns, if_neg fun h => absurd h.1 (by decide)]
    rfl
  | case3 rest hne ih =>
    have hhead : (rest.flatMap Utf8.encodeChar).head? ≠ some 0x0A := fun h => by
      obtain ⟨tail, rfl⟩ := head?_eq_of_flatMap_encodeChar h
      exact hne tail rfl
    rw [unifyLineEnds, List.flatMap_cons, List.flatMap_cons, ih, hfeed, hreturn,
      List.singleton_append, List.singleton_append, dropReturns, if_neg fun h => hhead h.2]
    · rfl
    · exact hne
  | case4 c rest hpair hne ih =>
    have hc : 0x0D ∉ Utf8.encodeChar c := fun h =>
      hne (Utf8.eq_of_mem_encodeChar (d := '\r') (by decide) h)
    rw [unifyLineEnds, List.flatMap_cons, List.flatMap_cons, ih, dropReturns_append hc,
      List.map_append, map_feedFor hc]
    · exact hpair
    · exact hne

/-- The last octet is never dropped. -/
theorem getLast?_dropReturns (content : Bytes) :
    (dropReturns content).getLast? = content.getLast? := by
  induction content with
  | nil => rfl
  | cons octet rest ih =>
    rw [dropReturns]
    split
    · next h =>
      obtain ⟨tail, rfl⟩ := List.head?_eq_some_iff.mp h.2
      rw [ih, List.getLast?_cons_cons]
    · rw [List.getLast?_cons, List.getLast?_cons, ih]

/-- A text is empty or ends with a line feed exactly if its octets do. -/
theorem terminated_iff_flatMap (text : List Char) :
    Terminated text ↔ text.flatMap Utf8.encodeChar = [] ∨
      (text.flatMap Utf8.encodeChar).getLast? = some 0x0A := by
  have hfeed : Utf8.encodeChar '\n' = [0x0A] := by decide
  rcases List.eq_nil_or_concat text with rfl | ⟨front, c, rfl⟩
  · exact ⟨fun _ => .inl rfl, fun _ => .inl rfl⟩
  · obtain ⟨a, behind, he, -⟩ := Utf8.encodeChar_fronts c
    have hlast : ((front ++ [c]).flatMap Utf8.encodeChar).getLast? =
        (Utf8.encodeChar c).getLast? := by
      rw [List.flatMap_append, List.flatMap_singleton, List.getLast?_append, he, List.getLast?_cons,
        Option.some_or]
    have htext : front ++ [c] ≠ [] := List.append_ne_nil_of_right_ne_nil _ (List.cons_ne_nil _ _)
    have hoctets : (front ++ [c]).flatMap Utf8.encodeChar ≠ [] := fun h =>
      htext (Utf8.eq_nil_of_flatMap_encodeChar h)
    rw [List.concat_eq_append, Terminated, List.getLast?_concat, hlast, or_iff_right htext,
      or_iff_right hoctets]
    constructor
    · intro h
      rw [Option.some.inj h, hfeed, List.getLast?_singleton]
    · intro h
      exact congrArg some (Utf8.eq_of_mem_encodeChar (by decide) (List.mem_of_getLast? h))

/-- A text with line feeds for its line ends is empty or ends with one exactly if the octets
of the text are ended. -/
theorem terminated_unifyLineEnds_iff (text : List Char) :
    Terminated (unifyLineEnds text) ↔ IsEnded (text.flatMap Utf8.encodeChar) := by
  have hfeed : ∀ octet, feedFor octet = 0x0A ↔ octet = 0x0A ∨ octet = 0x0D := fun octet => by
    unfold feedFor
    split <;> simp [*]
  have hnil : text.flatMap Utf8.encodeChar = [] ↔
      (unifyLineEnds text).flatMap Utf8.encodeChar = [] := by
    constructor
    · intro h
      rw [Utf8.eq_nil_of_flatMap_encodeChar h]
      rfl
    · intro h
      cases text with
      | nil => rfl
      | cons c rest =>
        exact absurd (Utf8.eq_nil_of_flatMap_encodeChar h)
          (unifyLineEnds_ne_nil (List.cons_ne_nil c rest))
  rw [terminated_iff_flatMap, IsEnded, hnil, flatMap_unifyLineEnds, List.getLast?_map,
    getLast?_dropReturns]
  cases (text.flatMap Utf8.encodeChar).getLast? with
  | none => simp
  | some octet => simp [hfeed]

/-- A text is empty or ends with a line feed exactly if what stands behind its first character
does and that character is a line feed or not the last one. -/
theorem terminated_cons_iff {c : Char} {rest : List Char} :
    Terminated (c :: rest) ↔ Terminated rest ∧ (c = '\n' ∨ rest ≠ []) := by
  refine ⟨fun h => ⟨h.of_cons, ?_⟩, fun h => h.1.cons h.2⟩
  by_cases hc : c = '\n'
  · exact .inl hc
  · exact .inr (h.ne_nil hc)

/-- Lines that are cut apart and put together again are the text with a line feed at its
end. -/
theorem joinLines_splitLines (text : List Char) :
    joinLines (splitLines text) = text ++ if Terminated text then [] else ['\n'] := by
  induction text with
  | nil => rfl
  | cons c rest ih =>
    rw [splitLines]
    by_cases hc : c = '\n'
    · have hiff : Terminated (c :: rest) ↔ Terminated rest := by
        rw [terminated_cons_iff, and_iff_left (.inl hc)]
      rw [if_pos hc, joinLines_cons, ih, hc]
      simp only [← hc, hiff, List.nil_append, List.cons_append]
    · rw [if_neg hc]
      cases hs : splitLines rest with
      | nil =>
        obtain rfl : rest = [] := by
          cases rest with
          | nil => rfl
          | cons d rest => exact absurd hs (splitLines_ne_nil (List.cons_ne_nil d rest))
        have hnot : ¬Terminated [c] := fun h => absurd (h.ne_nil hc) (not_not.mpr rfl)
        rw [if_neg hnot]
        rfl
      | cons line lines =>
        have hne : rest ≠ [] := by
          rintro rfl
          cases hs
        have hiff : Terminated (c :: rest) ↔ Terminated rest := by
          rw [terminated_cons_iff, and_iff_left (.inr hne)]
        rw [hs, joinLines_cons] at ih
        simp only [joinLines_cons, List.cons_append, ih, hiff]

/-- A text whose lines are cut apart, whatever their ends, and put together again has the
octets that its own octets come to. -/
theorem flatMap_joinLines_splitLines (text : List Char) :
    (joinLines (splitLines (unifyLineEnds text))).flatMap Utf8.encodeChar =
      normalize (text.flatMap Utf8.encodeChar) := by
  rw [joinLines_splitLines, List.flatMap_append, flatMap_unifyLineEnds, normalize]
  by_cases h : Terminated (unifyLineEnds text)
  · rw [if_pos h, if_pos ((terminated_unifyLineEnds_iff text).mp h), List.flatMap_nil]
  · rw [if_neg h, if_neg ((terminated_unifyLineEnds_iff text).not.mp h)]
    rfl

end TlsTranscript.Text
