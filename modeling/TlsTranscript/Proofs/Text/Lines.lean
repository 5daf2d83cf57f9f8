import TlsTranscript.Text.Lines

/-!
# Lines read back

Lines that are written with a line feed behind each are read back one by one if
none of them holds a line end, and only then: what is read never holds one.
-/

namespace TlsTranscript.Text

/-- A text without a line end. -/
def SingleLine (text : List Char) : Prop := '\n' ∉ text ∧ '\r' ∉ text

instance (text : List Char) : Decidable (SingleLine text) :=
  inferInstanceAs (Decidable (_ ∧ _))

/-- Lines one after the other, each with a line feed behind it. -/
def joinLines (lines : List (List Char)) : List Char := lines.flatMap (· ++ ['\n'])

/-- A line in front of others. -/
theorem joinLines_cons (line : List Char) (lines : List (List Char)) :
    joinLines (line :: lines) = line ++ '\n' :: joinLines lines := by
  rw [joinLines, List.flatMap_cons, List.append_assoc, List.singleton_append, ← joinLines]

/-- A line that ends with anything but a line feed keeps its end. -/
theorem chomp_of_concat {line : String} {front : List Char} {c : Char}
    (h : line.toList = front ++ [c]) (hc : c ≠ '\n') : chomp line = line := by
  have hd : line.toList.reverse.dropWhile (· == '\n') = line.toList.reverse := by
    rw [h, List.reverse_append, List.reverse_singleton, List.singleton_append,
      List.dropWhile_cons, if_neg (by simpa using hc)]
  rw [chomp, trimEnd, hd, List.reverse_reverse, String.ofList_toList]

/-- A line without a line feed keeps its end. -/
theorem chomp_of_not_mem {line : String} (h : '\n' ∉ line.toList) : chomp line = line := by
  rcases List.eq_nil_or_concat line.toList with hn | ⟨front, c, hc⟩
  · obtain rfl : line = "" := String.toList_inj.mp (hn.trans String.toList_empty.symm)
    rfl
  · rw [List.concat_eq_append] at hc
    refine chomp_of_concat hc ?_
    rintro rfl
    exact h (by rw [hc]; exact List.mem_append_right _ (List.mem_singleton_self _))

/-- A text without a carriage return has line feeds for its line ends already. -/
theorem unifyLineEnds_of_not_mem {text : List Char} (h : '\r' ∉ text) :
    unifyLineEnds text = text := by
  induction text using unifyLineEnds.induct with
  | case1 => rfl
  | case2 rest ih => simp at h
  | case3 rest hne ih => simp at h
  | case4 c rest hpair hreturn ih =>
    rw [unifyLineEnds, ih fun hm => h (List.mem_cons_of_mem _ hm)]
    · exact hpair
    · exact hreturn

/-- Once line ends are line feeds, no carriage return is left. -/
theorem not_mem_unifyLineEnds (text : List Char) : '\r' ∉ unifyLineEnds text := by
  induction text using unifyLineEnds.induct with
  | case1 => simp [unifyLineEnds]
  | case2 rest ih => simpa [unifyLineEnds] using ih
  | case3 rest hne ih =>
    rw [unifyLineEnds]
    · simpa using ih
    · exact hne
  | case4 c rest hpair hreturn ih =>
    rw [unifyLineEnds]
    · have hc : '\r' ≠ c := fun he => hreturn he.symm
      simpa [hc] using ih
    · exact hpair
    · exact hreturn

/-- A line that holds no line feed is cut off at the first one behind it. -/
theorem splitLines_feed_append {line : List Char} (h : '\n' ∉ line) (rest : List Char) :
    splitLines (line ++ '\n' :: rest) = line :: splitLines rest := by
  induction line with
  | nil => simp [splitLines]
  | cons c line ih =>
    have hc : c ≠ '\n' := fun he => h (he ▸ List.mem_cons_self)
    have hl : '\n' ∉ line := fun hm => h (List.mem_cons_of_mem _ hm)
    rw [List.cons_append, splitLines, if_neg hc, ih hl]

/-- Lines that hold no line feed are cut apart again. -/
theorem splitLines_joinLines {lines : List (List Char)} (h : ∀ line ∈ lines, '\n' ∉ line) :
    splitLines (joinLines lines) = lines := by
  induction lines with
  | nil => rfl
  | cons line lines ih =>
    rw [joinLines_cons, splitLines_feed_append (h line List.mem_cons_self),
      ih fun other hm => h other (List.mem_cons_of_mem _ hm)]

/-- What is cut apart holds no line feed, and nothing that the text does not hold. -/
theorem mem_of_mem_splitLines {text line : List Char} (h : line ∈ splitLines text) :
    ∀ c ∈ line, c ≠ '\n' ∧ c ∈ text := by
  induction text generalizing line with
  | nil => cases h
  | cons d text ih =>
    rw [splitLines] at h
    by_cases hd : d = '\n'
    · rw [if_pos hd] at h
      rcases List.mem_cons.mp h with rfl | hm
      · intro c hc
        cases hc
      · exact fun c hc => (ih hm c hc).imp_right (List.mem_cons_of_mem _)
    · rw [if_neg hd] at h
      cases hs : splitLines text with
      | nil =>
        simp only [hs, List.mem_singleton] at h
        intro c hc
        rw [h, List.mem_singleton] at hc
        exact ⟨hc ▸ hd, hc ▸ List.mem_cons_self⟩
      | cons first others =>
        simp only [hs, List.mem_cons] at h
        rcases h with rfl | hm
        · intro c hc
          rcases List.mem_cons.mp hc with rfl | hc
          · exact ⟨hd, List.mem_cons_self⟩
          · exact (ih (by rw [hs]; exact List.mem_cons_self) c hc).imp_right
              (List.mem_cons_of_mem _)
        · exact fun c hc => (ih (by rw [hs]; exact List.mem_cons_of_mem _ hm) c hc).imp_right
            (List.mem_cons_of_mem _)

/-- Lines are read back one by one exactly when none of them holds a line end. -/
theorem splitLines_unifyLineEnds_joinLines_iff (lines : List (List Char)) :
    splitLines (unifyLineEnds (joinLines lines)) = lines ↔ ∀ line ∈ lines, SingleLine line := by
  constructor
  · intro h line hl
    rw [← h] at hl
    have hm := mem_of_mem_splitLines hl
    exact ⟨fun hn => (hm _ hn).1 rfl, fun hr => not_mem_unifyLineEnds _ (hm _ hr).2⟩
  · intro h
    have hr : '\r' ∉ joinLines lines := by
      intro hm
      obtain ⟨line, hl, hc⟩ := List.mem_flatMap.mp hm
      rcases List.mem_append.mp hc with hc | hc
      · exact (h line hl).2 hc
      · exact absurd hc (by decide)
    rw [unifyLineEnds_of_not_mem hr, splitLines_joinLines fun line hl => (h line hl).1]

/-- A text that is empty or ends with a line feed. -/
def Terminated (text : List Char) : Prop := text = [] ∨ text.getLast? = some '\n'

instance (text : List Char) : Decidable (Terminated text) :=
  inferInstanceAs (Decidable (_ ∨ _))

/-- What stands in front of such a text changes nothing about its end, and a line feed may
stand in front of nothing. -/
theorem Terminated.cons {c : Char} {text : List Char} (h : Terminated text)
    (hc : c = '\n' ∨ text ≠ []) : Terminated (c :: text) := by
  refine .inr ?_
  rcases h with rfl | h
  · rw [hc.resolve_right fun hn => hn rfl, List.getLast?_singleton]
  · rw [List.getLast?_cons, h, Option.getD_some]

/-- The rest of such a text is such a text. -/
theorem Terminated.of_cons {c : Char} {rest : List Char} (h : Terminated (c :: rest)) :
    Terminated rest := by
  cases rest with
  | nil => exact .inl rfl
  | cons d rest =>
    have hlast := h.resolve_left nofun
    rw [List.getLast?_cons_cons] at hlast
    exact .inr hlast

/-- Something stands behind any other character in such a text. -/
theorem Terminated.ne_nil {c : Char} {rest : List Char} (h : Terminated (c :: rest))
    (hc : c ≠ '\n') : rest ≠ [] := by
  rintro rfl
  exact hc (Option.some.inj (h.resolve_left nofun))

/-- Something is left of a text that is not empty. -/
theorem unifyLineEnds_ne_nil {text : List Char} (h : text ≠ []) : unifyLineEnds text ≠ [] := by
  cases text using unifyLineEnds.fun_cases_unfolding with
  | case1 => exact absurd rfl h
  | _ => exact List.cons_ne_nil _ _

/-- A text that is not empty has a line. -/
theorem splitLines_ne_nil {text : List Char} (h : text ≠ []) : splitLines text ≠ [] := by
  cases text with
  | nil => exact absurd rfl h
  | cons c rest =>
    rw [splitLines]
    split
    · exact List.cons_ne_nil _ _
    · split <;> exact List.cons_ne_nil _ _

/-- A line end is never cut by the end of such a text. -/
theorem unifyLineEnds_append {front : List Char} (h : Terminated front) (rest : List Char) :
    unifyLineEnds (front ++ rest) = unifyLineEnds front ++ unifyLineEnds rest := by
  induction front using unifyLineEnds.induct with
  | case1 => rfl
  | case2 tail ih =>
    rw [List.cons_append, List.cons_append, unifyLineEnds, unifyLineEnds, ih h.of_cons.of_cons,
      List.cons_append]
  | case3 tail hne ih =>
    obtain ⟨c, tail, rfl⟩ := List.exists_cons_of_ne_nil (h.ne_nil (by decide))
    have hc : c ≠ '\n' := fun he => hne tail (by rw [he])
    rw [List.cons_append, unifyLineEnds, unifyLineEnds, ih h.of_cons, List.cons_append]
    · exact hne
    · intro more he
      exact hc (List.cons.inj he).1
  | case4 c tail hpair hreturn ih =>
    rw [List.cons_append, unifyLineEnds, unifyLineEnds, ih h.of_cons, List.cons_append]
    · exact hpair
    · exact hreturn
    · intro more he hm
      exact hreturn he
    · exact hreturn

/-- Such a text still ends with a line feed once its line ends are line feeds. -/
theorem terminated_unifyLineEnds {text : List Char} (h : Terminated text) :
    Terminated (unifyLineEnds text) := by
  induction text using unifyLineEnds.induct with
  | case1 => exact .inl rfl
  | case2 rest ih =>
    rw [unifyLineEnds]
    exact (ih h.of_cons.of_cons).cons (.inl rfl)
  | case3 rest hne ih =>
    rw [unifyLineEnds]
    · exact (ih h.of_cons).cons (.inl rfl)
    · exact hne
  | case4 c rest hpair hreturn ih =>
    rw [unifyLineEnds]
    · refine (ih h.of_cons).cons ?_
      by_cases hc : c = '\n'
      · exact .inl hc
      · exact .inr (unifyLineEnds_ne_nil (h.ne_nil hc))
    · exact hpair
    · exact hreturn

/-- Such a text is cut apart by itself. -/
theorem splitLines_append {front : List Char} (h : Terminated front) (rest : List Char) :
    splitLines (front ++ rest) = splitLines front ++ splitLines rest := by
  induction front with
  | nil => rfl
  | cons c tail ih =>
    rw [List.cons_append, splitLines, splitLines, ih h.of_cons]
    by_cases hc : c = '\n'
    · rw [if_pos hc, if_pos hc, List.cons_append]
    · rw [if_neg hc, if_neg hc]
      cases hs : splitLines tail with
      | nil => exact absurd hs (splitLines_ne_nil (h.ne_nil hc))
      | cons line lines => rfl

end TlsTranscript.Text
