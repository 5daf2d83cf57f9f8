import TlsTranscript.Proofs.Text.Padded

/-!
# Listings read back

A listing shows integers in base sixteen between brackets, with single spaces between them.
Its integers are told one by one, whatever their size and their sign are, and what stands
behind the closing bracket makes no difference. A listing of octets has two digits for each
octet: without its brackets it is split at the spaces, and each piece is an octet. Every text
that is put together like this is the listing of some octets.
-/

namespace TlsTranscript.Text

open Digits

/-- The characters of a listing of integers. -/
theorem toList_hexListing (values : List Int) :
    (hexListing values).toList =
      '[' :: [' '].intercalate (values.map (hexPadded 2)) ++ [']'] := by
  simp [hexListing, String.toList_intercalate, Function.comp_def]

/-- The characters of a listing of octets. -/
theorem toList_listing (data : Bytes) :
    data.listing.toList =
      '[' :: [' '].intercalate (data.map fun octet => hexPadded 2 (UInt8.code octet)) ++ [']'] := by
  rw [Bytes.listing, toList_hexListing, List.map_map]
  rfl

/-- A listing of integers is legible in front of every rest. -/
theorem legible_hexListing :
    Legible (fun _ => True) fun values : List Int => (hexListing values).toList := by
  have hspace : ¬IsSigned ' ' := by decide
  have hclose : ¬IsSigned ']' := by decide
  simp only [toList_hexListing]
  refine Legible.bracketed (by decide) [] ((legible_hexPadded_int 2).mono ?_) fun value => ?_
  · rintro c (rfl | rfl)
    · exact hspace
    · exact hclose
  · obtain ⟨c, rest, hd, hc⟩ := hexPadded_eq_cons 2 value
    exact ⟨c, rest, hd, fun h => hclose (h ▸ hc)⟩

/-- A listing of octets is legible in front of every rest. -/
theorem legible_listing : Legible (fun _ => True) fun data : Bytes => data.listing.toList :=
  legible_hexListing.comp fun _ _ h =>
    List.map_inj_right (fun _ _ he => UInt8.toNat_inj.mp (Int.ofNat.inj he)) |>.mp h

/-- A listing that may be missing is legible in front of every rest. -/
theorem legible_listingOrNone :
    Legible (fun _ => True) fun data : Option Bytes => (Bytes.listingOrNone data).toList := by
  have hnone : (Bytes.listingOrNone none).toList = 'N' :: ['o', 'n', 'e'] := by
    simp [Bytes.listingOrNone]
  have hsome : ∀ data : Bytes, ∃ rest, (Bytes.listingOrNone (some data)).toList = '[' :: rest :=
    fun data => ⟨_, toList_listing data⟩
  intro a b s t hs ht he
  cases a with
  | none =>
    cases b with
    | none => rfl
    | some y =>
      obtain ⟨rest, hy⟩ := hsome y
      simp only [hnone, hy, List.cons_append, List.cons.injEq] at he
      exact absurd he.1 (by decide)
  | some x =>
    cases b with
    | none =>
      obtain ⟨rest, hx⟩ := hsome x
      simp only [hnone, hx, List.cons_append, List.cons.injEq] at he
      exact absurd he.1 (by decide)
    | some y => rw [legible_listing x y s t hs ht he]

/-- Between the brackets of a listing of octets there are spaces and digits. -/
theorem mem_between {data : Bytes} {c : Char}
    (h : c ∈ [' '].intercalate (data.map fun octet => hexPadded 2 (UInt8.code octet))) :
    c = ' ' ∨ IsNumeral c := by
  have hdigits : ∀ octet : UInt8, c ∈ hexPadded 2 (UInt8.code octet) → IsNumeral c :=
    fun octet => isNumeral_of_mem_fill (by decide) (by decide)
  cases data with
  | nil => cases h
  | cons first rest =>
    rw [List.map_cons, intercalate_cons, List.mem_append, List.flatMap_map, List.mem_flatMap] at h
    rcases h with h | ⟨octet, -, h⟩
    · exact .inr (hdigits first h)
    · exact (List.mem_cons.mp h).imp_right (hdigits octet)

/-- A listing of octets ends with the only closing bracket in it. -/
theorem close_not_mem_listing (data : Bytes) :
    ∃ front, data.listing.toList = front ++ [']'] ∧ ']' ∉ front := by
  have hclose : ¬(']' = ' ' ∨ IsNumeral ']') := by decide
  refine ⟨_, toList_listing data, fun h => ?_⟩
  rcases List.mem_cons.mp h with h | h
  · cases h
  · exact hclose (mem_between h)

/-- The digits of an octet are two. -/
theorem length_hexPadded_octet (octet : UInt8) :
    (hexPadded 2 (UInt8.code octet)).length = 2 :=
  length_fill_ofNat (by decide) (by decide) octet.toNat_lt

/-- A listing has two brackets, two digits for each octet and a space in front of all but the
first one. -/
theorem length_listing (data : Bytes) :
    data.listing.length = if data = [] then 2 else 3 * data.length + 1 := by
  have hrest : ∀ rest : Bytes,
      (rest.flatMap fun octet => [' '] ++ hexPadded 2 (UInt8.code octet)).length =
        3 * rest.length := by
    intro rest
    induction rest with
    | nil => rfl
    | cons octet rest ih =>
      rw [List.flatMap_cons, List.length_append, ih, List.length_append, length_hexPadded_octet,
        List.length_singleton, List.length_cons]
      omega
  rw [← String.length_toList, toList_listing]
  cases data with
  | nil => rfl
  | cons first rest =>
    rw [if_neg (List.cons_ne_nil first rest), List.map_cons, intercalate_cons, List.flatMap_map,
      List.length_append, List.length_cons, List.length_append, length_hexPadded_octet, hrest,
      List.length_singleton, List.length_cons]
    omega

/-- What stands between the brackets of a text. -/
def unbracketed? (text : String) : Option (List Char) :=
  match text.toList with
  | '[' :: rest => if rest.getLast? = some ']' then some rest.dropLast else none
  | _ => none

/-- The pieces between single spaces. Where nothing stands there is no piece. -/
def pieces (between : List Char) : List (List Char) :=
  if between = [] then [] else between.splitOn ' '

/-- The octet that a piece of two digits writes. -/
def octet? (piece : List Char) : Option UInt8 :=
  if piece.length = 2 then (value? 16 piece).map UInt8.ofNat else none

/-- The octets that a listing shows, piece by piece. -/
def listed? (text : String) : Option Bytes :=
  (unbracketed? text).bind fun between => (pieces between).mapM octet?

/-- Brackets are taken away from both ends. -/
theorem unbracketed?_eq_some {text : String} {between : List Char} :
    unbracketed? text = some between ↔ text.toList = '[' :: between ++ [']'] := by
  unfold unbracketed?
  constructor
  · intro h
    split at h
    · next rest htext =>
      split at h
      · next hlast =>
        obtain ⟨front, rfl⟩ := List.getLast?_eq_some_iff.mp hlast
        rw [List.dropLast_concat] at h
        rw [htext, Option.some.inj h, List.cons_append]
      · cases h
    · cases h
  · intro h
    rw [h]
    simp

/-- Pieces are put together again. -/
theorem intercalate_pieces (between : List Char) :
    [' '].intercalate (pieces between) = between := by
  unfold pieces
  split
  · next h => rw [h, List.intercalate_nil]
  · exact List.intercalate_splitOn ' '

/-- Pieces that are not empty and hold no space are found again. -/
theorem pieces_intercalate {groups : List (List Char)}
    (h : ∀ group ∈ groups, group ≠ [] ∧ ' ' ∉ group) :
    pieces ([' '].intercalate groups) = groups := by
  cases groups with
  | nil => rfl
  | cons first rest =>
    have hne : [' '].intercalate (first :: rest) ≠ [] := by
      rw [intercalate_cons]
      exact List.append_ne_nil_of_left_ne_nil (h first List.mem_cons_self).1 _
    rw [pieces, if_neg hne]
    exact List.splitOn_intercalate ' ' (fun group hg => (h group hg).2) (List.cons_ne_nil _ _)

/-- A piece writes an octet exactly if it consists of the digits of the octet. -/
theorem octet?_eq_some {piece : List Char} {octet : UInt8} :
    octet? piece = some octet ↔ piece = hexPadded 2 (UInt8.code octet) := by
  unfold octet?
  constructor
  · intro h
    split at h
    · next hl =>
      obtain ⟨n, hn, rfl⟩ := Option.map_eq_some_iff.mp h
      have hlt : n < 256 := by simpa [hl] using lt_of_valueFrom? (value?_eq_some.mp hn).2
      have hfill := eq_fill_of_value? (by decide) (by decide) hn
      rw [hl] at hfill
      rw [UInt8.code, UInt8.toNat_ofNat_of_lt' hlt]
      exact hfill
    · cases h
  · rintro rfl
    have hvalue : value? 16 (hexPadded 2 (UInt8.code octet)) = some octet.toNat :=
      value?_fill (by decide) (by decide) 2 octet.toNat
    rw [if_pos (length_hexPadded_octet octet), hvalue, Option.map_some, UInt8.ofNat_toNat]

/-- Two digits write an octet. -/
theorem exists_octet {group : List Char} (hl : group.length = 2)
    (hd : ∀ c ∈ group, IsNumeral c) : ∃ octet : UInt8, group = hexPadded 2 (UInt8.code octet) := by
  have hne : group ≠ [] := List.length_pos_iff.mp (by omega)
  obtain ⟨n, hn⟩ := exists_valueFrom? hd 0
  refine ⟨UInt8.ofNat n, octet?_eq_some.mp ?_⟩
  rw [octet?, if_pos hl, value?_eq_some.mpr ⟨hne, hn⟩, Option.map_some]

/-- Pieces write octets exactly if they are the digits of these one by one. -/
theorem mapM_octet?_eq_some {groups : List (List Char)} {data : Bytes} :
    groups.mapM octet? = some data ↔
      groups = data.map fun octet => hexPadded 2 (UInt8.code octet) := by
  induction groups generalizing data with
  | nil =>
    rw [List.mapM_nil, Option.pure_def, Option.some.injEq, eq_comm, eq_comm (a := []),
      List.map_eq_nil_iff]
  | cons group rest ih =>
    simp only [List.mapM_cons, Option.bind_eq_bind, Option.bind_eq_some_iff, Option.pure_def,
      Option.some.injEq, octet?_eq_some, ih]
    constructor
    · rintro ⟨octet, rfl, more, rfl, rfl⟩
      rfl
    · intro h
      cases data with
      | nil => cases h
      | cons octet more =>
        obtain ⟨hgroup, hrest⟩ := List.cons.inj h
        exact ⟨octet, hgroup, more, hrest, rfl⟩

/-- A listing is read back, and nothing else is read. -/
theorem listed?_eq_some {text : String} {data : Bytes} :
    listed? text = some data ↔ text = data.listing := by
  have hspace : ¬IsNumeral ' ' := by decide
  have hgroups : ∀ group ∈ data.map fun octet => hexPadded 2 (UInt8.code octet),
      group ≠ [] ∧ ' ' ∉ group := by
    intro group hg
    obtain ⟨octet, -, rfl⟩ := List.mem_map.mp hg
    refine ⟨List.length_pos_iff.mp ?_, fun h => ?_⟩
    · rw [length_hexPadded_octet]
      omega
    · exact hspace (isNumeral_of_mem_fill (by decide) (by decide) h)
  rw [← String.toList_inj, toList_listing, listed?, Option.bind_eq_some_iff]
  constructor
  · rintro ⟨between, hbetween, hdata⟩
    rw [unbracketed?_eq_some.mp hbetween, ← mapM_octet?_eq_some.mp hdata, intercalate_pieces]
  · intro h
    exact ⟨_, unbracketed?_eq_some.mpr h, mapM_octet?_eq_some.mpr (pieces_intercalate hgroups)⟩

/-- A text of groups of two digits, with single spaces between them and brackets around
all. -/
def IsListing (text : String) : Prop :=
  ∃ groups : List (List Char), (∀ group ∈ groups, group.length = 2 ∧ ∀ c ∈ group, IsNumeral c) ∧
    text.toList = '[' :: [' '].intercalate groups ++ [']']

/-- Texts of groups of two digits are the listings of octets. -/
theorem isListing_iff {text : String} : IsListing text ↔ ∃ data : Bytes, text = data.listing := by
  constructor
  · rintro ⟨groups, hgroups, htext⟩
    have hoctets : ∃ data : Bytes,
        groups = data.map fun octet => hexPadded 2 (UInt8.code octet) := by
      clear htext
      induction groups with
      | nil => exact ⟨[], rfl⟩
      | cons group rest ih =>
        obtain ⟨hgroup, hrest⟩ := List.forall_mem_cons.mp hgroups
        obtain ⟨octet, ho⟩ := exists_octet hgroup.1 hgroup.2
        obtain ⟨data, hd⟩ := ih hrest
        exact ⟨octet :: data, by rw [List.map_cons, ← ho, ← hd]⟩
    obtain ⟨data, rfl⟩ := hoctets
    exact ⟨data, by rw [← String.toList_inj, htext, toList_listing]⟩
  · rintro ⟨data, rfl⟩
    refine ⟨_, fun group hg => ?_, toList_listing data⟩
    obtain ⟨octet, -, rfl⟩ := List.mem_map.mp hg
    exact ⟨length_hexPadded_octet octet, fun c => isNumeral_of_mem_fill (by decide) (by decide)⟩

end TlsTranscript.Text
