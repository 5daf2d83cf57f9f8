import TlsTranscript.Proofs.Rendering.Laid
import TlsTranscript.Session.Operation

/-!
# Numbers and octets in base sixteen

What the writers of integers and of octets answer. An integer has one text of the width of
its writer, and this text tells it. Octets have one listing, which is read back to them and
ends with its only closing bracket, and every text that looks like a listing is one. A listing
of integers tells them as well, and octets that are missing are never shown like octets.
-/

namespace TlsTranscript.Operation

open Text

/-- An operation that writes integers in base sixteen with a width, in which the integers up
to a greatest one have a digit for each place. -/
structure WritesWidth (operation : Operation) (width : Nat) (greatest : Int) : Prop where
  /-- Every integer is written: with the width, as no other text of the width is, and so that
  it is read back. -/
  writes : ∀ value : Int, ∃ text,
    (∀ w, (operation.run [.integer value]).runIn w = (.ok (.text text), w)) ∧
      HasWidth width value text ∧ (∀ other, HasWidth width value other → other = text) ∧
        hexValue? text = some value
  /-- Behind the mark there are as many digits as the width asks for, and nothing else, exactly
  for the integers from zero to the greatest one. -/
  fits : ∀ (value : Int) (text : String) (w : World),
    ((operation.run [.integer value]).runIn w).1 = .ok (.text text) →
      ((∃ digits, text.toList = '0' :: 'x' :: digits ∧ digits.length = width ∧
        ∀ c ∈ digits, IsNumeral c) ↔ 0 ≤ value ∧ value ≤ greatest)
  /-- No two integers are written alike. -/
  tells : ∀ (first second : Int) (v w : World),
    ((operation.run [.integer first]).runIn v).1 =
      ((operation.run [.integer second]).runIn w).1 → first = second

/-- What an operation that pads integers writes. -/
theorem writesWidth_of_run {operation : Operation} {width : Nat} {greatest : Int}
    (hw : 0 < width) (hg : greatest + 1 = Nat.pow 16 width)
    (hrun : ∀ (value : Int) (w : World), (operation.run [.integer value]).runIn w =
      (.ok (.text (String.ofList ('0' :: 'x' :: hexPadded width value))), w)) :
    operation.WritesWidth width greatest where
  writes value := by
    have hwidth := (hasWidth_iff hw value _).mpr rfl
    exact ⟨_, hrun value, hwidth, fun other => (hasWidth_iff hw value other).mp,
      hexValue?_of_hasWidth hw hwidth⟩
  fits value text w h := by
    have htext : String.ofList ('0' :: 'x' :: hexPadded width value) = text := by
      rw [hrun] at h
      exact Datum.text.inj (Except.ok.inj h)
    have hbound : value ≤ greatest ↔ value < Nat.pow 16 width := by omega
    rw [← htext, String.toList_ofList, hbound, ← isNumeral_hexPadded_iff hw]
    constructor
    · rintro ⟨digits, hdigits, h⟩
      rwa [(List.cons.inj (List.cons.inj hdigits).2).2]
    · exact fun h => ⟨_, rfl, h⟩
  tells first second v w h := by
    rw [hrun, hrun] at h
    have htext := String.ofList_inj.mp (Datum.text.inj (Except.ok.inj h))
    exact (legible_hexPadded_int width).injective (List.cons.inj (List.cons.inj htext).2).2

/-- Integers of every sign and size are written in base sixteen as one octet or as two. The
sign counts against the width, what does not fit keeps all its digits without a zero in front,
and the text is the only one of that sort and tells the integer. -/
theorem run_hex_exact : WritesWidth hex8 2 0xFF ∧ WritesWidth hex16 4 0xFFFF :=
  ⟨writesWidth_of_run (by decide) (by decide) fun _ _ => rfl,
    writesWidth_of_run (by decide) (by decide) fun _ _ => rfl⟩

/-- A negative integer has a digit less, and a large one has more. -/
example : [Text.hex8 (-1), Text.hex16 (-1), Text.hex8 0x100, Text.hex16 0] =
    ["0x-1", "0x-001", "0x100", "0x0000"] := by
  decide

/-- The answer of the writer of listings for octets. -/
theorem runIn_listing_octets (data : Bytes) (w : World) :
    (listing.run [.octets data]).runIn w = (.ok (.text data.listing), w) := by
  change ((Datum.octets data).hexListing.map Datum.text, w) = _
  rw [Datum.hexListing_octets]
  rfl

/-- The answer of the writer of listings for a list of integers. -/
theorem runIn_listing_integers (values : List Int) (w : World) :
    (listing.run [.list (values.map .integer)]).runIn w =
      (.ok (.text (hexListing values)), w) := by
  change ((Datum.list (values.map .integer)).hexListing.map Datum.text, w) = _
  rw [Datum.hexListing_of_items rfl]
  rfl

/-- Listings are exact. Octets have a listing of two characters, or of three for each octet
and one more, in which only the last character is a closing bracket, and which is read back to
them piece by piece. A text of groups of two digits with single spaces between them and
brackets around all is the listing of exactly one row of octets, and no other text is a
listing. Octets that may be missing have the same listing, and nothing is shown for missing
ones that is a listing. A listing of integers of any sign and size tells them. -/
theorem run_listing_exact :
    (∀ data : Bytes, ∃ text,
      (∀ w, (listing.run [.octets data]).runIn w = (.ok (.text text), w)) ∧
        text.length = (if data = [] then 2 else 3 * data.length + 1) ∧
        (∃ front, text.toList = front ++ [']'] ∧ ']' ∉ front) ∧ listed? text = some data) ∧
    (∀ text, IsListing text ↔
      ∃! data : Bytes, ∀ w, (listing.run [.octets data]).runIn w = (.ok (.text text), w)) ∧
    (∀ data : Bytes, ∃ text missing, text ≠ missing ∧ ∀ w,
      (listingOrNone.run [.octets data]).runIn w = (.ok (.text text), w) ∧
        (listing.run [.octets data]).runIn w = (.ok (.text text), w) ∧
          (listingOrNone.run [.absent]).runIn w = (.ok (.text missing), w)) ∧
    (∀ values : List Int, ∃ text, ∀ w,
      (listing.run [.list (values.map .integer)]).runIn w = (.ok (.text text), w)) ∧
    ∀ (first second : List Int) (v w : World),
      ((listing.run [.list (first.map .integer)]).runIn v).1 =
        ((listing.run [.list (second.map .integer)]).runIn w).1 → first = second := by
  refine ⟨fun data => ⟨_, runIn_listing_octets data, length_listing data,
      close_not_mem_listing data, listed?_eq_some.mpr rfl⟩, fun text => ?_, fun data => ?_,
    fun values => ⟨_, runIn_listing_integers values⟩, fun first second v w h => ?_⟩
  · have hwritten : ∀ data : Bytes,
        (∀ w, (listing.run [.octets data]).runIn w = (.ok (.text text), w)) ↔
          text = data.listing := by
      intro data
      constructor
      · intro h
        have htext := h {}
        rw [runIn_listing_octets] at htext
        exact (Datum.text.inj (Except.ok.inj (Prod.mk.inj htext).1)).symm
      · rintro rfl
        exact runIn_listing_octets data
    simp only [isListing_iff, hwritten]
    constructor
    · rintro ⟨data, rfl⟩
      exact ⟨data, rfl, fun other h => legible_listing.injective (by rw [h])⟩
    · exact fun h => h.exists
  · refine ⟨data.listing, "None", fun h => ?_, fun w => ⟨?_, runIn_listing_octets data w, rfl⟩⟩
    · have hnone : Bytes.listingOrNone (some data) = Bytes.listingOrNone none := h
      cases legible_listingOrNone.injective (congrArg String.toList hnone)
    · exact runIn_listing_octets data w
  · rw [runIn_listing_integers, runIn_listing_integers] at h
    exact legible_hexListing.injective
      (congrArg String.toList (Datum.text.inj (Except.ok.inj h)))

end TlsTranscript.Operation
