/-!
# Values by key

A list of keys with values in the order in which the keys first came. Putting a
value under a known key changes the value in its place; an unknown key goes to
the end. Looking up a key finds what was last put under it.
-/

namespace TlsTranscript

/-- Values by key, in the order in which the keys first came. -/
abbrev Keyed (κ α : Type) := List (κ × α)

namespace Keyed

variable {κ α : Type} [DecidableEq κ]

/-- The value under a key. -/
def get? (key : κ) : Keyed κ α → Option α
  | [] => none
  | (other, value) :: rest => if key = other then some value else get? key rest

/-- A value put under a key. -/
def put (key : κ) (value : α) : Keyed κ α → Keyed κ α
  | [] => [(key, value)]
  | (other, previous) :: rest =>
    if key = other then (key, value) :: rest else (other, previous) :: put key value rest

/-- What is left without a key. -/
def erase (key : κ) : Keyed κ α → Keyed κ α
  | [] => []
  | (other, value) :: rest =>
    if key = other then erase key rest else (other, value) :: erase key rest

/-- Entries put one after the other, so that the last value under a key stays. -/
def ofEntries (entries : List (κ × α)) : Keyed κ α :=
  entries.foldl (fun known entry => put entry.1 entry.2 known) []

/-- A put changes what is found under its own key and under no other. -/
theorem get?_put (key other : κ) (value : α) (entries : Keyed κ α) :
    get? other (put key value entries) =
      if other = key then some value else get? other entries := by
  induction entries with
  | nil => simp [put, get?]
  | cons entry rest ih =>
    obtain ⟨k, v⟩ := entry
    by_cases h : key = k
    · subst h
      by_cases h' : other = key <;> simp [put, get?, h']
    · by_cases h' : other = k
      · subst h'
        have hk : other ≠ key := fun e => h e.symm
        simp [put, get?, h, hk]
      · simp [put, get?, h, h', ih]

/-- An erased key is not found, and every other key keeps its value. -/
theorem get?_erase (key other : κ) (entries : Keyed κ α) :
    get? other (erase key entries) = if other = key then none else get? other entries := by
  induction entries with
  | nil => simp [erase, get?]
  | cons entry rest ih =>
    obtain ⟨k, v⟩ := entry
    by_cases h : key = k
    · subst h
      by_cases h' : other = key
      · subst h'
        simpa [erase] using ih
      · simp [erase, get?, ih, h']
    · by_cases h' : other = k
      · subst h'
        have hk : other ≠ key := fun e => h e.symm
        simp [erase, get?, h, hk]
      · simp [erase, get?, h, h', ih]

/-- A put under a key that is not kept is not seen in what is kept. -/
theorem filter_put {keep : κ → Bool} {key : κ} (h : keep key = false) (value : α)
    (entries : Keyed κ α) :
    (put key value entries).filter (fun entry => keep entry.1) =
      entries.filter fun entry => keep entry.1 := by
  induction entries with
  | nil => simp [put, h]
  | cons entry rest ih =>
    by_cases hentry : key = entry.1
    · have hother : keep entry.1 = false := hentry ▸ h
      simp [put, hentry, hother]
    · simp [put, hentry, List.filter_cons, ih]

/-- A key that stands only once has its value. -/
theorem get?_of_mem {entries : Keyed κ α} (hnodup : (entries.map Prod.fst).Nodup)
    {entry : κ × α} (h : entry ∈ entries) : get? entry.1 entries = some entry.2 := by
  induction entries with
  | nil => cases h
  | cons first rest ih =>
    obtain ⟨hfirst, hrest⟩ := List.nodup_cons.mp hnodup
    rcases List.mem_cons.mp h with rfl | hmem
    · simp [get?]
    · have hother : entry.1 ≠ first.1 := fun heq => hfirst (heq ▸ List.mem_map_of_mem hmem)
      simp [get?, hother, ih hrest hmem]

end Keyed

end TlsTranscript
