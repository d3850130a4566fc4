import IssueTrace.Proofs.Storage.Writing

/-!
# The files below a place

Putting a file below a place enters it among the files there, in place of the one with its names, and
changes nothing among the files below any other place.  Directories do not count.
-/

namespace IssueTrace.FileSystem

variable {fs fs' : FileSystem} {dir place rest : List String} {entry : Entry} {content : Content}

/-- What an entry contributes to the files below a place. -/
def below? (dir : List String) (e : List String × Entry) : Option (List String × Content) :=
  if dir.isPrefixOf e.1 then e.2.readable?.map (e.1.drop dir.length, ·) else none

theorem filesBelow_eq (fs : FileSystem) (dir : List String) :
    fs.filesBelow dir = fs.entries.filterMap (below? dir) :=
  rfl

theorem below?_append (dir rest : List String) (entry : Entry) :
    below? dir (dir ++ rest, entry) = entry.readable?.map (rest, ·) := by
  simp [below?]

theorem below?_eq_some_iff {e : List String × Entry} {found : List String × Content} :
    below? dir e = some found ↔ e.1 = dir ++ found.1 ∧ e.2.readable? = some found.2 := by
  obtain ⟨names, entry⟩ := e
  constructor
  · intro h
    have hfront : dir.isPrefixOf names = true := by
      by_contra hnot
      rw [below?, if_neg hnot] at h
      cases h
    obtain ⟨rest, rfl⟩ := List.isPrefixOf_iff_prefix.mp hfront
    rw [below?_append, Option.map_eq_some_iff] at h
    obtain ⟨content, hread, rfl⟩ := h
    exact ⟨rfl, hread⟩
  · rintro ⟨rfl, hread⟩
    rw [below?_append, hread]
    rfl

theorem mem_filesBelow :
    (rest, content) ∈ fs.filesBelow dir ↔
      ∃ entry, (dir ++ rest, entry) ∈ fs.entries ∧ entry.readable? = some content := by
  rw [filesBelow_eq, List.mem_filterMap]
  simp only [below?_eq_some_iff]
  constructor
  · rintro ⟨⟨_, entry⟩, he, rfl, hread⟩
    exact ⟨entry, he, hread⟩
  · rintro ⟨entry, he, hread⟩
    exact ⟨_, he, rfl, hread⟩

theorem mem_filesBelow_append {more : List String} :
    (rest, content) ∈ fs.filesBelow (dir ++ more) ↔ (more ++ rest, content) ∈ fs.filesBelow dir := by
  rw [mem_filesBelow, mem_filesBelow, List.append_assoc]

theorem filesBelow_append_eq_nil (h : fs.filesBelow dir = []) (more : List String) :
    fs.filesBelow (dir ++ more) = [] := by
  rw [List.eq_nil_iff_forall_not_mem]
  rintro ⟨rest, content⟩ hmem
  rw [mem_filesBelow_append, h] at hmem
  cases hmem

theorem mem_entries_of_get? (hplace : place ≠ []) (h : fs.get? place = some entry) :
    (place, entry) ∈ fs.entries := by
  cases place with
  | nil => exact absurd rfl hplace
  | cons name names =>
      obtain ⟨before, behind, hentries, -⟩ := List.lookup_eq_some_iff.mp h
      rw [hentries]
      simp

theorem mem_filesBelow_of_get? (h : fs.get? (dir ++ rest) = some entry)
    (hread : entry.readable? = some content) : (rest, content) ∈ fs.filesBelow dir := by
  have hplace : dir ++ rest ≠ [] := by
    intro hnil
    rw [hnil] at h
    obtain rfl := Option.some.inj h
    cases hread
  exact mem_filesBelow.mpr ⟨entry, mem_entries_of_get? hplace h, hread⟩

/-- The names that lead to the files below a place. -/
def namesBelow (fs : FileSystem) (dir : List String) : List (List String) :=
  (fs.filesBelow dir).map Prod.fst

theorem mem_namesBelow_of_get? (h : fs.get? (dir ++ rest) = some entry)
    (hread : entry.readable? = some content) : rest ∈ fs.namesBelow dir :=
  List.mem_map_of_mem (mem_filesBelow_of_get? h hread)

/-! ## Putting something at a place -/

/-- The other entries below a place are those whose names differ. -/
theorem filterMap_below?_filter (entries : List (List String × Entry)) :
    (entries.filter (·.1 != dir ++ rest)).filterMap (below? dir) =
      (entries.filterMap (below? dir)).filter (·.1 != rest) := by
  rw [List.filterMap_filter, List.filter_filterMap]
  apply List.filterMap_congr
  intro e _
  cases hbelow : below? dir e with
  | none => simp
  | some found =>
      have hplace := (below?_eq_some_iff.mp hbelow).1
      by_cases hrest : found.1 = rest
      · simp [hplace, hrest, Option.filter]
      · simp [hplace, hrest, Option.filter]

/-- A file that is put below a place takes the place of the one with its names. -/
theorem filesBelow_put_file :
    (fs.put (dir ++ rest) (.file content)).filesBelow dir =
      (rest, content) :: (fs.filesBelow dir).filter (·.1 != rest) := by
  unfold put
  rw [filesBelow_eq, filesBelow_eq, List.filterMap_cons, below?_append, filterMap_below?_filter]
  rfl

/-- A file with new names is one more. -/
theorem namesBelow_put_file (h : rest ∉ fs.namesBelow dir) :
    (fs.put (dir ++ rest) (.file content)).namesBelow dir = rest :: fs.namesBelow dir := by
  have hothers : (fs.filesBelow dir).filter (·.1 != rest) = fs.filesBelow dir := by
    rw [List.filter_eq_self]
    intro found hfound
    have hne : found.1 ≠ rest := by
      rintro rfl
      exact h (List.mem_map_of_mem hfound)
    simpa using hne
  unfold namesBelow
  rw [filesBelow_put_file, hothers]
  rfl

/-- Nothing changes among the files below a place when something is put elsewhere. -/
theorem filesBelow_put_of_not_prefix (h : ¬ dir <+: place) :
    (fs.put place entry).filesBelow dir = fs.filesBelow dir := by
  have hnone : ∀ entry, below? dir (place, entry) = none := by
    intro entry
    cases hbelow : below? dir (place, entry) with
    | none => rfl
    | some found =>
        exact absurd ⟨found.1, (below?_eq_some_iff.mp hbelow).1.symm⟩ h
  unfold put
  rw [filesBelow_eq, filesBelow_eq, List.filterMap_cons, hnone, List.filterMap_filter]
  apply List.filterMap_congr
  intro e _
  by_cases he : e.1 = place
  · obtain ⟨own, found⟩ := e
    obtain rfl : own = place := he
    simp [hnone]
  · simp [he]

theorem filesBelow_put_directory (hplace : place ≠ []) (h : fs.get? place = none)
    (dir : List String) : (fs.put place .directory).filesBelow dir = fs.filesBelow dir := by
  have hvacant : ∀ e ∈ fs.entries, e.1 ≠ place := by
    cases place with
    | nil => exact absurd rfl hplace
    | cons name names =>
        intro e he heq
        have hne := List.lookup_eq_none_iff.mp h e he
        simp [heq] at hne
  have hkept : fs.entries.filter (·.1 != place) = fs.entries := by
    rw [List.filter_eq_self]
    intro e he
    simpa using hvacant e he
  have hnone : below? dir (place, .directory) = none := by
    simp [below?, Entry.readable?]
  unfold put
  rw [filesBelow_eq, filesBelow_eq, List.filterMap_cons, hkept, hnone]

end IssueTrace.FileSystem
