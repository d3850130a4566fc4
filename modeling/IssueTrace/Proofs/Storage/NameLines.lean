import IssueTrace.Proofs.Text.Lines
import IssueTrace.Storage.GoldsetStore
import Mathlib.Data.List.Nodup

/-!
# Names in lines

The text that names are written to gives the same names when it is read: one line for each, in
order, and no other line.  Whatever a text holds, what is read from it are names that take a line, and
a text of whole lines is read line by line.
-/

namespace IssueTrace.GoldsetStore

/-- A name that takes a line: it is not empty, holds no line feed, and neither begins nor ends with
a blank. -/
structure IsName (x : String) : Prop where
  ne_empty : x ≠ ""
  no_lineFeed : '\n' ∉ x.toList
  first : x.toList.head?.any Text.isBlank = false
  last : x.toList.getLast?.any Text.isBlank = false

instance (x : String) : Decidable (IsName x) :=
  decidable_of_iff (x ≠ "" ∧ '\n' ∉ x.toList ∧ x.toList.head?.any Text.isBlank = false ∧
      x.toList.getLast?.any Text.isBlank = false)
    ⟨fun h => ⟨h.1, h.2.1, h.2.2.1, h.2.2.2⟩, fun h => ⟨h.1, h.2, h.3, h.4⟩⟩

@[simp]
theorem linesOf_nil : linesOf [] = "" := rfl

theorem linesOf_cons (x : String) (xs : List String) :
    (linesOf (x :: xs)).toList = x.toList ++ '\n' :: (linesOf xs).toList := by
  unfold linesOf
  rw [List.map_cons, String.join_cons]
  simp

theorem linesOf_append (xs ys : List String) : linesOf (xs ++ ys) = linesOf xs ++ linesOf ys := by
  unfold linesOf
  rw [List.map_append, String.join_append]

theorem linesOf_getLast? {xs : List String} (h : xs ≠ []) :
    (linesOf xs).toList.getLast? = some '\n' := by
  have hxs : xs = xs.dropLast ++ [xs.getLast h] := (List.dropLast_concat_getLast h).symm
  rw [hxs, linesOf_append, String.toList_append, linesOf_cons]
  simp

theorem lines_linesOf {xs : List String} (h : ∀ x ∈ xs, IsName x) :
    Text.lines (linesOf xs).toList = xs.map String.toList := by
  induction xs with
  | nil => rfl
  | cons x xs ih =>
      have hx := h x List.mem_cons_self
      have hend : x.toList.getLast? ≠ some '\r' := by
        intro hlast
        have hblank := hx.last
        rw [hlast] at hblank
        exact absurd hblank (by decide)
      rw [linesOf_cons, Text.lines_append_lineFeed hx.no_lineFeed hend,
        ih fun y hy => h y (List.mem_cons_of_mem x hy)]
      rfl

/-- Names are read back as they were written. -/
theorem namesIn_linesOf {xs : List String} (h : ∀ x ∈ xs, IsName x) :
    namesIn (linesOf xs) = xs := by
  have htrim : xs.map (Text.trim ∘ String.toList) = xs.map String.toList := by
    apply List.map_congr_left
    intro x hx
    exact Text.trim_eq_self (h x hx).first (h x hx).last
  have hkept : ∀ line ∈ xs.map String.toList, (!line.isEmpty) = true := by
    intro line hline
    obtain ⟨x, hx, rfl⟩ := List.mem_map.mp hline
    simpa using (h x hx).ne_empty
  unfold namesIn
  rw [lines_linesOf h, List.map_map, htrim, List.filter_eq_self.mpr hkept, List.map_map]
  simp [Function.comp_def]

/-! ## Names in any text -/

/-- What is read from a text takes a line. -/
theorem isName_of_mem_namesIn {x text : String} (h : x ∈ namesIn text) : IsName x := by
  unfold namesIn at h
  obtain ⟨trimmed, htrimmed, rfl⟩ := List.mem_map.mp h
  obtain ⟨hline, hkept⟩ := List.mem_filter.mp htrimmed
  obtain ⟨line, hmem, rfl⟩ := List.mem_map.mp hline
  constructor
  · simpa using hkept
  · intro hfeed
    have hfeed' : '\n' ∈ Text.trim line := by simpa using hfeed
    exact Text.lineFeed_not_mem_of_mem_lines hmem (Text.mem_of_mem_trim hfeed')
  · simpa using Text.head?_trim line
  · simpa using Text.getLast?_trim line

/-- A text of whole lines. -/
def IsWhole (s : String) : Prop := s = "" ∨ s.toList.getLast? = some '\n'

theorem isWhole_linesOf (xs : List String) : IsWhole (linesOf xs) := by
  by_cases hxs : xs = []
  · rw [hxs]
    exact .inl linesOf_nil
  · exact .inr (linesOf_getLast? hxs)

theorem IsWhole.append {s t : String} (hs : IsWhole s) (ht : IsWhole t) : IsWhole (s ++ t) := by
  rcases ht with rfl | ht
  · rwa [String.append_empty]
  · right
    rw [String.toList_append, List.getLast?_append, ht]
    rfl

/-- What follows whole lines is read by itself. -/
theorem IsWhole.namesIn_append {s : String} (hs : IsWhole s) (t : String) :
    namesIn (s ++ t) = namesIn s ++ namesIn t := by
  have hends : s.toList = [] ∨ s.toList.getLast? = some '\n' := hs.imp_left (by rintro rfl; rfl)
  unfold namesIn
  rw [String.toList_append, Text.lines_append hends, List.map_append, List.filter_append,
    List.map_append]

/-- A name that takes a line is read back, whatever is written with it. -/
theorem mem_namesIn_linesOf {x : String} (hx : IsName x) {xs : List String} (hmem : x ∈ xs) :
    x ∈ namesIn (linesOf xs) := by
  obtain ⟨before, behind, rfl⟩ := List.append_of_mem hmem
  have hown : namesIn (linesOf [x]) = [x] := namesIn_linesOf (by simpa using hx)
  rw [linesOf_append, (isWhole_linesOf before).namesIn_append, ← List.singleton_append,
    linesOf_append, (isWhole_linesOf [x]).namesIn_append, hown]
  simp

/-- Each of different names stands on exactly one line. -/
theorem count_lines_linesOf {xs : List String} (h : ∀ x ∈ xs, IsName x) (hnodup : xs.Nodup)
    {x : String} (hx : x ∈ xs) : (Text.lines (linesOf xs).toList).count x.toList = 1 := by
  rw [lines_linesOf h]
  have hlines : (xs.map String.toList).Nodup :=
    List.Nodup.map (fun _ _ heq => String.toList_inj.mp heq) hnodup
  exact List.count_eq_one_of_mem hlines (List.mem_map_of_mem hx)

end IssueTrace.GoldsetStore
