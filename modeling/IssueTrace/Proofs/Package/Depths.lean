import IssueTrace.Package
import Mathlib.Data.List.Basic
import Mathlib.Data.Set.Basic
import Mathlib.Order.Bounds.Defs

/-!
# Directories by their depth

The directories above a file are the beginnings of the list of names that lead to it.  A search looks
at those with the marker, and takes the deepest one or the one nearest to the root.
-/

namespace IssueTrace.Package

variable {dirs : List String} {file : String}

/-! ## The directories above a file -/

theorem toList_intercalate_append {front back : List String} (hfront : front ≠ [])
    (hback : back ≠ []) : ("/".intercalate (front ++ back)).toList =
      ("/".intercalate front).toList ++ '/' :: ("/".intercalate back).toList := by
  rw [String.intercalate_append_of_ne_nil hfront hback, String.toList_append, String.toList_append,
    List.append_assoc]
  rfl

theorem toList_intercalate_cons (name : String) {names : List String} (h : names ≠ []) :
    ("/".intercalate (name :: names)).toList =
      name.toList ++ '/' :: ("/".intercalate names).toList := by
  rw [← List.singleton_append, toList_intercalate_append (by simp) h, String.intercalate_singleton]

theorem prefixesFrom_of_no_slash {x : List Char} (hx : '/' ∉ x) :
    ∀ passed, prefixesFrom passed x = [] := by
  induction x with
  | nil => exact fun _ => rfl
  | cons c x ih =>
      intro passed
      have hc : c ≠ '/' := ne_of_mem_of_not_mem List.mem_cons_self hx
      rw [prefixesFrom, if_neg hc, ih fun h => hx (List.mem_cons_of_mem c h)]

theorem prefixesFrom_append_slash {x : List Char} (hx : '/' ∉ x) (y : List Char) :
    ∀ passed, prefixesFrom passed (x ++ '/' :: y) =
      (passed.reverse ++ x) :: prefixesFrom ('/' :: (x.reverse ++ passed)) y := by
  induction x with
  | nil =>
      intro passed
      simp [prefixesFrom]
  | cons c x ih =>
      intro passed
      have hc : c ≠ '/' := ne_of_mem_of_not_mem List.mem_cons_self hx
      rw [List.cons_append, prefixesFrom, if_neg hc, ih fun h => hx (List.mem_cons_of_mem c h)]
      simp

theorem prefixesFrom_intercalate (hdirs : ∀ d ∈ dirs, '/' ∉ d.toList) (hfile : '/' ∉ file.toList) :
    ∀ passed, prefixesFrom passed ("/".intercalate (dirs ++ [file])).toList =
      (List.range' 1 dirs.length).map fun k =>
        passed.reverse ++ ("/".intercalate (dirs.take k)).toList := by
  induction dirs with
  | nil =>
      intro passed
      simpa using prefixesFrom_of_no_slash hfile passed
  | cons d dirs ih =>
      intro passed
      have hd : '/' ∉ d.toList := hdirs d List.mem_cons_self
      have hrest : ∀ d ∈ dirs, '/' ∉ d.toList := fun d h => hdirs d (List.mem_cons_of_mem _ h)
      have hdepths : List.range' 1 (d :: dirs).length =
          1 :: (List.range' 1 dirs.length).map (1 + ·) := by
        rw [List.length_cons, List.range'_succ, List.map_add_range']
      rw [List.cons_append, toList_intercalate_cons d (by simp), prefixesFrom_append_slash hd,
        ih hrest, hdepths, List.map_cons, List.map_map]
      refine List.cons_eq_cons.mpr ⟨by simp, ?_⟩
      apply List.map_congr_left
      intro k hk
      obtain ⟨hlow, hhigh⟩ := List.mem_range'_1.mp hk
      have hne : dirs.take k ≠ [] := by
        rw [Ne, List.take_eq_nil_iff]
        rintro (rfl | rfl)
        · omega
        · simp at hhigh
          omega
      rw [Function.comp_apply, Nat.add_comm 1 k, List.take_succ_cons, toList_intercalate_cons d hne]
      simp

/-- The directories above a file are the beginnings of the names that lead to it. -/
theorem ancestors_intercalate (hdirs : ∀ d ∈ dirs, '/' ∉ d.toList) (hfile : '/' ∉ file.toList) :
    ancestors ("/".intercalate (dirs ++ [file])) =
      (List.range' 1 dirs.length).map fun k => "/".intercalate (dirs.take k) := by
  unfold ancestors
  rw [prefixesFrom_intercalate hdirs hfile, List.map_map]
  apply List.map_congr_left
  intro k _
  rw [Function.comp_apply, List.reverse_nil, List.nil_append, String.ofList_toList]

/-! ## Depths with a marker -/

variable {repo : Repository} {commit : CommitId} {marker : String} {search : PackageSearch} {k : Nat}

/-- The depths at which a directory above a file holds the marker. -/
def markedDepths (repo : Repository) (commit : CommitId) (dirs : List String) (marker : String) :
    Set Nat :=
  {k | 1 ≤ k ∧ k ≤ dirs.length ∧
    repo.pathExists commit ("/".intercalate (dirs.take k) ++ "/" ++ marker) = true}

/-- The depth that a search takes of those with the marker. -/
def IsChosen : PackageSearch → Set Nat → Nat → Prop
  | .innermost, depths, k => IsGreatest depths k
  | .outermost, depths, k => IsLeast depths k

theorem IsChosen.mem {depths : Set Nat} (h : IsChosen search depths k) : k ∈ depths := by
  cases search with
  | innermost => exact h.1
  | outermost => exact h.1

/-- The depths with a marker in ascending order. -/
def depthList (repo : Repository) (commit : CommitId) (dirs : List String) (marker : String) :
    List Nat :=
  (List.range' 1 dirs.length).filter fun k =>
    repo.pathExists commit ("/".intercalate (dirs.take k) ++ "/" ++ marker)

theorem mem_depthList :
    k ∈ depthList repo commit dirs marker ↔ k ∈ markedDepths repo commit dirs marker := by
  unfold depthList
  rw [List.mem_filter, List.mem_range'_1, Nat.lt_one_add_iff, and_assoc]
  rfl

theorem pairwise_depthList : (depthList repo commit dirs marker).Pairwise (· < ·) :=
  List.Pairwise.filter _ List.pairwise_lt_range'

theorem isLeast_of_head? {ks : List Nat} (hks : ks.Pairwise (· < ·)) (h : ks.head? = some k) :
    IsLeast {j | j ∈ ks} k := by
  obtain ⟨rest, rfl⟩ := List.head?_eq_some_iff.mp h
  refine ⟨List.mem_cons_self, ?_⟩
  intro j hj
  rcases List.mem_cons.mp hj with rfl | hj
  · exact Nat.le_refl j
  · exact Nat.le_of_lt (List.rel_of_pairwise_cons hks hj)

theorem isGreatest_of_getLast? {ks : List Nat} (hks : ks.Pairwise (· < ·))
    (h : ks.getLast? = some k) : IsGreatest {j | j ∈ ks} k := by
  obtain ⟨front, rfl⟩ := List.getLast?_eq_some_iff.mp h
  refine ⟨List.mem_append_right _ List.mem_cons_self, ?_⟩
  intro j hj
  rcases List.mem_append.mp hj with hj | hj
  · exact Nat.le_of_lt ((List.pairwise_append.mp hks).2.2 j hj k List.mem_cons_self)
  · exact Nat.le_of_eq (List.mem_singleton.mp hj)

theorem find?_intercalate (hdirs : ∀ d ∈ dirs, '/' ∉ d.toList) (hfile : '/' ∉ file.toList) :
    find? repo commit ("/".intercalate (dirs ++ [file])) marker search =
      (match search with
        | .innermost => (depthList repo commit dirs marker).getLast?
        | .outermost => (depthList repo commit dirs marker).head?).map fun k =>
          ⟨String.ofList (lastSegment ("/".intercalate (dirs.take k)).toList),
            "/".intercalate (dirs.take k)⟩ := by
  have hmarked : ((ancestors ("/".intercalate (dirs ++ [file]))).filter fun dir =>
      repo.pathExists commit (dir ++ "/" ++ marker)) =
        (depthList repo commit dirs marker).map fun k => "/".intercalate (dirs.take k) := by
    rw [ancestors_intercalate hdirs hfile, List.filter_map]
    rfl
  unfold find?
  rw [hmarked]
  cases search with
  | innermost => simp only [List.getLast?_map, Option.map_map, Function.comp_def]
  | outermost => simp only [List.head?_map, Option.map_map, Function.comp_def]

/-- Without a marker there is no package. -/
theorem find?_eq_none (hdirs : ∀ d ∈ dirs, '/' ∉ d.toList) (hfile : '/' ∉ file.toList)
    (hnone : markedDepths repo commit dirs marker = ∅) :
    find? repo commit ("/".intercalate (dirs ++ [file])) marker search = none := by
  have hnil : depthList repo commit dirs marker = [] := by
    rw [List.eq_nil_iff_forall_not_mem]
    intro k hk
    have hmem := mem_depthList.mp hk
    rw [hnone] at hmem
    exact hmem
  rw [find?_intercalate hdirs hfile, hnil]
  cases search with
  | innermost => rfl
  | outermost => rfl

/-- With a marker there is the package that the search takes. -/
theorem exists_isChosen (hdirs : ∀ d ∈ dirs, '/' ∉ d.toList) (hfile : '/' ∉ file.toList)
    (hsome : (markedDepths repo commit dirs marker).Nonempty) :
    ∃ k, IsChosen search (markedDepths repo commit dirs marker) k ∧
      find? repo commit ("/".intercalate (dirs ++ [file])) marker search =
        some ⟨String.ofList (lastSegment ("/".intercalate (dirs.take k)).toList),
          "/".intercalate (dirs.take k)⟩ := by
  have hdepths : markedDepths repo commit dirs marker =
      {k | k ∈ depthList repo commit dirs marker} := Set.ext fun _ => mem_depthList.symm
  have hne : depthList repo commit dirs marker ≠ [] := by
    obtain ⟨k, hk⟩ := hsome
    exact List.ne_nil_of_mem (mem_depthList.mpr hk)
  rw [hdepths, find?_intercalate hdirs hfile]
  cases search with
  | innermost =>
      obtain ⟨k, hk⟩ := Option.ne_none_iff_exists'.mp (mt List.getLast?_eq_none_iff.mp hne)
      exact ⟨k, isGreatest_of_getLast? pairwise_depthList hk, by rw [hk]; rfl⟩
  | outermost =>
      obtain ⟨k, hk⟩ := Option.ne_none_iff_exists'.mp (mt List.head?_eq_none_iff.mp hne)
      exact ⟨k, isLeast_of_head? pairwise_depthList hk, by rw [hk]; rfl⟩

end IssueTrace.Package
