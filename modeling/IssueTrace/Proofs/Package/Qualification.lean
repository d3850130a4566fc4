import IssueTrace.Proofs.Package.Ancestors
import IssueTrace.Proofs.Package.Depths
import IssueTrace.Repository.Memory
import Mathlib.Data.List.TakeWhile

/-!
# Dotted names of files

The dotted name of a file below a package directory is put together from the names that lead from the
package to the file, the first of them that of the package and the last one without the ending of
source files.  So files below one package are told apart by their dotted names, unless a name holds a
dot itself.
-/

namespace IssueTrace.Package

variable {dirs below : List String} {d file stem extension : String}

/-! ## The last segment -/

theorem ne_slash_of_mem_reverse {x : List Char} (hx : '/' ∉ x) :
    ∀ c ∈ x.reverse, (c != '/') = true :=
  fun _ hc => bne_iff_ne.mpr (ne_of_mem_of_not_mem (List.mem_reverse.mp hc) hx)

theorem lastSegment_of_no_slash {x : List Char} (hx : '/' ∉ x) : lastSegment x = x := by
  rw [lastSegment, List.takeWhile_eq_self_iff.mpr (ne_slash_of_mem_reverse hx), List.reverse_reverse]

theorem lastSegment_append_slash {y : List Char} (hy : '/' ∉ y) (x : List Char) :
    lastSegment (x ++ '/' :: y) = y := by
  rw [lastSegment, List.reverse_append, List.reverse_cons, List.append_assoc,
    List.takeWhile_append_of_pos (ne_slash_of_mem_reverse hy)]
  simp

theorem lastSegment_intercalate (hd : '/' ∉ d.toList) (dirs : List String) :
    lastSegment ("/".intercalate (dirs ++ [d])).toList = d.toList := by
  by_cases hne : dirs = []
  · rw [hne, List.nil_append, String.intercalate_singleton, lastSegment_of_no_slash hd]
  · rw [toList_intercalate_append hne (by simp), String.intercalate_singleton,
      lastSegment_append_slash hd]

/-! ## The ending of source files -/

/-- The name of a file without the ending, or the name itself if it has another ending. -/
def IsStem (extension file stem : String) : Prop :=
  file = stem ++ extension ∨ ¬ extension.toList <:+ file.toList ∧ stem = file

theorem exists_isStem (extension file : String) : ∃ stem, IsStem extension file stem := by
  by_cases h : extension.toList <:+ file.toList
  · obtain ⟨stem, hstem⟩ := h
    refine ⟨String.ofList stem, .inl ?_⟩
    rw [← String.toList_inj, String.toList_append, String.toList_ofList, hstem]
  · exact ⟨file, .inr ⟨h, rfl⟩⟩

theorem IsStem.no_slash (h : IsStem extension file stem) (hfile : '/' ∉ file.toList) :
    '/' ∉ stem.toList := by
  rcases h with rfl | ⟨-, rfl⟩
  · rw [String.toList_append] at hfile
    exact fun hmem => hfile (List.mem_append_left _ hmem)
  · exact hfile

theorem IsStem.dropEnding_eq (h : IsStem extension file stem) (hextension : '/' ∉ extension.toList)
    (x : List Char) :
    dropEnding extension.toList (x ++ '/' :: file.toList) = x ++ '/' :: stem.toList := by
  unfold dropEnding
  rcases h with rfl | ⟨hother, rfl⟩
  · have hsplit : x ++ '/' :: (stem ++ extension).toList =
        x ++ '/' :: stem.toList ++ extension.toList := by
      simp [String.toList_append]
    rw [hsplit, if_pos (List.isSuffixOf_iff_suffix.mpr (List.suffix_append _ _)),
      List.length_append, Nat.add_sub_cancel, List.take_left]
  · have hno : ¬ extension.toList <:+ x ++ '/' :: stem.toList := by
      intro hsuffix
      have hown : '/' :: stem.toList <:+ x ++ '/' :: stem.toList := List.suffix_append _ _
      rcases List.suffix_or_suffix_of_suffix hsuffix hown with hwithin | hbeyond
      · rcases List.suffix_cons_iff.mp hwithin with hall | hname
        · exact hextension (by rw [hall]; exact List.mem_cons_self)
        · exact hother hname
      · exact hextension (hbeyond.mem List.mem_cons_self)
    rw [if_neg (mt List.isSuffixOf_iff_suffix.mp hno)]

/-! ## Dotted names -/

theorem map_dots_of_no_slash {x : List Char} (hx : '/' ∉ x) :
    x.map (fun c => if c = '/' then '.' else c) = x := by
  have hkept : ∀ c ∈ x, (if c = '/' then '.' else c) = c :=
    fun c hc => if_neg (ne_of_mem_of_not_mem hc hx)
  rw [List.map_congr_left hkept, List.map_id']

/-- Names joined by slashes are joined by dots. -/
theorem map_dots_intercalate {names : List String} (h : ∀ name ∈ names, '/' ∉ name.toList) :
    ("/".intercalate names).toList.map (fun c => if c = '/' then '.' else c) =
      (".".intercalate names).toList := by
  induction names with
  | nil => rfl
  | cons name names ih =>
      have hname := map_dots_of_no_slash (h name List.mem_cons_self)
      by_cases hne : names = []
      · rw [hne, String.intercalate_singleton, String.intercalate_singleton, hname]
      · rw [String.intercalate_cons_of_ne_nil hne, String.intercalate_cons_of_ne_nil hne]
        simp only [String.toList_append, List.map_append]
        rw [hname, ih fun name hmem => h name (List.mem_cons_of_mem _ hmem)]
        rfl

theorem moduleName?_intercalate (hd : '/' ∉ d.toList) (hbelow : ∀ n ∈ below, '/' ∉ n.toList)
    (hfile : '/' ∉ file.toList) (hextension : '/' ∉ extension.toList)
    (hstem : IsStem extension file stem) (dirs : List String) :
    moduleName? ("/".intercalate (dirs ++ [d] ++ below ++ [file])) ("/".intercalate (dirs ++ [d]))
        extension = some (".".intercalate (d :: below ++ [stem])) := by
  have hpath : ("/".intercalate (dirs ++ [d] ++ below ++ [file])).toList =
      ("/".intercalate (dirs ++ [d])).toList ++ '/' :: ("/".intercalate (below ++ [file])).toList := by
    rw [List.append_assoc (dirs ++ [d]), toList_intercalate_append (by simp) (by simp)]
  have hrelative : ∀ name, d.toList ++ '/' :: ("/".intercalate (below ++ [name])).toList =
      ("/".intercalate (d :: below)).toList ++ '/' :: name.toList := by
    intro name
    rw [← toList_intercalate_cons d (by simp), ← List.cons_append,
      toList_intercalate_append (by simp) (by simp), String.intercalate_singleton]
  have hnames : ∀ name ∈ d :: (below ++ [stem]), '/' ∉ name.toList := by
    intro name hname
    rcases List.mem_cons.mp hname with rfl | hname
    · exact hd
    · rcases List.mem_append.mp hname with hname | hname
      · exact hbelow name hname
      · rw [List.mem_singleton.mp hname]
        exact hstem.no_slash hfile
  rw [moduleName?_of_slash hpath, lastSegment_intercalate hd, hrelative file,
    hstem.dropEnding_eq hextension, ← hrelative stem, ← toList_intercalate_cons d (by simp),
    map_dots_intercalate hnames, String.ofList_toList, List.cons_append]

theorem eq_of_intercalate_dots_eq {names names' : List String} (hne : names ≠ []) (hne' : names' ≠ [])
    (hnames : ∀ n ∈ names, '.' ∉ n.toList) (hnames' : ∀ n ∈ names', '.' ∉ n.toList)
    (h : ".".intercalate names = ".".intercalate names') : names = names' := by
  have hsplit : ∀ {names : List String}, names ≠ [] → (∀ n ∈ names, '.' ∉ n.toList) →
      (".".intercalate names).toList.splitOn '.' = names.map String.toList := by
    intro names hne hnames
    rw [String.toList_intercalate]
    apply List.splitOn_intercalate
    · intro letters hletters
      obtain ⟨n, hn, rfl⟩ := List.mem_map.mp hletters
      exact hnames n hn
    · simpa using hne
  have hletters : names.map String.toList = names'.map String.toList := by
    rw [← hsplit hne hnames, h, hsplit hne' hnames']
  exact List.map_injective_iff.mpr (fun _ _ => String.toList_inj.mp) hletters

/-- Files with the same ending below one package have different dotted names, if the names that lead
from the package to them hold no dots. -/
theorem moduleName?_inj {below below' : List String} {stem stem' : String} (hdirs : dirs ≠ [])
    (hpackage : ∀ d ∈ dirs, '/' ∉ d.toList) (hextension : '/' ∉ extension.toList)
    (hnames : ∀ n ∈ below ++ [stem], '/' ∉ n.toList ∧ '.' ∉ n.toList)
    (hnames' : ∀ n ∈ below' ++ [stem'], '/' ∉ n.toList ∧ '.' ∉ n.toList)
    (h : moduleName? ("/".intercalate (dirs ++ below ++ [stem ++ extension]))
        ("/".intercalate dirs) extension =
      moduleName? ("/".intercalate (dirs ++ below' ++ [stem' ++ extension]))
        ("/".intercalate dirs) extension) :
    below = below' ∧ stem = stem' := by
  obtain ⟨front, d, rfl⟩ : ∃ front d, dirs = front ++ [d] :=
    ⟨_, _, (List.dropLast_concat_getLast hdirs).symm⟩
  have hd : '/' ∉ d.toList := hpackage d (by simp)
  have hname : ∀ {below : List String} {stem : String},
      (∀ n ∈ below ++ [stem], '/' ∉ n.toList ∧ '.' ∉ n.toList) →
      moduleName? ("/".intercalate (front ++ [d] ++ below ++ [stem ++ extension]))
        ("/".intercalate (front ++ [d])) extension =
          some (d ++ "." ++ ".".intercalate (below ++ [stem])) := by
    intro below stem hnames
    have hfile : '/' ∉ (stem ++ extension).toList := by
      rw [String.toList_append, List.mem_append, not_or]
      exact ⟨(hnames stem (by simp)).1, hextension⟩
    rw [moduleName?_intercalate hd (fun n hn => (hnames n (List.mem_append_left _ hn)).1) hfile
      hextension (.inl rfl), List.cons_append, String.intercalate_cons_of_ne_nil (by simp)]
  rw [hname hnames, hname hnames', Option.some_inj, String.append_right_inj] at h
  have hall := eq_of_intercalate_dots_eq (by simp) (by simp) (fun n hn => (hnames n hn).2)
    (fun n hn => (hnames' n hn).2) h
  obtain ⟨hbelow, hstem⟩ := List.append_inj' hall rfl
  exact ⟨hbelow, List.singleton_inj.mp hstem⟩

/-! ## Main statement -/

/-- A file is in a package exactly if a directory above it holds the marker.  The package is then the
deepest one or the one nearest to the root, by the search; it is called by its last name, and the
dotted name of the file consists of the names from the package on, the last one without the ending of
source files.  Files with this ending below one directory have different dotted names, if the names
below that directory hold no dots. -/
theorem find?_qualifies (hdirs : ∀ d ∈ dirs, '/' ∉ d.toList) (hfile : '/' ∉ file.toList)
    (hextension : '/' ∉ extension.toList) (repo : Repository) (commit : CommitId)
    (marker : String) (search : PackageSearch) :
    (markedDepths repo commit dirs marker = ∅ →
      find? repo commit ("/".intercalate (dirs ++ [file])) marker search = none) ∧
    (dirs = [] → find? repo commit ("/".intercalate (dirs ++ [file])) marker search = none) ∧
    ((markedDepths repo commit dirs marker).Nonempty →
      ∃ k d stem, IsChosen search (markedDepths repo commit dirs marker) k ∧
        dirs[k - 1]? = some d ∧ IsStem extension file stem ∧
        find? repo commit ("/".intercalate (dirs ++ [file])) marker search =
          some ⟨d, "/".intercalate (dirs.take k)⟩ ∧
        moduleName? ("/".intercalate (dirs ++ [file])) ("/".intercalate (dirs.take k)) extension =
          some (".".intercalate (d :: dirs.drop k ++ [stem]))) ∧
    ∀ (below below' : List String) (stem stem' : String), dirs ≠ [] →
      (∀ n ∈ below ++ [stem], '/' ∉ n.toList ∧ '.' ∉ n.toList) →
      (∀ n ∈ below' ++ [stem'], '/' ∉ n.toList ∧ '.' ∉ n.toList) →
      "/".intercalate (dirs ++ below ++ [stem ++ extension]) ≠
        "/".intercalate (dirs ++ below' ++ [stem' ++ extension]) →
      moduleName? ("/".intercalate (dirs ++ below ++ [stem ++ extension]))
          ("/".intercalate dirs) extension ≠
        moduleName? ("/".intercalate (dirs ++ below' ++ [stem' ++ extension]))
          ("/".intercalate dirs) extension := by
  refine ⟨find?_eq_none hdirs hfile, ?_, ?_, ?_⟩
  · rintro rfl
    apply find?_eq_none hdirs hfile
    rw [Set.eq_empty_iff_forall_notMem]
    rintro k ⟨hlow, hhigh, -⟩
    simp at hhigh
    omega
  · intro hsome
    obtain ⟨k, hchosen, hfind⟩ := exists_isChosen hdirs hfile hsome
    obtain ⟨hlow, hhigh, -⟩ := hchosen.mem
    obtain ⟨stem, hstem⟩ := exists_isStem extension file
    obtain ⟨j, rfl⟩ : ∃ j, k = j + 1 := ⟨k - 1, by omega⟩
    have htake : dirs.take (j + 1) = dirs.take j ++ [dirs[j]] := List.take_succ_eq_append_getElem hhigh
    have hd : '/' ∉ (dirs[j]).toList := hdirs _ (List.getElem_mem hhigh)
    have hbelow : ∀ n ∈ dirs.drop (j + 1), '/' ∉ n.toList :=
      fun n hn => hdirs n (List.mem_of_mem_drop hn)
    refine ⟨j + 1, dirs[j], stem, hchosen, List.getElem?_eq_getElem hhigh, hstem, ?_, ?_⟩
    · rw [hfind, htake, lastSegment_intercalate hd, String.ofList_toList]
    · have hname := moduleName?_intercalate hd hbelow hfile hextension hstem (dirs.take j)
      rwa [← htake, List.take_append_drop] at hname
  · intro below below' stem stem' hne hnames hnames' hpaths hnamed
    obtain ⟨rfl, rfl⟩ := moduleName?_inj hne hdirs hextension hnames hnames' hnamed
    exact hpaths rfl

/-- A repository in which a directory called like a source file lies between two packages of one
name. -/
def nestedPackages : Repository :=
  ((MemoryRepository.addFile {} ⟨"c"⟩ "pkg/__init__.py" "").addFile ⟨"c"⟩
    "pkg/lib.py/pkg/__init__.py" "").toRepository

/-- The inner one of two packages of one name is found, and files below the outer one are told
apart. -/
theorem find?_qualifies_of_nested :
    (markedDepths nestedPackages ⟨"c"⟩ ["pkg", "lib.py", "pkg"] "__init__.py").Nonempty ∧
      (∃ k d stem,
        IsGreatest (markedDepths nestedPackages ⟨"c"⟩ ["pkg", "lib.py", "pkg"] "__init__.py") k ∧
          ["pkg", "lib.py", "pkg"][k - 1]? = some d ∧ IsStem ".py" "a.py" stem ∧
          find? nestedPackages ⟨"c"⟩ "pkg/lib.py/pkg/a.py" "__init__.py" .innermost =
            some ⟨d, "/".intercalate (["pkg", "lib.py", "pkg"].take k)⟩) ∧
      find? nestedPackages ⟨"c"⟩ "pkg/lib.py/pkg/a.py" "__init__.py" .innermost =
        some ⟨"pkg", "pkg/lib.py/pkg"⟩ ∧
      moduleName? "pkg/sub/a.py" "pkg" ".py" ≠ moduleName? "pkg/b.py" "pkg" ".py" := by
  have hdirs : ∀ d ∈ ["pkg", "lib.py", "pkg"], '/' ∉ d.toList := by decide
  have hmarked :
      (markedDepths nestedPackages ⟨"c"⟩ ["pkg", "lib.py", "pkg"] "__init__.py").Nonempty :=
    ⟨1, by decide, by decide, by decide⟩
  have hfound : find? nestedPackages ⟨"c"⟩ "pkg/lib.py/pkg/a.py" "__init__.py" .innermost =
      some ⟨"pkg", "pkg/lib.py/pkg"⟩ := by
    decide +kernel
  obtain ⟨-, -, hchosen, -⟩ := @find?_qualifies _ "a.py" ".py" hdirs (by decide) (by decide)
    nestedPackages ⟨"c"⟩ "__init__.py" .innermost
  obtain ⟨k, d, stem, hgreatest, hd, hstem, hfind, -⟩ := hchosen hmarked
  obtain ⟨-, -, -, happart⟩ := @find?_qualifies ["pkg"] "b.py" ".py" (by decide) (by decide)
    (by decide) nestedPackages ⟨"c"⟩ "__init__.py" .innermost
  exact ⟨hmarked, ⟨k, d, stem, hgreatest, hd, hstem, hfind⟩, hfound,
    happart ["sub"] [] "a" "b" (by decide) (by decide) (by decide) (by decide)⟩

end IssueTrace.Package
