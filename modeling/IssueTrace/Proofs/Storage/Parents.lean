import IssueTrace.Proofs.Storage.Directories
import IssueTrace.Proofs.Storage.Pieces
import Mathlib.Data.String.Basic

/-!
# The path above a path

The path above another is spelled from its steps, which leave out dots and repeated slashes.  It has
no letters that the other does not have, and leads to the directory in which the last name of the
other is looked up.
-/

namespace IssueTrace

namespace Path

variable {path : String} {names front : List String} {last : String} {absolute : Bool}

/-! ## Steps -/

/-- The names that lead somewhere, of a path that is absolute or not. -/
def kept (absolute : Bool) : List String → List String
  | "." :: rest =>
      if absolute then rest.filter (· != ".") else "." :: rest.filter (· != ".")
  | all => all.filter (· != ".")

theorem kept_dot_cons (absolute : Bool) (rest : List String) :
    kept absolute ("." :: rest) =
      if absolute then rest.filter (· != ".") else "." :: rest.filter (· != ".") :=
  rfl

theorem kept_of_ne {name : String} (hname : name ≠ ".") (rest : List String) :
    kept absolute (name :: rest) = (name :: rest).filter (· != ".") := by
  unfold kept
  split
  · rename_i heq
    exact absurd (List.cons.inj heq).1 hname
  · rfl

theorem kept_nil : kept absolute [] = [] := rfl

theorem steps_eq (path : String) : steps path = kept (isAbsolute path) (Path.names path) := rfl

theorem kept_sublist (absolute : Bool) (names : List String) :
    (kept absolute names).Sublist names := by
  cases names with
  | nil => exact .slnil
  | cons name rest =>
      by_cases hname : name = "."
      · rw [hname, kept_dot_cons]
        split
        · exact List.filter_sublist.cons _
        · exact List.filter_sublist.cons_cons _
      · rw [kept_of_ne hname]
        exact List.filter_sublist

theorem kept_concat (hlast : last ≠ ".") (front : List String) :
    kept absolute (front ++ [last]) = kept absolute front ++ [last] := by
  have hkept : [last].filter (· != ".") = [last] := by simp [hlast]
  cases front with
  | nil =>
      rw [List.nil_append, kept_of_ne hlast, hkept]
      rfl
  | cons name rest =>
      by_cases hname : name = "."
      · rw [hname, List.cons_append, kept_dot_cons, kept_dot_cons, List.filter_append, hkept]
        split
        · rfl
        · rfl
      · rw [List.cons_append, kept_of_ne hname, kept_of_ne hname, ← List.cons_append,
          List.filter_append, hkept]

theorem filter_kept (absolute : Bool) (names : List String) :
    (kept absolute names).filter (· != ".") = names.filter (· != ".") := by
  cases names with
  | nil => rfl
  | cons name rest =>
      by_cases hname : name = "."
      · rw [hname, kept_dot_cons]
        split
        · simp
        · simp
      · rw [kept_of_ne hname]
        simp

theorem eq_nil_of_kept_concat_dot (h : kept absolute names = front ++ ["."]) : front = [] := by
  have hfilter : ∀ (names front : List String), names.filter (· != ".") ≠ front ++ ["."] := by
    intro names front heq
    have hmem : "." ∈ names.filter (· != ".") := by
      rw [heq]
      simp
    simp at hmem
  cases names with
  | nil => simp [kept_nil] at h
  | cons name rest =>
      by_cases hname : name = "."
      · rw [hname, kept_dot_cons] at h
        split at h
        · exact absurd h (hfilter rest front)
        · cases front with
          | nil => rfl
          | cons first front =>
              rw [List.cons_append, List.cons.injEq] at h
              exact absurd h.2 (hfilter rest front)
      · rw [kept_of_ne hname] at h
        exact absurd h (hfilter _ front)

/-! ## Spelling -/

/-- The path with given names. -/
def spell (absolute : Bool) (names : List String) : String :=
  (if absolute then "/" else "") ++ "/".intercalate names

/-- What stands between two slashes, if anything does. -/
def IsStep (name : String) : Prop := '/' ∉ name.toList ∧ name ≠ ""

theorem no_slash_of_mem_piecesFrom {piece text part : List Char} (hpiece : '/' ∉ piece)
    (h : part ∈ piecesFrom piece text) : '/' ∉ part := by
  induction text generalizing piece with
  | nil =>
      rw [piecesFrom, List.mem_singleton] at h
      rw [h]
      simpa using hpiece
  | cons c rest ih =>
      rw [piecesFrom_cons] at h
      split at h
      · rcases List.mem_cons.mp h with rfl | h
        · simpa using hpiece
        · exact ih (by simp) h
      · rename_i hc
        exact ih (by simp [hpiece, Ne.symm hc]) h

theorem isStep_of_mem_names {name : String} (h : name ∈ Path.names path) : IsStep name := by
  unfold Path.names at h
  obtain ⟨part, hpart, rfl⟩ := List.mem_map.mp h
  obtain ⟨hmem, hne⟩ := List.mem_filter.mp hpart
  refine ⟨?_, by simpa using hne⟩
  rw [String.toList_ofList]
  exact no_slash_of_mem_piecesFrom (by simp) hmem

theorem pieces_intercalate (hne : names ≠ []) (h : ∀ name ∈ names, '/' ∉ name.toList) :
    pieces ("/".intercalate names) = names := by
  induction names with
  | nil => exact absurd rfl hne
  | cons name rest ih =>
      have hown := pieces_of_no_slash (h name List.mem_cons_self)
      cases rest with
      | nil => simpa using hown
      | cons next rest =>
          have hletters : ("/".intercalate (name :: next :: rest)).toList =
              name.toList ++ '/' :: ("/".intercalate (next :: rest)).toList := by
            simp
          rw [pieces_of_slash hletters, hown,
            ih (by simp) fun other hother => h other (List.mem_cons_of_mem _ hother)]
          rfl

theorem names_eq_filter_pieces (path : String) :
    Path.names path = (pieces path).filter (· != "") := by
  unfold Path.names pieces
  rw [List.filter_map]
  congr 2
  funext part
  cases part with
  | nil => rfl
  | cons c rest => simp

theorem names_intercalate (h : ∀ name ∈ names, IsStep name) :
    Path.names ("/".intercalate names) = names := by
  by_cases hne : names = []
  · rw [hne]
    rfl
  · rw [names_eq_filter_pieces, pieces_intercalate hne fun name hname => (h name hname).1,
      List.filter_eq_self]
    intro name hname
    simpa using (h name hname).2

theorem names_slash_append (path : String) : Path.names ("/" ++ path) = Path.names path := by
  have hletters : ("/" ++ path).toList = ("" : String).toList ++ '/' :: path.toList := by simp
  rw [names_eq_filter_pieces, pieces_of_slash hletters, List.filter_append,
    ← names_eq_filter_pieces path]
  rfl

theorem names_spell (absolute : Bool) (h : ∀ name ∈ names, IsStep name) :
    Path.names (spell absolute names) = names := by
  unfold spell
  cases absolute with
  | true =>
      rw [if_pos rfl, names_slash_append]
      exact names_intercalate h
  | false =>
      rw [if_neg (by simp), String.empty_append]
      exact names_intercalate h

theorem isAbsolute_spell (h : ∀ name ∈ names, IsStep name) :
    isAbsolute (spell absolute names) = absolute := by
  cases absolute with
  | true => simp [spell, isAbsolute]
  | false =>
      cases names with
      | nil => rfl
      | cons name rest =>
          obtain ⟨hslash, hne⟩ := h name List.mem_cons_self
          have hletters : name.toList ≠ [] := by simpa using hne
          obtain ⟨c, letters, hname⟩ := List.exists_cons_of_ne_nil hletters
          have hc : c ≠ '/' := by
            rintro rfl
            exact hslash (by simp [hname])
          have hhead : (spell false (name :: rest)).toList.head? = some c := by
            cases rest with
            | nil => simp [spell, hname]
            | cons next rest => simp [spell, hname]
          unfold isAbsolute
          rw [hhead]
          simpa using hc

theorem intercalate_sublist {parts parts' : List (List Char)} (h : parts.Sublist parts') :
    (['/'].intercalate parts).Sublist (['/'].intercalate parts') := by
  induction h with
  | slnil => exact List.Sublist.refl _
  | @cons parts parts' part h ih =>
      by_cases hempty : parts' = []
      · rw [hempty, List.sublist_nil] at h
        rw [h]
        exact List.nil_sublist _
      · rw [List.intercalate_cons_of_ne_nil hempty]
        exact ih.trans (List.sublist_append_right _ _)
  | @cons_cons parts parts' part h ih =>
      by_cases hempty : parts = []
      · rw [hempty, List.intercalate_singleton]
        by_cases hempty' : parts' = []
        · rw [hempty', List.intercalate_singleton]
        · rw [List.intercalate_cons_of_ne_nil hempty', List.append_assoc]
          exact List.sublist_append_left _ _
      · have hempty' : parts' ≠ [] := by
          rintro rfl
          exact hempty (List.sublist_nil.mp h)
        rw [List.intercalate_cons_of_ne_nil hempty, List.intercalate_cons_of_ne_nil hempty']
        exact ih.append_left _

theorem spell_sublist (h : names.Sublist (Path.names path)) :
    (spell (isAbsolute path) names).toList.Sublist path.toList := by
  have hspelled : ∀ {parts : List String}, names.Sublist parts →
      ("/".intercalate names).toList.Sublist ("/".intercalate parts).toList := by
    intro parts hparts
    rw [String.toList_intercalate, String.toList_intercalate]
    exact intercalate_sublist (hparts.map String.toList)
  rw [names_eq_filter_pieces] at h
  unfold spell
  by_cases habsolute : isAbsolute path = true
  · obtain ⟨rest, hrest⟩ : ∃ rest, path.toList = '/' :: rest := by
      unfold isAbsolute at habsolute
      exact List.head?_eq_some_iff.mp (by simpa using habsolute)
    have hletters : path.toList = "".toList ++ '/' :: (String.ofList rest).toList := by
      simpa using hrest
    have hpieces : pieces path = [""] ++ pieces (String.ofList rest) := pieces_of_slash hletters
    have hsublist : names.Sublist (pieces (String.ofList rest)) := by
      rw [hpieces, List.filter_append] at h
      exact h.trans List.filter_sublist
    have hbelow := hspelled hsublist
    rw [intercalate_pieces, String.toList_ofList] at hbelow
    rw [if_pos habsolute, hrest]
    simpa using hbelow
  · have hbelow := hspelled (h.trans List.filter_sublist)
    rw [intercalate_pieces] at hbelow
    rw [if_neg habsolute, String.empty_append]
    exact hbelow

/-- The path above one whose last name is no dot is spelled from its other steps. -/
theorem parent?_of_names (h : Path.names path = front ++ [last]) (hlast : last ≠ ".") :
    parent? path = some (spell (isAbsolute path) (kept (isAbsolute path) front)) := by
  have hsteps : steps path = kept (isAbsolute path) front ++ [last] := by
    rw [steps_eq, h, kept_concat hlast]
  unfold parent?
  rw [hsteps]
  split
  · rename_i hnil
    simp at hnil
  · rw [List.dropLast_concat]
    rfl

end Path

namespace FileSystem

variable {fs : FileSystem} {start place : List String} {names front more : List String}
  {path : String}

/-! ## The way up to a name -/

theorem exists_walk_of_append (h : fs.walk start (front ++ more) = .ok (.existing place .directory)) :
    ∃ between, fs.walk start front = .ok (.existing between .directory) := by
  induction front generalizing start with
  | nil =>
      have hstart := get?_start_of_walk h
      exact ⟨start, by rw [walk_nil, targetAt_of_some hstart]⟩
  | cons name front ih =>
      obtain ⟨next, found, hchild, hnext⟩ := walk_cons_eq_existing h
      obtain ⟨between, hbetween⟩ := ih hnext
      exact ⟨between, by rw [walk_cons, hchild]; exact hbetween⟩

/-- Dots on the way to a directory may be left out. -/
theorem walk_filter_dots :
    fs.walk start (names.filter (· != ".")) = .ok (.existing place .directory) ↔
      fs.walk start names = .ok (.existing place .directory) := by
  induction names generalizing start with
  | nil => rfl
  | cons name names ih =>
      by_cases hname : name = "."
      · have hdot : fs.get? start = some .directory →
            fs.walk start (name :: names) = fs.walk start names := by
          intro hstart
          rw [walk_cons, child_of_directory hstart, if_pos hname]
        rw [List.filter_cons_of_neg (by simp [hname]), ih]
        constructor
        · intro h
          rw [hdot (get?_start_of_walk h)]
          exact h
        · intro h
          rw [← hdot (get?_start_of_walk h)]
          exact h
      · rw [List.filter_cons_of_pos (by simpa using hname)]
        constructor
        · intro h
          obtain ⟨next, found, hchild, hnext⟩ := walk_cons_eq_existing h
          rw [walk_cons, hchild]
          exact ih.mp hnext
        · intro h
          obtain ⟨next, found, hchild, hnext⟩ := walk_cons_eq_existing h
          rw [walk_cons, hchild]
          exact ih.mpr hnext

/-- The steps of a path lead to the directory that its names lead to. -/
theorem walk_kept {absolute : Bool} :
    fs.walk start (Path.kept absolute names) = .ok (.existing place .directory) ↔
      fs.walk start names = .ok (.existing place .directory) := by
  rw [← walk_filter_dots, Path.filter_kept, walk_filter_dots]

/-- A path that is not refused leads where its names lead. -/
theorem locate_eq_walk (hnul : '\x00' ∉ path.toList) (hne : path ≠ "")
    (hlong : path.utf8ByteSize ≤ maxPath) :
    fs.locate path = fs.walk (if Path.isAbsolute path then [] else fs.workDir)
      (Path.names path) := by
  unfold locate
  rw [if_neg (by simpa using hnul), if_neg (by simpa using hne), if_neg (by omega)]

/-- The path that a path with given names before its last one lies in. -/
def above (path : String) (front : List String) : String :=
  Path.spell (Path.isAbsolute path) (Path.kept (Path.isAbsolute path) front)

section Above

variable {last : String} (hnames : Path.names path = front ++ [last])

include hnames

theorem kept_sublist_names :
    (Path.kept (Path.isAbsolute path) front).Sublist (Path.names path) := by
  rw [hnames]
  exact (Path.kept_sublist _ front).trans (List.sublist_append_left front [last])

theorem isStep_of_mem_kept :
    ∀ name ∈ Path.kept (Path.isAbsolute path) front, Path.IsStep name := by
  intro name hname
  exact Path.isStep_of_mem_names ((kept_sublist_names hnames).subset hname)

theorem names_above : Path.names (above path front) = Path.kept (Path.isAbsolute path) front :=
  Path.names_spell _ (isStep_of_mem_kept hnames)

theorem isAbsolute_above : Path.isAbsolute (above path front) = Path.isAbsolute path :=
  Path.isAbsolute_spell (isStep_of_mem_kept hnames)

/-- The path above a directory that was found leads to a directory, unless it is empty. -/
theorem exists_locate_above (h : fs.locate path = .ok (.existing place .directory))
    (hne : above path front ≠ "") :
    ∃ between, fs.locate (above path front) = .ok (.existing between .directory) := by
  obtain ⟨hnul, -, hlong, hwalk⟩ := walk_of_locate h
  rw [hnames] at hwalk
  obtain ⟨between, hbetween⟩ := exists_walk_of_append hwalk
  have hletters := Path.spell_sublist (kept_sublist_names hnames)
  refine ⟨between, ?_⟩
  rw [locate_eq_walk ?_ hne ?_, isAbsolute_above hnames, names_above hnames, walk_kept]
  · exact hbetween
  · intro hmem
    have hpath : '\x00' ∉ path.toList := by simpa using hnul
    exact hpath (hletters.subset hmem)
  · have hsize := String.utf8Len_le_of_sublist hletters
    rw [← String.utf8ByteSize_ofList, ← String.utf8ByteSize_ofList, String.ofList_toList,
      String.ofList_toList] at hsize
    exact Nat.le_trans hsize hlong

end Above

end FileSystem

end IssueTrace
