import IssueTrace.Storage.Path
import Mathlib.Data.List.Basic

/-!
# Names along a path

A name joined to the path of a directory is one more name along the way.
-/

namespace IssueTrace

namespace Path

theorem piecesFrom_cons (piece : List Char) (c : Char) (rest : List Char) :
    piecesFrom piece (c :: rest) =
      if c = '/' then piece.reverse :: piecesFrom [] rest else piecesFrom (c :: piece) rest :=
  rfl

theorem piecesFrom_append_slash (x y : List Char) :
    ∀ piece, piecesFrom piece (x ++ '/' :: y) = piecesFrom piece x ++ piecesFrom [] y := by
  induction x with
  | nil =>
      intro piece
      rfl
  | cons c x ih =>
      intro piece
      rw [List.cons_append, piecesFrom_cons, piecesFrom_cons, ih, ih]
      split
      · rfl
      · rfl

theorem piecesFrom_of_no_slash {x : List Char} (hx : '/' ∉ x) :
    ∀ piece, piecesFrom piece x = [piece.reverse ++ x] := by
  induction x with
  | nil =>
      intro piece
      simp [piecesFrom]
  | cons c x ih =>
      intro piece
      have hc : c ≠ '/' := by
        rintro rfl
        exact hx List.mem_cons_self
      rw [piecesFrom_cons, if_neg hc, ih fun h => hx (List.mem_cons_of_mem c h)]
      simp

/-- What a name must be to stand for an entry of a directory. -/
structure IsEntryName (name : String) : Prop where
  no_slash : '/' ∉ name.toList
  ne_empty : name ≠ ""
  ne_dot : name ≠ "."
  ne_dots : name ≠ ".."

instance (name : String) : Decidable (IsEntryName name) :=
  decidable_of_iff ('/' ∉ name.toList ∧ name ≠ "" ∧ name ≠ "." ∧ name ≠ "..")
    ⟨fun h => ⟨h.1, h.2.1, h.2.2.1, h.2.2.2⟩, fun h => ⟨h.1, h.2, h.3, h.4⟩⟩

variable {dir name : String}

theorem IsEntryName.not_isAbsolute (hname : IsEntryName name) : isAbsolute name = false := by
  unfold isAbsolute
  cases hletters : name.toList with
  | nil => rfl
  | cons c rest =>
      have hc : c ≠ '/' := by
        rintro rfl
        exact hname.no_slash (by simp [hletters])
      simpa using hc

/-- One slash stands between a directory and a name in it. -/
theorem toList_join (hdir : dir ≠ "") (hname : IsEntryName name) :
    ∃ front, (join dir name).toList = front ++ '/' :: name.toList ∧
      (dir.toList = front ∨ dir.toList = front ++ ['/']) := by
  have hempty : dir.isEmpty = false := by
    simpa using hdir
  unfold join
  rw [hname.not_isAbsolute, hempty]
  by_cases hslash : dir.toList.getLast? = some '/'
  · obtain ⟨front, hfront⟩ := List.getLast?_eq_some_iff.mp hslash
    refine ⟨front, ?_, .inr hfront⟩
    simp [hfront]
  · refine ⟨dir.toList, ?_, .inl rfl⟩
    simp [hslash]

theorem join_ne_empty (hdir : dir ≠ "") (hname : IsEntryName name) :
    ¬ (join dir name).isEmpty = true := by
  intro h
  obtain ⟨front, hjoin, -⟩ := toList_join hdir hname
  have hnil : (join dir name).toList = [] := by simpa using h
  simp [hjoin] at hnil

theorem join_isAbsolute (hdir : dir ≠ "") (hname : IsEntryName name) :
    isAbsolute (join dir name) = isAbsolute dir := by
  obtain ⟨front, hjoin, hfront⟩ := toList_join hdir hname
  have hletters : dir.toList ≠ [] := by
    simpa using hdir
  unfold isAbsolute
  rw [hjoin]
  rcases hfront with hfront | hfront
  · rw [hfront] at hletters ⊢
    rw [List.head?_append_of_ne_nil _ hletters]
  · rw [hfront]
    cases front with
    | nil => rfl
    | cons c front => rfl

theorem not_endsInSlash_join (hdir : dir ≠ "") (hname : IsEntryName name) :
    endsInSlash (join dir name) = false := by
  obtain ⟨front, hjoin, -⟩ := toList_join hdir hname
  have hletters : name.toList ≠ [] := by
    simpa using hname.ne_empty
  obtain ⟨init, c, hlast⟩ : ∃ init c, name.toList = init ++ [c] :=
    ⟨_, _, (List.dropLast_concat_getLast hletters).symm⟩
  have hc : c ≠ '/' := by
    rintro rfl
    exact hname.no_slash (by simp [hlast])
  unfold endsInSlash
  rw [hjoin, hlast, ← List.cons_append, ← List.append_assoc, List.getLast?_concat]
  simpa using hc

/-- The names of a path in a directory. -/
theorem names_join (hdir : dir ≠ "") (hname : IsEntryName name) :
    names (join dir name) = names dir ++ [name] := by
  obtain ⟨front, hjoin, hfront⟩ := toList_join hdir hname
  have hown : piecesFrom [] name.toList = [name.toList] :=
    piecesFrom_of_no_slash hname.no_slash []
  have hkept : ([name.toList].filter (!·.isEmpty)).map String.ofList = [name] := by
    simp [hname.ne_empty]
  have hnames : names dir = ((piecesFrom [] front).filter (!·.isEmpty)).map String.ofList := by
    unfold names
    rcases hfront with hfront | hfront
    · rw [hfront]
    · rw [hfront, piecesFrom_append_slash, List.filter_append, List.map_append]
      simp [piecesFrom]
  unfold names at hnames ⊢
  rw [hjoin, piecesFrom_append_slash, List.filter_append, List.map_append, hown, hkept, hnames]

end Path

end IssueTrace
