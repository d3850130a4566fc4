import IssueTrace.Proofs.Storage.PathNames

/-!
# Pieces of a path

A path is settled by its pieces between slashes.  One path lies below another when its pieces go on
with those of the other.
-/

namespace IssueTrace.Path

/-- The pieces between the slashes of a path, with the empty ones. -/
def pieces (path : String) : List String := (piecesFrom [] path.toList).map String.ofList

/-- A path whose names are separated by single slashes, with none at either end. -/
def IsPlain (path : String) : Prop := ∀ piece ∈ pieces path, piece ≠ ""

instance (path : String) : Decidable (IsPlain path) :=
  inferInstanceAs (Decidable (∀ piece ∈ pieces path, piece ≠ ""))

theorem pieces_of_no_slash {name : String} (h : '/' ∉ name.toList) : pieces name = [name] := by
  unfold pieces
  rw [piecesFrom_of_no_slash h]
  simp

theorem piecesFrom_ne_nil (piece text : List Char) : piecesFrom piece text ≠ [] := by
  induction text generalizing piece with
  | nil => simp [piecesFrom]
  | cons c rest ih =>
      rw [piecesFrom_cons]
      split
      · exact List.cons_ne_nil _ _
      · exact ih _

theorem pieces_ne_nil (path : String) : pieces path ≠ [] := by
  have hletters := piecesFrom_ne_nil [] path.toList
  simpa [pieces] using hletters

theorem intercalate_piecesFrom (piece text : List Char) :
    ['/'].intercalate (piecesFrom piece text) = piece.reverse ++ text := by
  induction text generalizing piece with
  | nil => exact List.intercalate_singleton.trans (List.append_nil _).symm
  | cons c rest ih =>
      rw [piecesFrom_cons]
      by_cases hc : c = '/'
      · rw [if_pos hc, List.intercalate_cons_of_ne_nil (piecesFrom_ne_nil [] rest), ih, hc]
        simp
      · rw [if_neg hc, ih, List.reverse_cons, List.append_assoc]
        rfl

/-- A path is put together from its pieces. -/
theorem intercalate_pieces (path : String) : "/".intercalate (pieces path) = path := by
  have hletters : (pieces path).map String.toList = piecesFrom [] path.toList := by
    simp [pieces, Function.comp_def]
  rw [← String.toList_inj, String.toList_intercalate, hletters]
  exact intercalate_piecesFrom [] path.toList

theorem pieces_inj {path path' : String} : pieces path = pieces path' ↔ path = path' := by
  constructor
  · intro h
    rw [← intercalate_pieces path, h, intercalate_pieces]
  · rintro rfl
    rfl

/-- A slash splits the pieces of a path in two. -/
theorem pieces_of_slash {path front back : String}
    (h : path.toList = front.toList ++ '/' :: back.toList) :
    pieces path = pieces front ++ pieces back := by
  unfold pieces
  rw [h, piecesFrom_append_slash, List.map_append]

/-- One path goes on behind another exactly if its pieces do. -/
theorem exists_slash_iff {path front : String} :
    (∃ rest, path.toList = front.toList ++ '/' :: rest) ↔
      ∃ more, more ≠ [] ∧ pieces path = pieces front ++ more := by
  constructor
  · rintro ⟨rest, hrest⟩
    refine ⟨pieces (String.ofList rest), pieces_ne_nil _, pieces_of_slash ?_⟩
    rw [hrest, String.toList_ofList]
  · rintro ⟨more, hmore, hpieces⟩
    refine ⟨("/".intercalate more).toList, ?_⟩
    have hpath : path = front ++ "/" ++ "/".intercalate more :=
      calc path = "/".intercalate (pieces front ++ more) := by
            rw [← hpieces, intercalate_pieces]
        _ = "/".intercalate (pieces front) ++ "/" ++ "/".intercalate more :=
            String.intercalate_append_of_ne_nil (pieces_ne_nil front) hmore
        _ = front ++ "/" ++ "/".intercalate more := by rw [intercalate_pieces]
    rw [hpath]
    simp

/-- The names of a plain path are its pieces. -/
theorem IsPlain.names_eq {path : String} (h : IsPlain path) : names path = pieces path := by
  have hkept : ∀ piece ∈ piecesFrom [] path.toList, (!piece.isEmpty) = true := by
    intro piece hpiece
    have hne := h (String.ofList piece) (List.mem_map_of_mem hpiece)
    simpa using hne
  unfold names pieces
  rw [List.filter_eq_self.mpr hkept]

/-- What lies before a slash of a plain path is plain, and so is what lies behind it. -/
theorem isPlain_of_slash {path front back : String}
    (h : path.toList = front.toList ++ '/' :: back.toList) :
    IsPlain path ↔ IsPlain front ∧ IsPlain back := by
  unfold IsPlain
  rw [pieces_of_slash h]
  exact List.forall_mem_append

/-- A name without a slash is plain unless it is empty. -/
theorem isPlain_of_no_slash {name : String} (hslash : '/' ∉ name.toList) (hne : name ≠ "") :
    IsPlain name := by
  intro piece hpiece
  rw [pieces_of_no_slash hslash, List.mem_singleton] at hpiece
  rw [hpiece]
  exact hne

end IssueTrace.Path
