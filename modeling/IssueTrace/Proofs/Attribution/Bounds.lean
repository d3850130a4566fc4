import IssueTrace.Proofs.Attribution.Resolve
import IssueTrace.Proofs.Attribution.Trimming

/-!
# Bounds

Resolving a change computes the bounds of spans with words of limited size, cuts lists of declarations
between places that were searched for, and names files below a package.  Nothing of this can fail.
The bounds of a span are in order and are the exact ones, each moved to the nearest line number.  The
search finds no earlier place for a later line, so a cut always lies in its list, and a loop that
would stop at any other cut never stops.  A package is a part of the path of a file, so a file in a
package has a name.
-/

namespace IssueTrace

open Source (Ascending Declaration Outline Parser)

/-! ## Spans -/

/-- The line number nearest to an integer. -/
def nearestLine (n : Int) : Nat := min n.toNat maxLine

theorem nearestLine_le (n : Int) : nearestLine n ≤ maxLine :=
  Nat.min_le_right _ _

namespace LineSpan

variable {h : Hunk}

/-- Nothing but the ends of the line numbers limits the bounds of a span: they are those computed with
all integers, each moved to the nearest line number, the smaller one first. -/
theorem trimmed_eq_nearest (hfits : h.start + h.count ≤ maxLine) (lineCount context : Nat) :
    trimmed h lineCount context =
      ordered (nearestLine (if 1 < h.start then h.start + context else h.start))
        (nearestLine (if lineCount = h.start + h.count - 1 then lineCount
          else h.start + h.count - 1 - context)) := by
  have hlast : h.last = h.start + h.count - 1 := by
    simp only [Hunk.last, addLines]
    omega
  have hstart : (if 1 < h.start then addLines h.start context else h.start) =
      nearestLine (if 1 < h.start then h.start + context else h.start) := by
    unfold nearestLine
    split
    · simp only [addLines]
      omega
    · omega
  have hstop : (if lineCount = h.last then h.last else h.last - context) =
      nearestLine (if lineCount = h.start + h.count - 1 then lineCount
        else h.start + h.count - 1 - context) := by
    rw [hlast]
    unfold nearestLine
    split
    · omega
    · omega
  unfold trimmed
  dsimp only
  rw [hstart, hstop]

theorem ordered_stop_le {a b limit : Nat} (ha : a ≤ limit) (hb : b ≤ limit) :
    (ordered a b).stop ≤ limit := by
  unfold ordered
  split
  · exact hb
  · exact ha

end LineSpan

/-! ## Cuts -/

namespace Change

/-- The elements of a list from one place to another, both included, if the places are in order and
in the list. -/
def slice? {α : Type} (xs : List α) (first last : Nat) : Option (List α) :=
  if first ≤ last ∧ last < xs.length then some ((xs.take (last + 1)).drop first) else none

/-- The declarations that a span falls on, if their places can be cut out. -/
def covered? (declarations : List Declaration) (span : LineSpan) : Option (List Declaration) :=
  match locate? declarations span.stop with
  | none => some []
  | some last => slice? declarations ((locate? declarations span.start).getD 0) last

variable {ds : List Declaration} {span : LineSpan}

theorem locate?_bounds (h : ds.Pairwise fun d e => d.line ≤ e.line)
    (hspan : span.start ≤ span.stop) {last : Nat} (hlast : locate? ds span.stop = some last) :
    (locate? ds span.start).getD 0 ≤ last ∧ last < ds.length := by
  have hreached := (locate?_eq_some_iff h).mp hlast
  have hmono := reached_mono h hspan
  have hlength := reached_le_length ds span.stop
  rw [getD_locate? h]
  omega

theorem covered?_eq_some (h : ds.Pairwise fun d e => d.line ≤ e.line)
    (hspan : span.start ≤ span.stop) : covered? ds span = some (covered ds span) := by
  unfold covered? covered
  cases hlast : locate? ds span.stop with
  | none => rfl
  | some last => exact if_pos (locate?_bounds h hspan hlast)

end Change

theorem foldlM_eq_some {α β : Type} {step? : α → β → Option α} {step : α → β → α} {bs : List β}
    (hstep : ∀ a, ∀ b ∈ bs, step? a b = some (step a b)) (a : α) :
    bs.foldlM step? a = some (bs.foldl step a) := by
  induction bs generalizing a with
  | nil => rfl
  | cons b bs ih =>
      rw [List.foldlM_cons, hstep a b List.mem_cons_self, List.foldl_cons]
      exact ih (fun a b hb => hstep a b (List.mem_cons_of_mem _ hb)) (step a b)

namespace Entities

/-- Adds what a declaration contributes, if the members that the span falls on can be cut out. -/
def addDeclaration? (span : LineSpan) (e : Entities) : Declaration → Option Entities
  | .classDef name _ body =>
      (Change.covered? body span).map fun members =>
        { classes := e.classes.insert name
          methods := e.methods.insertAll (memberNames name members) }
  | d => some (addDeclaration span e d)

/-- Adds what a span touches, if everything that it falls on can be cut out. -/
def addSpan? (declarations : List Declaration) (e : Entities) (span : LineSpan) : Option Entities :=
  (Change.covered? declarations span).bind fun hit => hit.foldlM (addDeclaration? span) e

variable {span : LineSpan}

theorem addDeclaration?_eq_some {d : Declaration} (h : Ascending d.body)
    (hspan : span.start ≤ span.stop) (e : Entities) :
    addDeclaration? span e d = some (addDeclaration span e d) := by
  cases d with
  | function _ _ => rfl
  | classDef name line body =>
      have hmembers : Change.covered? body span = some (Change.covered body span) :=
        Change.covered?_eq_some h.pairwise hspan
      simp only [addDeclaration?, hmembers]
      rfl
  | other _ _ => rfl

theorem addSpan?_eq_some {ds : List Declaration} (h : Ascending ds)
    (hspan : span.start ≤ span.stop) (e : Entities) :
    addSpan? ds e span = some (addSpan ds e span) := by
  unfold addSpan? addSpan
  rw [Change.covered?_eq_some h.pairwise hspan]
  apply foldlM_eq_some
  intro e d hd
  exact addDeclaration?_eq_some (h.body ((Change.mem_covered_iff h.pairwise).mp hd).mem) hspan e

end Entities

/-- Adds what a hunk touches, if everything that its span falls on can be cut out. -/
def addHunk? (options : ResolverOptions) (commit : CommitId) (path : String) (outline : Outline)
    (state : Entities × Journal) (header : String) : Option (Entities × Journal) :=
  match Hunk.parse? header with
  | some hunk =>
      let span := LineSpan.trimmed hunk outline.lineCount options.contextLines
      (Entities.addSpan? outline.declarations state.1 span).map fun e => (e, state.2)
  | none => some (addHunk options commit path outline state header)

theorem addHunk?_eq_some {options : ResolverOptions} {commit : CommitId} {path : String}
    {outline : Outline} (h : Ascending outline.declarations) (state : Entities × Journal)
    (header : String) :
    addHunk? options commit path outline state header =
      some (addHunk options commit path outline state header) := by
  unfold addHunk?
  cases hparse : Hunk.parse? header with
  | none => rfl
  | some hunk =>
      have hspan :=
        LineSpan.trimmed_start_le_stop hunk outline.lineCount options.contextLines
      simp only [Entities.addSpan?_eq_some h hspan, addHunk, hparse]
      rfl

/-! ## Names of files -/

theorem find?_eq_none_of_qualify {repo : Repository} {options : ResolverOptions} {commit : CommitId}
    {path : String} {failure : Failure} (h : qualify repo options commit path = .error failure) :
    Package.find? repo commit path options.packageMarker options.packageSearch = none := by
  by_contra hfound
  obtain ⟨root, hroot⟩ := Option.ne_none_iff_exists'.mp hfound
  obtain ⟨name, hname⟩ := Package.exists_moduleName hroot options.sourceExtension
  have hok : qualify repo options commit path = .ok name :=
    qualify_eq_ok_iff.mpr ⟨root, hroot, hname⟩
  rw [h] at hok
  cases hok

/-! ## The whole -/

open Change (locate?)

/-- Resolving a change never leaves the bounds.  Those of the span of a header that is read are in
order, and are computed as with all integers, each moved to the nearest line number.  At the top of an
outline in ascending order, and in every class there, the places found for them are in order and in
the list, so the loop over the headers never stops at a cut.  And a package is a part of the path
before a slash, so a file in a package has a name, whatever the ending of source files is, and one
that has no name has no package. -/
theorem resolution_stays_in_bounds {outline : Outline} (houtline : Ascending outline.declarations)
    (repo : Repository) (options : ResolverOptions) (commit : CommitId) (path : String) :
    (∀ header hunk, Hunk.parse? header = some hunk → ∀ lineCount context,
      let span := LineSpan.trimmed hunk lineCount context
      span.start ≤ span.stop ∧ span.stop ≤ maxLine ∧
        span = LineSpan.ordered
          (nearestLine (if 1 < hunk.start then hunk.start + context else hunk.start))
          (nearestLine (if lineCount = hunk.start + hunk.count - 1 then lineCount
            else hunk.start + hunk.count - 1 - context)) ∧
        ∀ siblings,
          (siblings = outline.declarations ∨ ∃ d ∈ outline.declarations, siblings = d.body) →
          ∀ last, locate? siblings span.stop = some last →
            (locate? siblings span.start).getD 0 ≤ last ∧ last < siblings.length) ∧
    (∀ (headers : List String) state,
      headers.foldlM (addHunk? options commit path outline) state =
        some (headers.foldl (addHunk options commit path outline) state)) ∧
    (∀ marker search root, Package.find? repo commit path marker search = some root →
      (∃ rest, path.toList = root.directory.toList ++ '/' :: rest) ∧
        ∀ extension, (Package.moduleName? path root.directory extension).isSome) ∧
    ∀ failure, qualify repo options commit path = .error failure →
      Package.find? repo commit path options.packageMarker options.packageSearch = none := by
  refine ⟨?_, ?_, ?_, ?_⟩
  · intro header hunk hparse lineCount context span
    have hspan : span.start ≤ span.stop := LineSpan.trimmed_start_le_stop hunk lineCount context
    have hnearest := LineSpan.trimmed_eq_nearest (Hunk.parse?_fits hparse) lineCount context
    refine ⟨hspan, ?_, hnearest, ?_⟩
    · rw [show span = _ from hnearest]
      exact LineSpan.ordered_stop_le (nearestLine_le _) (nearestLine_le _)
    · rintro siblings (rfl | ⟨d, hd, rfl⟩) last hlast
      · exact Change.locate?_bounds houtline.pairwise hspan hlast
      · exact Change.locate?_bounds (houtline.body hd).pairwise hspan hlast
  · intro headers state
    apply foldlM_eq_some
    intro state header _
    exact addHunk?_eq_some houtline state header
  · intro marker search root hroot
    have habove := Package.directory_mem_ancestors hroot
    refine ⟨Package.mem_ancestors.mp habove, ?_⟩
    intro extension
    exact Package.moduleName?_isSome_iff.mpr habove
  · intro failure hfailure
    exact find?_eq_none_of_qualify hfailure

/-- The last lines that have a number, with a context that reaches beyond them, in a file whose name
has slashes at both ends and two in a row. -/
theorem resolution_stays_in_bounds_at_limit :
    let outline : Outline := ⟨.legacy, [.classDef "A" 1 [.function "f" 2], .function "g" 3], 3⟩
    let options : ResolverOptions := { contextLines := maxLine }
    let repo : Repository := { Sample.repository with pathExists := fun _ _ => true }
    let header := "@@ -1 +18446744073709551610,5 @@"
    Ascending outline.declarations ∧
      LineSpan.trimmed ⟨18446744073709551610, 5⟩ 3 maxLine = ⟨0, maxLine⟩ ∧
      [header].foldlM (addHunk? options Sample.commit "/ä//m/" outline) ({}, {}) =
        some ([header].foldl (addHunk options Sample.commit "/ä//m/" outline) ({}, {})) ∧
      Package.find? repo Sample.commit "/ä//m/" options.packageMarker options.packageSearch =
        some ⟨"m", "/ä//m"⟩ ∧
      (Package.moduleName? "/ä//m/" "/ä//m" ".py").isSome := by
  intro outline options repo header
  have hbody : Ascending [.function "f" 2] := by
    refine .intro (List.pairwise_singleton _ _) ?_
    simp [Declaration.body, Ascending.nil]
  have houtline : Ascending outline.declarations := by
    refine .intro ?_ ?_
    · simp [outline, Declaration.line]
    · simp [outline, Declaration.body, Ascending.nil, hbody]
  obtain ⟨hspans, hloop, hpackages, -⟩ :=
    resolution_stays_in_bounds houtline repo options Sample.commit "/ä//m/"
  have hparse : Hunk.parse? header = some ⟨18446744073709551610, 5⟩ := by decide +kernel
  obtain ⟨-, -, hnearest, -⟩ := hspans header _ hparse 3 maxLine
  have hfound : Package.find? repo Sample.commit "/ä//m/" options.packageMarker
      options.packageSearch = some ⟨"m", "/ä//m"⟩ := by
    decide +kernel
  obtain ⟨-, hname⟩ := hpackages _ _ _ hfound
  refine ⟨houtline, ?_, hloop [header] ({}, {}), hfound, hname ".py"⟩
  rw [hnearest]
  decide +kernel

end IssueTrace
