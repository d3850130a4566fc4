import IssueTrace.Proofs.Run.Replay
import IssueTrace.Proofs.Run.Report

/-!
# Windows side by side

The directory of a window without a name is named for its revisions, and windows with different
directories do not meet: each is left as if the others had not been gone through.  But different
revisions can make the same name, and then one window writes over what another has written.
-/

namespace IssueTrace

open FileSystem (AgreesBelow GrowsBelow)
open Run (Gives)

/-! ## The names of directories -/

namespace VersionRange

variable {r r' : VersionRange}

/-- How a letter of a revision stands in the name of a directory. -/
def shown (c : Char) : Char := if isSeparator c then '-' else c

theorem toList_label (h : r.name = none) :
    r.label.toList = r.start.toList.map shown ++ '_' :: r.stop.toList.map shown := by
  unfold label
  rw [h]
  simp only [String.toList_ofList, List.map_append, List.map_cons]
  rfl

theorem shown_ne_slash (c : Char) : shown c ≠ '/' := by
  unfold shown
  split
  · decide
  · rename_i hc
    rintro rfl
    exact hc rfl

theorem isEntryName_label (h : r.name = none) : Path.IsEntryName r.label := by
  have hlow : '_' ∈ r.label.toList := by
    rw [toList_label h]
    simp
  have hne : ∀ name : String, '_' ∉ name.toList → r.label ≠ name := by
    rintro name hname rfl
    exact hname hlow
  refine ⟨?_, hne _ (by decide), hne _ (by decide), hne _ (by decide)⟩
  rw [toList_label h]
  simp [shown_ne_slash]

/-- The revisions stand in the name of the directory as they are, and the first ends at the first low
line. -/
structure IsReadable (r : VersionRange) : Prop where
  start_plain : ∀ c ∈ r.start.toList, isSeparator c = false
  stop_plain : ∀ c ∈ r.stop.toList, isSeparator c = false
  no_lowLine : '_' ∉ r.start.toList

theorem map_shown {text : List Char} (h : ∀ c ∈ text, isSeparator c = false) :
    text.map shown = text := by
  have hsame : ∀ c ∈ text, shown c = id c := by
    intro c hc
    unfold shown
    rw [h c hc]
    rfl
  rw [List.map_congr_left hsame, List.map_id]

theorem toList_label_of_readable (h : r.name = none) (hread : r.IsReadable) :
    r.label.toList = r.start.toList ++ '_' :: r.stop.toList := by
  rw [toList_label h, map_shown hread.start_plain, map_shown hread.stop_plain]

theorem label_inj (h : r.name = none) (h' : r'.name = none) (hread : r.IsReadable)
    (hread' : r'.IsReadable) : r.label = r'.label ↔ r.start = r'.start ∧ r.stop = r'.stop := by
  constructor
  · intro heq
    have hboth := congrArg String.toList heq
    rw [toList_label_of_readable h hread, toList_label_of_readable h' hread'] at hboth
    have hstart : r.start.toList = r'.start.toList := by
      rw [← Queries.takeWhile_append_lowLine hread.no_lowLine, hboth,
        Queries.takeWhile_append_lowLine hread'.no_lowLine]
    rw [hstart, List.append_cancel_left_eq, List.cons.injEq] at hboth
    exact ⟨String.toList_inj.mp hstart, String.toList_inj.mp hboth.2⟩
  · rintro ⟨hstart, hstop⟩
    have hsame : r.label.toList = r'.label.toList := by
      rw [toList_label_of_readable h hread, toList_label_of_readable h' hread', hstart, hstop]
    exact String.toList_inj.mp hsame

end VersionRange

theorem Path.join_inj {dir name name' : String} (hname : IsEntryName name)
    (hname' : IsEntryName name') : join dir name = join dir name' ↔ name = name' := by
  constructor
  · intro heq
    have hnames := congrArg names heq
    by_cases hdir : dir = ""
    · rw [hdir, join_empty, join_empty] at heq
      exact heq
    · rw [names_join hdir hname, names_join hdir hname', List.append_cancel_left_eq] at hnames
      exact (List.cons.inj hnames).1
  · rintro rfl
    rfl

/-! ## Places apart -/

namespace FileSystem

/-- Neither of two places lies below the other. -/
def Apart (place other : List String) : Prop := ¬ place <+: other ∧ ¬ other <+: place

instance (place other : List String) : Decidable (Apart place other) :=
  inferInstanceAs (Decidable (¬ place <+: other ∧ ¬ other <+: place))

theorem apart_of_ne {place : List String} {name name' : String} (h : name ≠ name') :
    Apart (place ++ [name]) (place ++ [name']) :=
  ⟨not_prefix_of_ne h, not_prefix_of_ne h.symm⟩

end FileSystem

namespace Job

variable {j : Job} {o o' p p' : Output}

/-- The place of a window below the output directory. -/
def placeOf (j : Job) (o : Output) (range : VersionRange) : List String :=
  o.files.placeOf (VersionLayout.below j.config.outputDir range).root

/-- Windows without a name that have different directories lie apart. -/
theorem apart_of_label_ne {r r' : VersionRange} (h : r.name = none) (h' : r'.name = none)
    (hne : r.label ≠ r'.label) : FileSystem.Apart (j.placeOf o r) (j.placeOf o r') := by
  have hplace : ∀ {r : VersionRange}, r.name = none →
      j.placeOf o r = o.files.placeOf j.config.outputDir ++ [r.label] :=
    fun hnone => FileSystem.placeOf_join o.files _ (VersionRange.isEntryName_label hnone)
  rw [hplace h, hplace h']
  exact FileSystem.apart_of_ne hne

/-! ## Runs over windows -/

theorem mapM_runWindow_grows {ranges : List VersionRange} {reports : List WindowReport}
    (hrun : Gives (ranges.mapM j.runWindow) p reports p') : GrowsBelow [] p.files p'.files := by
  induction ranges generalizing p reports with
  | nil =>
      obtain ⟨-, rfl⟩ := Run.gives_mapM_nil.mp hrun
      exact .refl [] p.files
  | cons r ranges ih =>
      obtain ⟨report, p₁, rest, hfirst, hrest, -⟩ := Run.gives_mapM_cons.mp hrun
      obtain ⟨s, -⟩ := runWindow_gives.mp hfirst
      exact (s.grows.mono List.nil_prefix).trans (ih hrest)

/-- Windows that lie apart from a place leave the files below it as they are. -/
theorem mapM_runWindow_agrees {ranges : List VersionRange} {reports : List WindowReport}
    {place : List String} (h : AgreesBelow place o.files p.files)
    (hapart : ∀ r ∈ ranges, FileSystem.Apart (j.placeOf o r) place)
    (hrun : Gives (ranges.mapM j.runWindow) p reports p') : AgreesBelow place o.files p'.files := by
  induction ranges generalizing p reports with
  | nil =>
      obtain ⟨-, rfl⟩ := Run.gives_mapM_nil.mp hrun
      exact h
  | cons r ranges ih =>
      obtain ⟨report, p₁, rest, hfirst, hrest, -⟩ := Run.gives_mapM_cons.mp hrun
      obtain ⟨s, -⟩ := runWindow_gives.mp hfirst
      have hroot : s.root = j.placeOf o r := FileSystem.placeOf_congr h.workDir_eq _
      have hgrows := s.grows
      rw [hroot] at hgrows
      obtain ⟨hbelow, habove⟩ := hapart r List.mem_cons_self
      exact ih (h.grows hgrows hbelow habove) (fun r hr => hapart r (List.mem_cons_of_mem _ hr))
        hrest

/-- A window that lies apart from the others of a run is left as if it had been gone through alone. -/
theorem exists_runWindow_of_run (horigin : o.files.get? o.files.workDir = some .directory)
    {before behind : List VersionRange} {range : VersionRange} {reports : List WindowReport}
    (hversions : j.config.versions = before ++ range :: behind)
    (hapart : ∀ r ∈ before ++ behind, FileSystem.Apart (j.placeOf o r) (j.placeOf o range))
    (hrun : Gives j.run o reports o') :
    ∃ report own, Gives (j.runWindow range) o report own ∧
      reports[before.length]? = some report ∧
      o'.files.filesBelow (j.placeOf o range) = own.files.filesBelow (j.placeOf o range) := by
  have hbefore : ∀ r ∈ before, FileSystem.Apart (j.placeOf o r) (j.placeOf o range) :=
    fun r hr => hapart r (List.mem_append_left behind hr)
  have hbehind : ∀ r ∈ behind, FileSystem.Apart (j.placeOf o r) (j.placeOf o range) :=
    fun r hr => hapart r (List.mem_append_right before hr)
  unfold run at hrun
  rw [hversions] at hrun
  obtain ⟨first, p, others, hfirst, hothers, rfl⟩ := Run.gives_mapM_append.mp hrun
  obtain ⟨report, p', last, hwindow, hlast, rfl⟩ := Run.gives_mapM_cons.mp hothers
  have hstart : AgreesBelow (j.placeOf o range) o.files o.files := .refl _ horigin
  have hagrees := mapM_runWindow_agrees hstart hbefore hfirst
  obtain ⟨s', rfl⟩ := runWindow_gives.mp hwindow
  have hroot : s'.root = j.placeOf o range := FileSystem.placeOf_congr hagrees.workDir_eq _
  obtain ⟨own, s, hreport, hown⟩ := s'.replay (hroot ▸ hagrees)
  rw [hroot] at hown
  refine ⟨s'.report, own, runWindow_gives.mpr ⟨s, hreport.symm⟩, ?_, ?_⟩
  · rw [← Run.length_of_gives_mapM hfirst, List.getElem?_append_right (Nat.le_refl _), Nat.sub_self]
    rfl
  · have hwork : own.files.workDir = o.files.workDir := s.grows.workDir_eq
    have hplace : ∀ r, j.placeOf own r = j.placeOf o r :=
      fun r => FileSystem.placeOf_congr hwork _
    have hbehind' : ∀ r ∈ behind, FileSystem.Apart (j.placeOf own r) (j.placeOf o range) := by
      intro r hr
      rw [hplace r]
      exact hbehind r hr
    have hend := mapM_runWindow_agrees hown hbehind' hlast
    exact hend.listing

/-- The map of issues in a directory is that of the last window that has the directory. -/
theorem readText_of_run (horigin : o.files.get? o.files.workDir = some .directory)
    {before behind : List VersionRange} {range : VersionRange} {reports : List WindowReport}
    (hversions : j.config.versions = before ++ range :: behind)
    (hapart : ∀ r ∈ behind, FileSystem.Apart (j.placeOf o r) (j.placeOf o range))
    (hrun : Gives j.run o reports o') :
    ∃ commits, History.window j.history range.start range.stop = .ok commits ∧
      o'.files.readText (VersionLayout.below j.config.outputDir range).issueMapPath =
        .ok (IssueMap.ofCommits commits j.pattern).render := by
  unfold run at hrun
  rw [hversions] at hrun
  obtain ⟨first, p, others, hfirst, hothers, rfl⟩ := Run.gives_mapM_append.mp hrun
  obtain ⟨report, p', last, hwindow, hlast, rfl⟩ := Run.gives_mapM_cons.mp hothers
  obtain ⟨s, rfl⟩ := runWindow_gives.mp hwindow
  have hgrows : GrowsBelow [] o.files p'.files :=
    (mapM_runWindow_grows hfirst).trans (s.grows.mono List.nil_prefix)
  have horigin' : p'.files.get? p'.files.workDir = some .directory := by
    rw [hgrows.workDir_eq]
    exact hgrows.directories _ horigin
  have hplace : ∀ r, j.placeOf p' r = j.placeOf o r :=
    fun r => FileSystem.placeOf_congr hgrows.workDir_eq _
  have hstart : AgreesBelow (j.placeOf o range) p'.files p'.files := .refl _ horigin'
  have hbehind : ∀ r ∈ behind, FileSystem.Apart (j.placeOf p' r) (j.placeOf o range) := by
    intro r hr
    rw [hplace r]
    exact hapart r hr
  have hend := mapM_runWindow_agrees hstart hbehind hlast
  have hmap : j.placeOf o range <+:
      p'.files.placeOf (VersionLayout.below j.config.outputDir range).issueMapPath := by
    unfold VersionLayout.issueMapPath VersionLayout.below
    dsimp only
    rw [FileSystem.placeOf_join _ _ (by decide), FileSystem.placeOf_join _ _ (by decide),
      List.append_assoc, ← hplace range]
    exact List.prefix_append _ _
  refine ⟨s.commits, s.walk, ?_⟩
  rw [← s.map_eq]
  exact hend.readText hmap s.readText_map

/-- Windows without a name have one directory exactly if their labels are the same, and labels of
readable revisions tell the revisions.  A window that lies apart from the others of a run is reported,
and its files are left, as if it had been gone through alone.  Where windows have one directory, the
map of issues there is that of the last of them. -/
theorem run_separates_apart (j : Job) (o : Output)
    (horigin : o.files.get? o.files.workDir = some .directory) :
    (∀ r r' : VersionRange, r.name = none → r'.name = none →
      ((VersionLayout.below j.config.outputDir r).root =
          (VersionLayout.below j.config.outputDir r').root ↔ r.label = r'.label) ∧
        (r.IsReadable → r'.IsReadable →
          (r.label = r'.label ↔ r.start = r'.start ∧ r.stop = r'.stop)) ∧
        (r.label ≠ r'.label → FileSystem.Apart (j.placeOf o r) (j.placeOf o r'))) ∧
    ∀ before range behind, j.config.versions = before ++ range :: behind →
      ∀ reports o', j.run.run o = (.ok reports, o') →
        ((∀ r ∈ before ++ behind, FileSystem.Apart (j.placeOf o r) (j.placeOf o range)) →
          ∃ report own, (j.runWindow range).run o = (.ok report, own) ∧
            reports[before.length]? = some report ∧
            o'.files.filesBelow (j.placeOf o range) =
              own.files.filesBelow (j.placeOf o range)) ∧
        ((∀ r ∈ behind, FileSystem.Apart (j.placeOf o r) (j.placeOf o range)) →
          ∃ commits, History.window j.history range.start range.stop = .ok commits ∧
            o'.files.readText (VersionLayout.below j.config.outputDir range).issueMapPath =
              .ok (IssueMap.ofCommits commits j.pattern).render) := by
  constructor
  · intro r r' h h'
    refine ⟨?_, VersionRange.label_inj h h', apart_of_label_ne h h'⟩
    exact Path.join_inj (VersionRange.isEntryName_label h) (VersionRange.isEntryName_label h')
  · intro before range behind hversions reports o' hrun
    constructor
    · intro hapart
      exact exists_runWindow_of_run horigin hversions hapart hrun
    · intro hapart
      exact readText_of_run horigin hversions hapart hrun

/-! ## Windows of a small history -/

namespace Sample

open History.Graph.Sample (idOf)

/-- Two commits on top of one, of which the first refers to an issue, with names for all three. -/
def tagged : History where
  graph :=
    { records :=
        [recordOf '3' ['2'] 3000 "", recordOf '2' ['1'] 2000 "fix #7", recordOf '1' [] 1000 ""] }
  references :=
    [("refs/tags/a", .commit (idOf '1')), ("refs/tags/b_c", .commit (idOf '2')),
      ("refs/tags/a_b", .commit (idOf '2')), ("refs/tags/c", .commit (idOf '3'))]

/-- The commit that refers to an issue. -/
def early : VersionRange := { start := "a", stop := "b_c" }

/-- The commit behind it. -/
def late : VersionRange := { start := "a_b", stop := "c" }

/-- The commit behind it, by another name. -/
def later : VersionRange := { start := "b_c", stop := "c" }

/-- The work on windows of these commits. -/
def jobOver (versions : List VersionRange) : Job :=
  { history := tagged, config := { outputDir := "out", versions, issueKeywords := ["fix"] }
    pattern := ⟨["fix".toList]⟩ }

/-- Windows with different labels. -/
def separate : Job := jobOver [early, later]

/-- Windows with one label. -/
def sharing : Job := jobOver [early, late]

def reportOf (range : VersionRange) (issues : Nat) : WindowReport :=
  { label := range.label, start := range.start, stop := range.stop, commits := 1, issues
    queriesWritten := issues, goldsetsWritten := 0, diagnostics := {} }

end Sample

/-- Two windows with different labels are left as if the other had not been gone through. -/
theorem run_separates_apart_of_sample :
    ∃ reports both report own,
      Sample.separate.run.run { files := {} } = (.ok reports, both) ∧
      (Sample.separate.runWindow Sample.early).run { files := {} } = (.ok report, own) ∧
      report.issues = 1 ∧
      both.files.filesBelow ["out", "a_b_c"] = own.files.filesBelow ["out", "a_b_c"] := by
  have hreports : (Sample.separate.run.run { files := {} }).1 =
      .ok [Sample.reportOf Sample.early 1, Sample.reportOf Sample.later 0] := by
    decide +kernel
  generalize hrun : Sample.separate.run.run { files := {} } = outcome at hreports
  obtain ⟨result, both⟩ := outcome
  obtain rfl : result = .ok _ := hreports
  obtain ⟨hlabels, hwindows⟩ := run_separates_apart Sample.separate { files := {} } rfl
  have hapart := (hlabels Sample.later Sample.early rfl rfl).2.2 (by decide +kernel)
  obtain ⟨report, own, hown, hreport, hfiles⟩ :=
    (hwindows [] Sample.early [Sample.later] rfl _ both hrun).1 (by simpa using hapart)
  obtain rfl : Sample.reportOf Sample.early 1 = report := by simpa using hreport
  have hplace : Sample.separate.placeOf { files := {} } Sample.early = ["out", "a_b_c"] := by
    decide +kernel
  rw [hplace] at hfiles
  exact ⟨_, both, _, own, rfl, hown, rfl, hfiles⟩

/-- Two windows without names, with different revisions, that have one directory: after a run the
file of the early window lies among those of the late one, which alone would not have written it. -/
theorem early_and_late_share_directory :
    Sample.sharing.config.fault? = none ∧ Sample.sharing.config.versions = [Sample.early, Sample.late] ∧
      Sample.early.name = none ∧ Sample.late.name = none ∧
      (Sample.early.start, Sample.early.stop) ≠ (Sample.late.start, Sample.late.stop) ∧
      (VersionLayout.below "out" Sample.early).root = (VersionLayout.below "out" Sample.late).root ∧
      ∃ reports both report alone,
        Sample.sharing.run.run { files := {} } = (.ok reports, both) ∧
        (Sample.sharing.runWindow Sample.late).run { files := {} } = (.ok report, alone) ∧
        ["queries", "7_description_0.txt"] ∈ both.files.namesBelow ["out", "a_b_c"] ∧
        ["queries", "7_description_0.txt"] ∉ alone.files.namesBelow ["out", "a_b_c"] := by
  let query := ["queries", "7_description_0.txt"]
  let map := ["data", "Issue_Commit_Map.txt"]
  have hboth : ((Sample.sharing.run.run { files := {} }).1,
      (Sample.sharing.run.run { files := {} }).2.files.namesBelow ["out", "a_b_c"]) =
      (.ok [Sample.reportOf Sample.early 1, Sample.reportOf Sample.late 0], [map, query]) := by
    decide +kernel
  have halone : (((Sample.sharing.runWindow Sample.late).run { files := {} }).1,
      ((Sample.sharing.runWindow Sample.late).run { files := {} }).2.files.namesBelow
        ["out", "a_b_c"]) = (.ok (Sample.reportOf Sample.late 0), [map]) := by
    decide +kernel
  generalize Sample.sharing.run.run { files := {} } = outcome at hboth ⊢
  generalize (Sample.sharing.runWindow Sample.late).run { files := {} } = outcome' at halone ⊢
  obtain ⟨result, both⟩ := outcome
  obtain ⟨result', alone⟩ := outcome'
  obtain ⟨hresult, hboth⟩ := Prod.mk.inj hboth
  obtain ⟨hresult', halone⟩ := Prod.mk.inj halone
  refine ⟨by decide +kernel, rfl, rfl, rfl, by decide +kernel, by decide +kernel, _, both, _, alone,
    Prod.ext hresult rfl, Prod.ext hresult' rfl, ?_, ?_⟩
  · rw [hboth]
    decide
  · rw [halone]
    decide

end Job

end IssueTrace
