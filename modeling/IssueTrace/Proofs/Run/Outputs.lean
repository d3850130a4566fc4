import IssueTrace.Proofs.Run.Separation
import IssueTrace.Proofs.Run.Writes

/-!
# The files of a window

Revisions and messages can be any texts, but the directory of a window is one name in the output
directory, and the number of an issue has digits only.  So the map of issues, the query files and the
goldset files of a window lie strictly below its directory, whatever is there; no two of them are one
file, and no other file is written.
-/

namespace IssueTrace

/-! ## Paths that go on below a directory -/

namespace Path

variable {dir path name : String} {rest : List String}

/-- The path goes on from a directory by the names of entries, one or more. -/
structure GoesOn (dir path : String) (rest : List String) : Prop where
  ne_nil : rest ≠ []
  entries : ∀ name ∈ rest, IsEntryName name
  names_eq : names path = names dir ++ rest
  isAbsolute_eq : isAbsolute path = isAbsolute dir

theorem goesOn_join (hdir : dir ≠ "") (hname : IsEntryName name) :
    GoesOn dir (join dir name) [name] where
  ne_nil := by simp
  entries := by simpa using hname
  names_eq := names_join hdir hname
  isAbsolute_eq := join_isAbsolute hdir hname

namespace GoesOn

theorem ne_empty (h : GoesOn dir path rest) : path ≠ "" := by
  rintro rfl
  have hnames : names dir ++ rest = [] := by
    rw [← h.names_eq]
    rfl
  exact h.ne_nil (List.append_eq_nil_iff.mp hnames).2

theorem join (h : GoesOn dir path rest) (hname : IsEntryName name) :
    GoesOn dir (join path name) (rest ++ [name]) where
  ne_nil := by simp
  entries other hother := by
    rcases List.mem_append.mp hother with hrest | hlast
    · exact h.entries other hrest
    · rwa [List.mem_singleton.mp hlast]
  names_eq := by rw [names_join h.ne_empty hname, h.names_eq, List.append_assoc]
  isAbsolute_eq := by rw [join_isAbsolute h.ne_empty hname, h.isAbsolute_eq]

theorem foldl_stepFrom (hrest : ∀ name ∈ rest, IsEntryName name) (place : List String) :
    rest.foldl FileSystem.stepFrom place = place ++ rest := by
  induction rest generalizing place with
  | nil => simp
  | cons name rest ih =>
      rw [List.foldl_cons, FileSystem.stepFrom_of_isEntryName (hrest name List.mem_cons_self),
        ih fun other hother => hrest other (List.mem_cons_of_mem name hother), List.append_assoc,
        List.singleton_append]

theorem placeOf (h : GoesOn dir path rest) (fs : FileSystem) :
    fs.placeOf path = fs.placeOf dir ++ rest := by
  rw [FileSystem.placeOf, FileSystem.placeOf, h.names_eq, h.isAbsolute_eq, List.foldl_append]
  exact foldl_stepFrom h.entries _

end GoesOn

end Path

/-! ## The files -/

/-- A file of a window: the map of its issues, or a file of an issue. -/
inductive OutputFile where
  | issueMap
  | query (issue : String) (position : Nat)
  | classes (issue : String)
  | methods (issue : String)
  deriving DecidableEq, Repr

namespace OutputFile

variable {f f' : OutputFile} {pattern : IssuePattern} {outputDir : String} {range : VersionRange}

def issue? : OutputFile → Option String
  | .issueMap => none
  | .query issue _ => some issue
  | .classes issue => some issue
  | .methods issue => some issue

/-- The path at which the file is written. -/
def path (l : VersionLayout) : OutputFile → String
  | .issueMap => l.issueMapPath
  | .query issue position => Path.join l.queryDir (Queries.fileName issue position)
  | .classes issue => (GoldsetStore.below l.goldsetDir).classPath issue
  | .methods issue => (GoldsetStore.below l.goldsetDir).methodPath issue

/-- The names that lead to the file from the directory of the window. -/
def rest : OutputFile → List String
  | .issueMap => ["data", "Issue_Commit_Map.txt"]
  | .query issue position => ["queries", Queries.fileName issue position]
  | .classes issue => ["goldsets", "class", issue ++ ".txt"]
  | .methods issue => ["goldsets", "method", issue ++ ".txt"]

/-- The issue of the file, if it is that of one, is one to which a message refers. -/
def Refers (pattern : IssuePattern) (f : OutputFile) : Prop :=
  ∀ issue, f.issue? = some issue → ∃ message, pattern.issueId? message = some issue

theorem rest_inj : f.rest = f'.rest ↔ f = f' := by
  cases f <;> cases f' <;> simp [rest, Queries.fileName_inj]

theorem Refers.no_slash {issue : String} (h : f.Refers pattern) (hissue : f.issue? = some issue) :
    '/' ∉ issue.toList := by
  obtain ⟨message, hmessage⟩ := h issue hissue
  exact (IssuePattern.isNumber_of_issueId? hmessage).not_mem (by decide)

theorem goesOn (hname : range.name = none) (hf : f.Refers pattern) :
    Path.GoesOn (VersionLayout.below outputDir range).root
      (f.path (VersionLayout.below outputDir range)) f.rest := by
  have hroot : (VersionLayout.below outputDir range).root ≠ "" :=
    Path.join_entry_ne_empty (VersionRange.isEntryName_label hname)
  have hgoldsets : Path.GoesOn (VersionLayout.below outputDir range).root
      (VersionLayout.below outputDir range).goldsetDir ["goldsets"] :=
    Path.goesOn_join hroot (by decide)
  cases f with
  | issueMap =>
      have hdata : Path.GoesOn (VersionLayout.below outputDir range).root
          (VersionLayout.below outputDir range).dataDir ["data"] :=
        Path.goesOn_join hroot (by decide)
      exact hdata.join (by decide : Path.IsEntryName "Issue_Commit_Map.txt")
  | query issue position =>
      have hqueries : Path.GoesOn (VersionLayout.below outputDir range).root
          (VersionLayout.below outputDir range).queryDir ["queries"] :=
        Path.goesOn_join hroot (by decide)
      exact hqueries.join (Queries.isEntryName_fileName (hf.no_slash rfl))
  | classes issue =>
      have hclass := hgoldsets.join (by decide : Path.IsEntryName "class")
      unfold path GoldsetStore.classPath GoldsetStore.below
      exact hclass.join (GoldsetStore.isEntryName_file (hf.no_slash rfl))
  | methods issue =>
      have hmethod := hgoldsets.join (by decide : Path.IsEntryName "method")
      unfold path GoldsetStore.methodPath GoldsetStore.below
      exact hmethod.join (GoldsetStore.isEntryName_file (hf.no_slash rfl))

theorem path_ne (hname : range.name = none) (hf : f.Refers pattern) (hf' : f'.Refers pattern)
    (hne : f ≠ f') :
    f.path (VersionLayout.below outputDir range) ≠ f'.path (VersionLayout.below outputDir range) ∧
      ∀ fs : FileSystem, fs.placeOf (f.path (VersionLayout.below outputDir range)) ≠
        fs.placeOf (f'.path (VersionLayout.below outputDir range)) := by
  have hplaces : ∀ fs : FileSystem, fs.placeOf (f.path (VersionLayout.below outputDir range)) ≠
      fs.placeOf (f'.path (VersionLayout.below outputDir range)) := by
    intro fs heq
    rw [(goesOn hname hf).placeOf, (goesOn hname hf').placeOf, List.append_cancel_left_eq] at heq
    exact hne (rest_inj.mp heq)
  exact ⟨fun heq => hplaces {} (by rw [heq]), hplaces⟩

end OutputFile

namespace Job

open Run (Writes)

variable {j : Job} {range : VersionRange}

/-- The directories of a window of a run. -/
abbrev layout (j : Job) (range : VersionRange) : VersionLayout :=
  VersionLayout.below j.config.outputDir range

/-- The paths of the files of a window. -/
def OutputPath (j : Job) (range : VersionRange) (path : String) : Prop :=
  ∃ f : OutputFile, f.Refers j.pattern ∧
    path = f.path (j.layout range)

theorem outputPath_issueMap :
    j.OutputPath range (j.layout range).issueMapPath :=
  ⟨.issueMap, fun _ h => (by cases h), rfl⟩

theorem outputPath_of_mem_keys {commits : List Commit} {f : OutputFile} {issue : String}
    (hf : f.issue? = some issue)
    (h : issue ∈ (IssueMap.ofCommits commits j.pattern).entries.map Prod.fst) :
    j.OutputPath range (f.path (j.layout range)) := by
  rw [IssueMap.mem_keys_ofCommits, List.mem_filterMap] at h
  obtain ⟨c, -, hrefers⟩ := h
  refine ⟨f, ?_, rfl⟩
  intro own hown
  rw [hf, Option.some.injEq] at hown
  exact ⟨c.message, hown ▸ hrefers⟩

theorem runWindow_writes : Writes (j.OutputPath range) (j.runWindow range) := by
  have hjoin : ∀ (map : IssueMap) (rest : Unit → Run WindowReport),
      Writes (j.OutputPath range) (rest ()) →
      Writes (j.OutputPath range) (if map.isEmpty = true then do
          let u ← Run.warn ["[" ++ range.label ++ "] No commit references an issue"]
          rest u
        else rest ()) := by
    intro map rest hrest
    by_cases hempty : map.isEmpty = true
    · rw [if_pos hempty]
      exact (Run.writes_warn _).bind fun _ _ _ _ => hrest
    · rw [if_neg hempty]
      exact hrest
  rw [runWindow]
  apply (Run.writes_onFiles fun fs => VersionLayout.create_writesOnly _ fs).bind
  intro _ _ _ _
  apply (Run.writes_take _).bind
  intro commits _ _ hcommits
  apply (linkIssues_writes outputPath_issueMap _).bind
  intro map _ _ hlink
  obtain ⟨hwalk, -⟩ := Run.gives_take.mp hcommits
  obtain rfl := map_of_linkIssues (History.isFull_of_window hwalk) hlink
  apply hjoin (IssueMap.ofCommits commits j.pattern)
  apply (writeQueries_writes ?_).bind
  · rintro ⟨queriesWritten, counts⟩ _ _ _
    apply (Run.writes_onFiles fun fs => GoldsetStore.openAt_writesOnly fs _).bind
    intro store _ _ hstore
    obtain ⟨rfl, -⟩ := GoldsetStore.openAt_eq_ok_iff.mp (Run.gives_onFiles.mp hstore).1
    apply (writeGoldsets_writes ?_ 0 counts).bind
    · intro _ _ _ _
      exact Run.writes_pure _
    · intro e he
      constructor
      · exact outputPath_of_mem_keys (f := .classes e.1) rfl (List.mem_map_of_mem he)
      · exact outputPath_of_mem_keys (f := .methods e.1) rfl (List.mem_map_of_mem he)
  · intro link hlink
    obtain ⟨ids, he, -⟩ := Queries.mem_links hlink
    exact outputPath_of_mem_keys (f := .query link.1 link.2.1) rfl (List.mem_map_of_mem he)

/-- The directory of a window without a name is one name in the output directory, whatever its
revisions are.  The files of the window, with any issues to which messages refer, lie strictly below
it, and different files have different paths and places, whatever is there.  Whether the work on the
window ends well or not, every place at which something changes is that of such a file or of a
directory that was made. -/
theorem outputs_apart (j : Job) {range : VersionRange} (hname : range.name = none) :
    (j.layout range).root = Path.join j.config.outputDir range.label ∧
      Path.IsEntryName range.label ∧
      (∀ f : OutputFile, f.Refers j.pattern →
        Path.GoesOn (j.layout range).root (f.path (j.layout range)) f.rest ∧
          ∀ fs : FileSystem,
            fs.placeOf (f.path (j.layout range)) = fs.placeOf (j.layout range).root ++ f.rest) ∧
      (∀ f f' : OutputFile, f.Refers j.pattern → f'.Refers j.pattern → f ≠ f' →
        f.path (j.layout range) ≠ f'.path (j.layout range) ∧
          ∀ fs : FileSystem,
            fs.placeOf (f.path (j.layout range)) ≠ fs.placeOf (f'.path (j.layout range))) ∧
      ∀ o result o', (j.runWindow range).run o = (result, o') →
        ∀ place, o'.files.get? place ≠ o.files.get? place →
          (o.files.get? place = none ∧ o'.files.get? place = some .directory) ∨
          ∃ f : OutputFile, f.Refers j.pattern ∧
            place = o.files.placeOf (f.path (j.layout range)) := by
  refine ⟨rfl, VersionRange.isEntryName_label hname, ?_, ?_, ?_⟩
  · intro f hf
    have hbelow : Path.GoesOn (j.layout range).root (f.path (j.layout range)) f.rest :=
      OutputFile.goesOn hname hf
    exact ⟨hbelow, hbelow.placeOf⟩
  · intro f f' hf hf' hne
    exact OutputFile.path_ne hname hf hf' hne
  · intro o result o' hrun place hchanged
    have hwrites : FileSystem.WritesOnly (j.OutputPath range) o.files _ := runWindow_writes o
    rw [hrun] at hwrites
    by_contra hnot
    rw [not_or, not_exists] at hnot
    have hstays := hwrites.elsewhere place (by
      rintro _ ⟨f, hf, rfl⟩ hplace
      exact hnot.2 f ⟨hf, hplace⟩)
    exact hnot.1 (hstays.resolve_left hchanged)

/-- A window whose revisions look like ways out of the output directory. -/
def Sample.outside : VersionRange := { start := "../..", stop := "/etc" }

/-- The files of that window stay in the output directory, and a query file that is written for
another window is one of the files of that. -/
theorem outputs_apart_of_sample :
    (Sample.separate.layout Sample.outside).root = "out/..-.._-etc" ∧
      Path.GoesOn "out/..-.._-etc" "out/..-.._-etc/goldsets/class/7.txt"
        ["goldsets", "class", "7.txt"] ∧
      OutputFile.path (Sample.separate.layout Sample.outside) (.classes "7") ≠
        OutputFile.path (Sample.separate.layout Sample.outside) (.methods "7") ∧
      ∃ f : OutputFile, f.Refers Sample.separate.pattern ∧
        ["out", "a_b_c", "queries", "7_description_0.txt"] =
          ({} : FileSystem).placeOf (f.path (Sample.separate.layout Sample.early)) := by
  obtain ⟨hroot, -, hbelow, hapart, -⟩ :=
    outputs_apart Sample.separate (rfl : Sample.outside.name = none)
  obtain ⟨-, -, -, -, hwrites⟩ := outputs_apart Sample.separate (rfl : Sample.early.name = none)
  have hrefers : ∀ f : OutputFile, f.issue? = some "7" → f.Refers Sample.separate.pattern := by
    intro f hf issue hissue
    obtain rfl : "7" = issue := Option.some.inj (hf.symm.trans hissue)
    exact ⟨"fix #7", by decide +kernel⟩
  have hname : Path.join "out" Sample.outside.label = "out/..-.._-etc" := by decide +kernel
  have hclasses := (hbelow (.classes "7") (hrefers _ rfl)).1
  have hpath : OutputFile.path (Sample.separate.layout Sample.outside) (.classes "7") =
      "out/..-.._-etc/goldsets/class/7.txt" := by decide +kernel
  rw [hpath] at hclasses
  rw [hroot] at hclasses ⊢
  have hquery : ((Sample.separate.runWindow Sample.early).run { files := {} }).2.files.get?
      ["out", "a_b_c", "queries", "7_description_0.txt"] ≠ some .directory ∧
      ((Sample.separate.runWindow Sample.early).run { files := {} }).2.files.get?
        ["out", "a_b_c", "queries", "7_description_0.txt"] ≠ none := by decide +kernel
  generalize hrun : (Sample.separate.runWindow Sample.early).run { files := {} } = outcome at hquery
  obtain ⟨result, o'⟩ := outcome
  have hwritten := hwrites { files := {} } result o' hrun _ hquery.2
  refine ⟨hname, hname ▸ hclasses, ?_, hwritten.resolve_left fun h => hquery.1 h.2⟩
  exact (hapart (.classes "7") (.methods "7") (hrefers _ rfl) (hrefers _ rfl) (by simp)).1

end Job

end IssueTrace
