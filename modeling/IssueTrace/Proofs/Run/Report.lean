import IssueTrace.Proofs.Attribution.Resolve
import IssueTrace.Proofs.History.Trees
import IssueTrace.Proofs.Run.Stages

/-!
# What a report tells

The numbers of a report are taken from the commits of the window, from the map of issues as it was
read back, and from what was written.  When there were no files below the place of the window, all of
them agree with one another and with the files that are there in the end.
-/

namespace IssueTrace

open Run (Gives)

namespace Job

open GoldsetStore (filesOfKind)

variable {j : Job} {o o' : Output} {range : VersionRange}

/-! ## Goldsets of issues without files -/

/-- Where an issue has no files yet, it gets one for each kind of names that there are. -/
theorem writeGoldset_of_new {store : GoldsetStore} {place : List String} {issue : String}
    {ids : List CommitId} {counts counts' : Diagnostics} {found : Bool}
    (hstands : store.Stands place o.files) (hissue : '/' ∉ issue.toList)
    (hclass : [issue ++ ".txt"] ∉ filesOfKind o.files place "class")
    (hmethod : [issue ++ ".txt"] ∉ filesOfKind o.files place "method")
    (h : Gives (j.writeGoldset store issue ids counts) o (found, counts') o') :
    found = !(j.entitiesOf ids).isEmpty ∧
      filesOfKind o'.files place "class" =
        (if (j.entitiesOf ids).classes.isEmpty then [] else [[issue ++ ".txt"]]) ++
          filesOfKind o.files place "class" ∧
      filesOfKind o'.files place "method" =
        (if (j.entitiesOf ids).methods.isEmpty then [] else [[issue ++ ".txt"]]) ++
          filesOfKind o.files place "method" := by
  obtain ⟨hfound, -, -, hfiles⟩ := writeGoldset_gives.mp h
  by_cases hempty : (j.entitiesOf ids).isEmpty = true
  · rw [if_pos hempty] at hfiles
    unfold Entities.isEmpty at hempty
    rw [Bool.and_eq_true] at hempty
    rw [hfiles, if_pos hempty.1, if_pos hempty.2]
    exact ⟨hfound, rfl, rfl⟩
  · rw [if_neg hempty] at hfiles
    obtain ⟨added, hpersist⟩ := hfiles
    exact ⟨hfound, GoldsetStore.persist_new hstands hissue hclass hmethod hpersist⟩

theorem mem_append_ite {names files : List (List String)} {empty : Bool} {own : List String}
    (h : names = (if empty then [] else [own]) ++ files) (name : List String) :
    name ∈ names ↔ name ∈ files ∨ name = own ∧ empty = false := by
  rw [h]
  cases empty with
  | true => simp
  | false => simp [or_comm]

/-- Where the issues have no files yet, each issue with entities is counted, and each gets its
files. -/
theorem writeGoldsets_of_new {store : GoldsetStore} {place : List String}
    {rest : List (String × List CommitId)} {written n : Nat} {counts counts' : Diagnostics}
    (hstands : store.Stands place o.files) (hissues : ∀ e ∈ rest, '/' ∉ e.1.toList)
    (hnodup : (rest.map Prod.fst).Nodup)
    (hclass : ∀ e ∈ rest, [e.1 ++ ".txt"] ∉ filesOfKind o.files place "class")
    (hmethod : ∀ e ∈ rest, [e.1 ++ ".txt"] ∉ filesOfKind o.files place "method")
    (h : Gives (j.writeGoldsets store rest written counts) o (n, counts') o') :
    n = written + rest.countP (fun e => !(j.entitiesOf e.2).isEmpty) ∧
      (∀ names, names ∈ filesOfKind o'.files place "class" ↔
        names ∈ filesOfKind o.files place "class" ∨
          ∃ e ∈ rest, names = [e.1 ++ ".txt"] ∧ (j.entitiesOf e.2).classes.isEmpty = false) ∧
      ∀ names, names ∈ filesOfKind o'.files place "method" ↔
        names ∈ filesOfKind o.files place "method" ∨
          ∃ e ∈ rest, names = [e.1 ++ ".txt"] ∧ (j.entitiesOf e.2).methods.isEmpty = false := by
  induction rest generalizing o written counts with
  | nil =>
      obtain ⟨rfl, -, rfl⟩ := writeGoldsets_nil_gives.mp h
      exact ⟨rfl, by simp, by simp⟩
  | cons e rest ih =>
      obtain ⟨issue, ids⟩ := e
      obtain ⟨found, between, o₁, hfirst, hrest⟩ := writeGoldsets_cons_gives.mp h
      have hissue := hissues _ List.mem_cons_self
      have hgrows := writeGoldset_grows hstands hissue hfirst
      obtain ⟨rfl, hclass₁, hmethod₁⟩ := writeGoldset_of_new hstands hissue
        (hclass _ List.mem_cons_self) (hmethod _ List.mem_cons_self) hfirst
      rw [List.map_cons, List.nodup_cons] at hnodup
      have hother : ∀ e ∈ rest, [e.1 ++ ".txt"] ≠ [issue ++ ".txt"] := by
        intro e he heq
        have hsame := (List.cons.inj heq).1
        rw [String.append_left_inj] at hsame
        have hown : e.1 ∈ rest.map Prod.fst := List.mem_map_of_mem he
        rw [hsame] at hown
        exact hnodup.1 hown
      have hnew : ∀ {names files : List (List String)} {empty : Bool},
          names = (if empty then [] else [[issue ++ ".txt"]]) ++ files →
          (∀ e ∈ rest, [e.1 ++ ".txt"] ∉ files) → ∀ e ∈ rest, [e.1 ++ ".txt"] ∉ names := by
        intro names files empty hnames hfiles e he hmem
        rcases (mem_append_ite hnames _).mp hmem with hmem | ⟨heq, -⟩
        · exact hfiles e he hmem
        · exact hother e he heq
      obtain ⟨hn, hclass₂, hmethod₂⟩ := ih (hstands.grows hgrows)
        (fun e he => hissues e (List.mem_cons_of_mem _ he)) hnodup.2
        (hnew hclass₁ fun e he => hclass e (List.mem_cons_of_mem _ he))
        (hnew hmethod₁ fun e he => hmethod e (List.mem_cons_of_mem _ he)) hrest
      refine ⟨?_, ?_, ?_⟩
      · rw [hn, List.countP_cons]
        dsimp only
        split
        · omega
        · omega
      · intro names
        rw [hclass₂, mem_append_ite hclass₁, List.exists_mem_cons_iff, or_assoc]
      · intro names
        rw [hmethod₂, mem_append_ite hmethod₁, List.exists_mem_cons_iff, or_assoc]

/-! ## The files of a window -/

namespace Stages

variable (s : Stages j range o o')

/-- The map stands in its file to the end. -/
theorem readText_map : o'.files.readText s.layout.issueMapPath = .ok s.map.render := by
  have hapart : ∀ dir, dir ≠ "data" →
      ¬ s.root ++ [dir] <+: s.root ++ ["data"] ++ ["Issue_Commit_Map.txt"] := by
    intro dir hdir hfront
    rw [List.append_assoc, List.prefix_append_right_inj] at hfront
    obtain ⟨rest, hrest⟩ := hfront
    exact hdir (List.cons.inj hrest).1
  obtain ⟨-, hadmits, hlinked⟩ := linkIssues_grows s.created_spec.2.dataDir s.link
  have hqueried := s.queried_grows.get?_file (hapart "queries" (by decide)) hlinked
  have hopened := s.opened_spec.1.get?_of_some hqueried
  have hrecorded := s.recorded_grows.get?_file (hapart "goldsets" (by decide)) hopened
  have hdata : o'.files.locate s.layout.dataDir =
      .ok (.existing (s.root ++ ["data"]) .directory) := by
    have hlinkedDir := s.linked_grows.locate s.created_spec.2.dataDir
    have hqueriedDir := s.queried_grows.locate hlinkedDir
    have hopenedDir := (FileSystem.GrowsBelow.of_onlyDirectories
      s.opened_spec.1 []).locate hqueriedDir
    exact s.recorded_grows.locate hopenedDir
  rw [s.map_eq]
  exact (FileSystem.leadsTo_join hdata (by decide) hadmits).readText_of_text hrecorded

section Empty

variable (hempty : o.files.filesBelow s.root = [])

include hempty

/-- No part of the work writes into the directory of another. -/
theorem filesBelow_queries : s.linked.files.filesBelow (s.root ++ ["queries"]) = [] := by
  rw [s.linked_grows.listing_of_ne (by decide), s.created_spec.1.listing]
  exact FileSystem.filesBelow_append_eq_nil hempty _

theorem filesBelow_goldsets : s.opened.files.filesBelow (s.root ++ ["goldsets"]) = [] := by
  rw [s.opened_spec.1.listing, s.queried_grows.listing_of_ne (by decide),
    s.linked_grows.listing_of_ne (by decide), s.created_spec.1.listing]
  exact FileSystem.filesBelow_append_eq_nil hempty _

omit hempty in
theorem exists_commit_of_mem_links :
    ∀ l ∈ Queries.links s.map, ∃ c, j.history.toRepository.commit l.2.2 = .ok c := by
  intro l hl
  obtain ⟨ids, he, hid⟩ := Queries.mem_links hl
  rw [s.map_eq] at he
  rw [show ids = _ from ids_of_mem_entries he] at hid
  obtain ⟨c, hc, hown⟩ := List.mem_map.mp hid
  rw [← hown]
  exact ⟨c, ((History.window_eq_ok s.walk).2 c (List.mem_filter.mp hc).1).2⟩

theorem queried_spec :
    s.queries.1 = s.map.linkCount ∧
      (s.queried.files.filesBelow (s.root ++ ["queries"])).length = s.map.linkCount := by
  obtain ⟨journal, hwrite, -, -⟩ := writeQueries_gives.mp s.query
  obtain ⟨fs₁, hmake, hlinks⟩ := Queries.write_eq_ok_iff.mp hwrite
  have hdir := s.linked_grows.locate s.created_spec.2.queryDir
  rw [files_warned, FileSystem.makeDirectories_of_directory hdir] at hmake
  obtain rfl : s.linked.files = fs₁ := (Prod.mk.inj hmake).2
  have hnone : s.linked.files.namesBelow (s.root ++ ["queries"]) = [] := by
    unfold FileSystem.namesBelow
    rw [s.filesBelow_queries hempty, List.map_nil]
  have hnew : ∀ l ∈ Queries.links s.map,
      [Queries.fileOf l] ∉ s.linked.files.namesBelow (s.root ++ ["queries"]) := by
    intro l _
    simp [hnone]
  obtain ⟨hcount, hlength⟩ := Queries.writeLinks_of_known (p := ⟨0, _, s.linked.files⟩) hdir
    (Queries.no_slash_of_mem_links s.no_slash_of_mem)
    s.exists_commit_of_mem_links (Queries.nodup_fileOf_links s.map) hnew hlinks
  rw [← Queries.length_links]
  constructor
  · simpa using hcount
  · rw [hnone, FileSystem.namesBelow, List.length_map, List.length_nil, Nat.zero_add] at hlength
    exact hlength

theorem queries_spec :
    s.queries.1 = s.map.linkCount ∧
      (o'.files.filesBelow (s.root ++ ["queries"])).length = s.map.linkCount := by
  rw [s.recorded_grows.listing_of_ne (by decide), s.opened_spec.1.listing]
  exact s.queried_spec hempty

/-- Each issue with entities is counted, and has a file for each kind of names that there are. -/
theorem goldsets_spec :
    s.goldsets.1 = s.map.entries.countP (fun e => !(j.entitiesOf e.2).isEmpty) ∧
      (∀ names, names ∈ filesOfKind o'.files (s.root ++ ["goldsets"]) "class" ↔
        ∃ e ∈ s.map.entries,
          names = [e.1 ++ ".txt"] ∧ (j.entitiesOf e.2).classes.isEmpty = false) ∧
      ∀ names, names ∈ filesOfKind o'.files (s.root ++ ["goldsets"]) "method" ↔
        ∃ e ∈ s.map.entries,
          names = [e.1 ++ ".txt"] ∧ (j.entitiesOf e.2).methods.isEmpty = false := by
  have hnone : ∀ kind, filesOfKind s.opened.files (s.root ++ ["goldsets"]) kind = [] := by
    intro kind
    unfold filesOfKind FileSystem.namesBelow
    rw [FileSystem.filesBelow_append_eq_nil (s.filesBelow_goldsets hempty), List.map_nil]
  have hwritten := writeGoldsets_of_new s.opened_spec.2
    s.no_slash_of_mem_entries s.map.nodup_keys (by simp [hnone]) (by simp [hnone])
    s.record
  simpa [hnone] using hwritten

end Empty

end Stages

/-! ## The report and the files -/

/-- A report agrees with the commits of a window, and with the files in the window's directories. -/
structure Agrees (j : Job) (layout : VersionLayout) (commits : List Commit)
    (report : WindowReport) (fs : FileSystem) : Prop where
  commits_eq : report.commits = commits.length
  issues_eq : report.issues = (j.references commits).toFinset.card
  map_lines : ∃ text, fs.readText layout.issueMapPath = .ok text ∧
    (Text.lines text.toList).length = report.issues
  queries_eq : report.queriesWritten =
    commits.countP fun c => (j.pattern.issueId? c.message).isSome
  query_files : (fs.filesBelow (fs.placeOf layout.queryDir)).length = report.queriesWritten
  goldsets_eq : report.goldsetsWritten =
    ((j.references commits).toFinset.filter fun issue =>
      (j.entitiesOf (j.referring commits issue)).isEmpty = false).card
  goldset_files : report.goldsetsWritten =
    (filesOfKind fs (fs.placeOf layout.goldsetDir) "class" ++
      filesOfKind fs (fs.placeOf layout.goldsetDir) "method").toFinset.card
  class_file_iff : ∀ issue,
    [issue ++ ".txt"] ∈ filesOfKind fs (fs.placeOf layout.goldsetDir) "class" ↔
      (j.entitiesOf (j.referring commits issue)).classes.isEmpty = false
  method_file_iff : ∀ issue,
    [issue ++ ".txt"] ∈ filesOfKind fs (fs.placeOf layout.goldsetDir) "method" ↔
      (j.entitiesOf (j.referring commits issue)).methods.isEmpty = false
  goldsets_le : report.goldsetsWritten ≤ report.issues
  issues_le : report.issues ≤ report.queriesWritten
  queries_le : report.queriesWritten ≤ report.commits

/-- An issue whose commits pass a test has an entry, if no commits do not pass it. -/
theorem exists_entry_iff {commits : List Commit} {issue : String} (test : Entities → Bool)
    (hnone : test {} = true) :
    (∃ e ∈ (IssueMap.ofCommits commits j.pattern).entries,
      [issue ++ ".txt"] = [e.1 ++ ".txt"] ∧ test (j.entitiesOf e.2) = false) ↔
      test (j.entitiesOf (j.referring commits issue)) = false := by
  constructor
  · rintro ⟨e, he, heq, htest⟩
    have hissue := (List.cons.inj heq).1
    rw [String.append_left_inj] at hissue
    rwa [hissue, ← ids_of_mem_entries he]
  · intro htest
    have hkey : issue ∈ (IssueMap.ofCommits commits j.pattern).entries.map Prod.fst := by
      by_contra hnot
      have hids := IssueMap.commits_of_not_mem hnot
      rw [IssueMap.commits_ofCommits] at hids
      rw [referring, hids] at htest
      exact absurd (hnone.symm.trans htest) (by decide)
    obtain ⟨e, he, rfl⟩ := List.mem_map.mp hkey
    refine ⟨e, he, rfl, ?_⟩
    rwa [ids_of_mem_entries he]

namespace Stages

variable (s : Stages j range o o')

theorem goldsets_eq (hempty : o.files.filesBelow s.root = []) :
    s.goldsets.1 = ((j.references s.commits).toFinset.filter fun issue =>
      (j.entitiesOf (j.referring s.commits issue)).isEmpty = false).card := by
  have hcount := (s.goldsets_spec hempty).1
  rw [s.map_eq] at hcount
  have hentries : (IssueMap.ofCommits s.commits j.pattern).entries.countP
      (fun e => !(j.entitiesOf e.2).isEmpty) =
      (IssueMap.ofCommits s.commits j.pattern).entries.countP
        fun e => !(j.entitiesOf (j.referring s.commits e.1)).isEmpty := by
    apply List.countP_congr
    intro e he
    rw [ids_of_mem_entries he]
  rw [hcount, hentries,
    IssueMap.countP_keys _ fun issue => !(j.entitiesOf (j.referring s.commits issue)).isEmpty,
    IssueMap.toFinset_keys_ofCommits]
  simp only [Bool.not_eq_true']
  rfl

theorem class_file_iff (hempty : o.files.filesBelow s.root = []) (issue : String) :
    [issue ++ ".txt"] ∈ filesOfKind o'.files (s.root ++ ["goldsets"]) "class" ↔
      (j.entitiesOf (j.referring s.commits issue)).classes.isEmpty = false := by
  rw [(s.goldsets_spec hempty).2.1, s.map_eq]
  exact exists_entry_iff (fun e => e.classes.isEmpty) rfl

theorem method_file_iff (hempty : o.files.filesBelow s.root = []) (issue : String) :
    [issue ++ ".txt"] ∈ filesOfKind o'.files (s.root ++ ["goldsets"]) "method" ↔
      (j.entitiesOf (j.referring s.commits issue)).methods.isEmpty = false := by
  rw [(s.goldsets_spec hempty).2.2, s.map_eq]
  exact exists_entry_iff (fun e => e.methods.isEmpty) rfl

/-- The files of goldsets have as many names as there are issues with entities. -/
theorem goldset_files (hempty : o.files.filesBelow s.root = []) :
    (filesOfKind o'.files (s.root ++ ["goldsets"]) "class" ++
      filesOfKind o'.files (s.root ++ ["goldsets"]) "method").toFinset.card = s.goldsets.1 := by
  obtain ⟨-, hclass, hmethod⟩ := s.goldsets_spec hempty
  have hfiles : (filesOfKind o'.files (s.root ++ ["goldsets"]) "class" ++
      filesOfKind o'.files (s.root ++ ["goldsets"]) "method").toFinset =
      ((j.references s.commits).toFinset.filter fun issue =>
        (j.entitiesOf (j.referring s.commits issue)).isEmpty = false).image
          fun issue => [issue ++ ".txt"] := by
    ext names
    rw [List.mem_toFinset, List.mem_append, Finset.mem_image]
    constructor
    · intro hmem
      have hentry : ∃ e ∈ s.map.entries,
          names = [e.1 ++ ".txt"] ∧ (j.entitiesOf e.2).isEmpty = false := by
        unfold Entities.isEmpty
        rcases hmem with hmem | hmem
        · obtain ⟨e, he, hnames, hfound⟩ := (hclass names).mp hmem
          exact ⟨e, he, hnames, by rw [hfound, Bool.false_and]⟩
        · obtain ⟨e, he, hnames, hfound⟩ := (hmethod names).mp hmem
          exact ⟨e, he, hnames, by rw [hfound, Bool.and_false]⟩
      obtain ⟨e, he, hnames, hfound⟩ := hentry
      rw [s.map_eq] at he
      refine ⟨e.1, Finset.mem_filter.mpr ⟨?_, ?_⟩, hnames.symm⟩
      · rw [List.mem_toFinset]
        exact IssueMap.mem_keys_ofCommits.mp (List.mem_map_of_mem he)
      · rwa [← ids_of_mem_entries he]
    · rintro ⟨issue, hissue, rfl⟩
      have hfound := (Finset.mem_filter.mp hissue).2
      unfold Entities.isEmpty at hfound
      rcases Bool.and_eq_false_iff.mp hfound with hfound | hfound
      · exact .inl ((s.class_file_iff hempty issue).mpr hfound)
      · exact .inr ((s.method_file_iff hempty issue).mpr hfound)
  have hinj : Function.Injective fun issue : String => [issue ++ ".txt"] := by
    intro issue issue' heq
    simpa using heq
  rw [hfiles, Finset.card_image_of_injective _ hinj, s.goldsets_eq hempty]

end Stages

/-! ## Agreement -/

/-- Whenever the work on a window gives a report, and there were no files below the place of the
window, the report agrees with the commits of the window and with the files that were written. -/
theorem runWindow_report_agrees {report : WindowReport}
    (hempty : o.files.filesBelow
      (o.files.placeOf (VersionLayout.below j.config.outputDir range).root) = [])
    (h : (j.runWindow range).run o = (.ok report, o')) :
    ∃ commits, History.window j.history range.start range.stop = .ok commits ∧
      (commits.map Commit.id).Nodup ∧
      j.Agrees (VersionLayout.below j.config.outputDir range) commits report o'.files := by
  obtain ⟨s, rfl⟩ := runWindow_gives.mp h
  have hissues : s.map.size = (j.references s.commits).toFinset.card := by
    rw [s.map_eq]
    exact IssueMap.size_ofCommits
  have hlinks : s.map.linkCount =
      s.commits.countP fun c => (j.pattern.issueId? c.message).isSome := by
    rw [s.map_eq]
    exact IssueMap.linkCount_ofCommits
  have hlines : (Text.lines s.map.render.toList).length = s.map.size := by
    have hwritten : s.map.CanBeWritten := by
      rw [s.map_eq]
      exact IssueMap.canBeWritten_ofCommits j.pattern s.isFull_of_mem
    unfold IssueMap.render
    rw [IssueMap.lines_render hwritten, List.length_map]
    rfl
  obtain ⟨hqueries, hqueryFiles⟩ := s.queries_spec hempty
  have hwork := s.grows.workDir_eq
  have hqueryPlace : o'.files.placeOf s.layout.queryDir = s.root ++ ["queries"] := by
    rw [FileSystem.placeOf_congr hwork, VersionLayout.placeOf_queryDir]
  have hgoldsetPlace : o'.files.placeOf s.layout.goldsetDir = s.root ++ ["goldsets"] := by
    rw [FileSystem.placeOf_congr hwork, VersionLayout.placeOf_goldsetDir]
  have hreferences : (j.references s.commits).length = s.map.linkCount := by
    rw [hlinks, references, List.length_filterMap_eq_countP]
  have hgoldsets := s.goldsets_eq hempty
  refine ⟨s.commits, s.walk, (History.window_eq_ok s.walk).1, ?_⟩
  constructor
  case commits_eq => rfl
  case issues_eq => exact hissues
  case map_lines => exact ⟨_, s.readText_map, hlines⟩
  case queries_eq => exact hqueries.trans hlinks
  case query_files =>
    rw [hqueryPlace, hqueryFiles]
    exact hqueries.symm
  case goldsets_eq => exact hgoldsets
  case goldset_files =>
    rw [hgoldsetPlace]
    exact (s.goldset_files hempty).symm
  case class_file_iff =>
    intro issue
    rw [hgoldsetPlace]
    exact s.class_file_iff hempty issue
  case method_file_iff =>
    intro issue
    rw [hgoldsetPlace]
    exact s.method_file_iff hempty issue
  case goldsets_le =>
    calc s.goldsets.1 ≤ (j.references s.commits).toFinset.card := by
          rw [hgoldsets]
          exact Finset.card_filter_le _ _
      _ = s.map.size := hissues.symm
  case issues_le =>
    calc s.map.size = (j.references s.commits).toFinset.card := hissues
      _ ≤ (j.references s.commits).length := List.toFinset_card_le _
      _ = s.queries.1 := hreferences.trans hqueries.symm
  case queries_le =>
    calc s.queries.1 = _ := hqueries.trans hlinks
      _ ≤ s.commits.length := List.countP_le_length

/-! ## A small history -/

namespace Sample

open History.Graph.Sample (idOf)
open IssueTrace.Sample (text)

def recordOf (digit : Char) (parents : List Char) (time : Int) (message : String)
    (snapshot : History.Snapshot := ⟨[]⟩) : History.Record :=
  ⟨idOf digit, parents.map idOf, time, Text.encode message, snapshot⟩

/-- A package with one file. -/
def package (text : String) : History.Snapshot :=
  History.Snapshot.ofFiles [("pkg/__init__.py", text)]

/-- Four commits on top of one. The first of them gives a class its method. Three refer to an
issue, two of them to the same. -/
def history : History where
  graph :=
    { records :=
        [recordOf '5' ['4'] 5000 "fix #8" (package text), recordOf '4' ['3'] 4000 "" (package text),
          recordOf '3' ['2'] 3000 "fix #7" (package text),
          recordOf '2' ['1'] 2000 "fix #7" (package text),
          recordOf '1' [] 1000 "" (package "class A:\n    f = None\ndef g(): pass\n")] }
  references :=
    [("refs/heads/main", .commit (idOf '5')), ("refs/tags/first", .commit (idOf '1'))]

/-- The work on these commits, with a parser that knows the text only. -/
def job : Job where
  history := history
  config := { issueKeywords := ["fix"], resolver := { contextLines := 0 } }
  pattern := ⟨["fix".toList]⟩
  parser := IssueTrace.Sample.parser

def firstToMain : VersionRange := { start := "first", stop := "main" }

def report : WindowReport :=
  { label := "first_main", start := "first", stop := "main", commits := 4, issues := 2
    queriesWritten := 3, goldsetsWritten := 1, diagnostics := { filesResolved := 1 } }

end Sample

/-- The report on four commits, three links to two issues, and one issue with a goldset: its class
and its method are in the files. -/
theorem runWindow_report_agrees_of_sample :
    ∃ report o', (Sample.job.runWindow Sample.firstToMain).run { files := {} } = (.ok report, o') ∧
      (report.commits, report.queriesWritten, report.issues, report.goldsetsWritten) =
        (4, 3, 2, 1) ∧
      o'.files.readText "goldsets/first_main/goldsets/class/7.txt" = .ok "pkg.__init__.A\n" ∧
      o'.files.readText "goldsets/first_main/goldsets/method/7.txt" = .ok "pkg.__init__.A.f\n" ∧
      ∃ commits, Sample.job.Agrees (VersionLayout.below "goldsets" Sample.firstToMain) commits report
        o'.files := by
  have houtcome : (((Sample.job.runWindow Sample.firstToMain).run { files := {} }).1,
      ["class", "method"].map fun kind =>
        ((Sample.job.runWindow Sample.firstToMain).run { files := {} }).2.files.readText
          ("goldsets/first_main/goldsets/" ++ kind ++ "/7.txt")) =
      (.ok Sample.report, [.ok "pkg.__init__.A\n", .ok "pkg.__init__.A.f\n"]) := by
    decide +kernel
  generalize hrun : (Sample.job.runWindow Sample.firstToMain).run { files := {} } = outcome
    at houtcome
  obtain ⟨result, o'⟩ := outcome
  obtain ⟨rfl, hfiles⟩ := Prod.mk.inj houtcome
  obtain ⟨hclass, hmethod⟩ := List.cons.inj hfiles
  obtain ⟨commits, -, -, hagrees⟩ := runWindow_report_agrees rfl hrun
  exact ⟨Sample.report, o', rfl, rfl, hclass, (List.cons.inj hmethod).1, commits, hagrees⟩

end Job

end IssueTrace
