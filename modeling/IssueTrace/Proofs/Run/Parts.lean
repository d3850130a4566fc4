import IssueTrace.Proofs.Goldset.Aggregation
import IssueTrace.Proofs.Goldset.NewFiles
import IssueTrace.Proofs.Issue.MapFile
import IssueTrace.Proofs.Run.Steps
import IssueTrace.Proofs.Storage.QueryFiles

/-!
# The parts of the work on a window

When the work on a window gives a report, each of its parts has given a result: the directories were
made, the history was walked, the map of issues was written and read back, and the queries and
goldsets were written.
-/

namespace IssueTrace

open Run (Gives)

namespace GoldsetStore

variable {fs fs' : FileSystem} {root : String} {store : GoldsetStore}

/-- A store is opened by making its two directories. -/
theorem openAt_eq_ok_iff :
    openAt fs root = (.ok store, fs') ↔
      store = below root ∧ ∃ fs₁, fs.makeDirectories (below root).classDir = (.ok (), fs₁) ∧
        fs₁.makeDirectories (below root).methodDir = (.ok (), fs') := by
  unfold openAt
  dsimp only
  cases fs.makeDirectories (below root).classDir with
  | mk result fs₁ =>
      cases result with
      | error fault => simp
      | ok _ =>
          cases hmethod : fs₁.makeDirectories (below root).methodDir with
          | mk result fs₂ =>
              cases result with
              | error fault => simp [hmethod]
              | ok _ => simp [hmethod, eq_comm]

/-- A store that could be opened has its directories below its place, and no files were made. -/
theorem openAt_spec (h : openAt fs root = (.ok store, fs')) :
    store = below root ∧ FileSystem.OnlyDirectories fs fs' ∧
      store.Stands (fs.placeOf root) fs' := by
  obtain ⟨rfl, fs₁, hclass, hmethod⟩ := openAt_eq_ok_iff.mp h
  have hentry : Path.IsEntryName "class" := by decide
  have hentry' : Path.IsEntryName "method" := by decide
  obtain ⟨honly₁, hclassDir⟩ := FileSystem.makeDirectories_eq_ok
    (Path.join_entry_ne_empty hentry) hclass
  obtain ⟨honly₂, hmethodDir⟩ := FileSystem.makeDirectories_eq_ok
    (Path.join_entry_ne_empty hentry') hmethod
  rw [FileSystem.placeOf_join _ _ hentry] at hclassDir
  rw [FileSystem.placeOf_join _ _ hentry', FileSystem.placeOf_congr honly₁.workDir_eq] at hmethodDir
  refine ⟨rfl, honly₁.trans honly₂, ?_, hmethodDir⟩
  exact (FileSystem.GrowsBelow.of_onlyDirectories honly₂ []).locate hclassDir

end GoldsetStore

namespace Job

variable {j : Job} {o o' : Output}

/-- The entities that the commits of an issue touch. -/
def entitiesOf (j : Job) (ids : List CommitId) : Entities :=
  (aggregateBy j.parser j.history.toRepository j.config.resolver ids {}).1

theorem entities_aggregateBy (j : Job) (ids : List CommitId) (journal : Journal) :
    (aggregateBy j.parser j.history.toRepository j.config.resolver ids journal).1 =
      j.entitiesOf ids := by
  rw [entitiesOf, aggregateBy_fst, aggregateBy_fst]

/-! ## Linking issues -/

theorem load_of_write {fs fs' : FileSystem} {path : String} {map : IssueMap}
    (h : fs.write path map.render = .ok fs') :
    IssueMap.load fs' path = .ok (IssueMap.read map.render) := by
  unfold IssueMap.load
  rw [FileSystem.readText_of_write h]
  rfl

/-- Linking issues writes the map, and what is used is what that text says. -/
theorem linkIssues_gives {path : String} {map m : IssueMap} :
    Gives (linkIssues path map) o m o' ↔
      o.files.write path map.render = .ok o'.files ∧ m = (IssueMap.read map.render).1 ∧
        o'.log = o.log ++
          (IssueMap.read map.render).2.map fun text => ⟨.warning, text⟩ := by
  unfold linkIssues
  simp only [Run.gives_bind, Run.gives_writing, Run.gives_onFiles, Run.gives_warn, Run.gives_pure]
  constructor
  · rintro ⟨_, o₁, ⟨hsave, hlog₁⟩, ⟨own, warnings⟩, o₂, ⟨hload, hlog₂⟩, _, _, rfl, rfl, rfl⟩
    rw [load_of_write hsave] at hload
    simp only [Prod.mk.injEq, Except.ok.injEq] at hload
    obtain ⟨hread, hfiles⟩ := hload
    rw [hread, ← hlog₁, ← hlog₂]
    refine ⟨?_, rfl, rfl⟩
    rw [← hfiles]
    exact hsave
  · rintro ⟨hwrite, rfl, hlog⟩
    refine ⟨(), ⟨o'.files, o.log⟩, ⟨hwrite, rfl⟩, IssueMap.read map.render, ⟨o'.files, o.log⟩,
      ⟨?_, rfl⟩, (), _, rfl, rfl, ?_⟩
    · rw [load_of_write hwrite]
    · rw [← hlog]

/-! ## Writing queries -/

theorem writeQueries_gives {dir : String} {map : IssueMap} {n : Nat} {counts : Diagnostics} :
    Gives (j.writeQueries dir map) o (n, counts) o' ↔
      ∃ journal, Queries.write j.history.toRepository map dir ⟨{}, o.log⟩ o.files =
          (.ok n, journal, o'.files) ∧ o'.log = journal.log ∧ counts = journal.counts := by
  unfold writeQueries
  simp only [Run.gives_bind, Run.gives_get, Run.gives_set, Run.gives_take, Run.gives_pure,
    Run.mapError_eq_ok]
  cases hwrite : Queries.write j.history.toRepository map dir ⟨{}, o.log⟩ o.files with
  | mk result rest =>
      obtain ⟨journal, files⟩ := rest
      constructor
      · rintro ⟨_, _, ⟨rfl, rfl⟩, h⟩
        simp only [hwrite] at h
        obtain ⟨_, _, rfl, written, _, ⟨rfl, rfl⟩, heq, rfl⟩ := h
        obtain ⟨rfl, rfl⟩ := Prod.mk.inj heq
        exact ⟨journal, rfl, rfl, rfl⟩
      · rintro ⟨_, heq, hlog, rfl⟩
        simp only [Prod.mk.injEq] at heq
        obtain ⟨rfl, rfl, rfl⟩ := heq
        refine ⟨o, o, ⟨rfl, rfl⟩, ?_⟩
        simp only [hwrite]
        refine ⟨⟨⟩, _, rfl, n, _, ⟨rfl, rfl⟩, rfl, ?_⟩
        rw [← hlog]

/-! ## Writing goldsets -/

/-- What writing the goldset of an issue does: its entities are persisted unless there are none. -/
theorem writeGoldset_gives {store : GoldsetStore} {issue : String} {ids : List CommitId}
    {counts counts' : Diagnostics} {found : Bool} :
    Gives (j.writeGoldset store issue ids counts) o (found, counts') o' ↔
      let journal :=
        (aggregateBy j.parser j.history.toRepository j.config.resolver ids ⟨counts, o.log⟩).2
      found = !(j.entitiesOf ids).isEmpty ∧ counts' = journal.counts ∧ o'.log = journal.log ∧
        if (j.entitiesOf ids).isEmpty then o'.files = o.files
        else ∃ added, store.persist o.files issue (j.entitiesOf ids) = (.ok added, o'.files) := by
  unfold writeGoldset
  simp only [Run.gives_bind, Run.gives_withJournal, entities_aggregateBy]
  by_cases hempty : (j.entitiesOf ids).isEmpty = true
  · constructor
    · rintro ⟨_, _, ⟨rfl, rfl⟩, h⟩
      simp only [hempty, if_true, Run.gives_pure, Prod.mk.injEq] at h
      obtain ⟨⟨rfl, rfl⟩, rfl⟩ := h
      simp [hempty]
    · rintro ⟨rfl, rfl, hlog, hfiles⟩
      refine ⟨_, _, ⟨rfl, rfl⟩, ?_⟩
      rw [if_pos hempty] at hfiles
      simp only [hempty, if_true, Run.gives_pure]
      refine ⟨rfl, ?_⟩
      rw [← hlog, ← hfiles]
  · rw [Bool.not_eq_true] at hempty
    constructor
    · rintro ⟨_, _, ⟨rfl, rfl⟩, h⟩
      simp only [hempty, Bool.false_eq_true, if_false, Run.gives_bind, Run.gives_onFiles,
        Run.gives_pure, Prod.mk.injEq] at h
      obtain ⟨added, _, ⟨hpersist, hlog⟩, ⟨rfl, rfl⟩, rfl⟩ := h
      refine ⟨by simp [hempty], rfl, hlog, ?_⟩
      simp only [hempty, Bool.false_eq_true, if_false]
      exact ⟨added, hpersist⟩
    · rintro ⟨rfl, rfl, hlog, hfiles⟩
      refine ⟨_, _, ⟨rfl, rfl⟩, ?_⟩
      simp only [hempty, Bool.false_eq_true, if_false] at hfiles
      obtain ⟨added, hpersist⟩ := hfiles
      simp only [hempty, Bool.false_eq_true, if_false, Run.gives_bind, Run.gives_onFiles,
        Run.gives_pure]
      exact ⟨added, o', ⟨hpersist, hlog⟩, rfl, rfl⟩

theorem writeGoldsets_nil_gives {store : GoldsetStore} {written n : Nat}
    {counts counts' : Diagnostics} :
    Gives (j.writeGoldsets store [] written counts) o (n, counts') o' ↔
      n = written ∧ counts' = counts ∧ o = o' := by
  unfold writeGoldsets
  rw [Run.gives_pure, Prod.mk.injEq, and_assoc, eq_comm, eq_comm (b := counts')]

theorem writeGoldsets_cons_gives {store : GoldsetStore} {issue : String} {ids : List CommitId}
    {rest : List (String × List CommitId)} {written n : Nat} {counts counts' : Diagnostics} :
    Gives (j.writeGoldsets store ((issue, ids) :: rest) written counts) o (n, counts') o' ↔
      ∃ found between o₁, Gives (j.writeGoldset store issue ids counts) o (found, between) o₁ ∧
        Gives (j.writeGoldsets store rest (if found then written + 1 else written) between) o₁
          (n, counts') o' := by
  rw [writeGoldsets, Run.gives_bind]
  constructor
  · rintro ⟨⟨found, between⟩, o₁, hfirst, hrest⟩
    exact ⟨found, between, o₁, hfirst, hrest⟩
  · rintro ⟨found, between, o₁, hfirst, hrest⟩
    exact ⟨(found, between), o₁, hfirst, hrest⟩

/-! ## The whole window -/

/-- The warning about a window in which no commit refers to an issue. -/
def warned (label : String) (map : IssueMap) (o : Output) : Output :=
  if map.isEmpty then
    { o with log := o.log ++ [⟨.warning, "[" ++ label ++ "] No commit references an issue"⟩] }
  else o

theorem files_warned (label : String) (map : IssueMap) (o : Output) :
    (warned label map o).files = o.files := by
  unfold warned
  split
  · rfl
  · rfl

/-- The work on a window, with the states of the output between its parts. -/
structure Stages (j : Job) (range : VersionRange) (o o' : Output) where
  commits : List Commit
  map : IssueMap
  store : GoldsetStore
  queries : Nat × Diagnostics
  goldsets : Nat × Diagnostics
  created : Output
  linked : Output
  queried : Output
  opened : Output
  create : (VersionLayout.below j.config.outputDir range).create o.files = (.ok (), created.files)
  created_log : created.log = o.log
  walk : History.window j.history range.start range.stop = .ok commits
  link : Gives (linkIssues (VersionLayout.below j.config.outputDir range).issueMapPath
    (IssueMap.ofCommits commits j.pattern)) created map linked
  query : Gives (j.writeQueries (VersionLayout.below j.config.outputDir range).queryDir map)
    (warned range.label map linked) queries queried
  openStore : GoldsetStore.openAt queried.files
    (VersionLayout.below j.config.outputDir range).goldsetDir = (.ok store, opened.files)
  opened_log : opened.log = queried.log
  record : Gives (j.writeGoldsets store map.entries 0 queries.2) opened goldsets o'

/-- What is reported about the work. -/
def Stages.report {range : VersionRange} (s : Stages j range o o') : WindowReport :=
  { label := range.label, start := range.start, stop := range.stop, commits := s.commits.length
    issues := s.map.size, queriesWritten := s.queries.1, goldsetsWritten := s.goldsets.1
    diagnostics := s.goldsets.2 }

/-- A report is given when the work has gone through all its parts. -/
theorem runWindow_gives {range : VersionRange} {report : WindowReport} :
    Gives (j.runWindow range) o report o' ↔ ∃ s : Stages j range o o', report = s.report := by
  have hjoin : ∀ (map : IssueMap) (rest : Unit → Run WindowReport) (linked : Output),
      Gives (if map.isEmpty = true then do
          let u ← Run.warn ["[" ++ range.label ++ "] No commit references an issue"]
          rest u
        else rest ()) linked report o' ↔
        Gives (rest ()) (warned range.label map linked) report o' := by
    intro map rest linked
    unfold warned
    split
    · simp only [Run.gives_bind, Run.gives_warn]
      constructor
      · rintro ⟨_, _, rfl, h⟩
        exact h
      · intro h
        exact ⟨(), _, rfl, h⟩
    · rfl
  unfold runWindow
  simp only [Run.gives_bind, Run.gives_onFiles, Run.gives_take, hjoin, Run.gives_pure]
  constructor
  · rintro ⟨_, created, ⟨hcreate, hlog⟩, commits, _, ⟨hwindow, rfl⟩, map, linked, hlink,
      queries, queried, hqueries, store, opened, ⟨hopen, hlog'⟩, goldsets, _, hgoldsets, rfl, rfl⟩
    exact ⟨⟨commits, map, store, queries, goldsets, created, linked, queried, opened, hcreate, hlog,
      hwindow, hlink, hqueries, hopen, hlog', hgoldsets⟩, rfl⟩
  · rintro ⟨s, rfl⟩
    exact ⟨(), s.created, ⟨s.create, s.created_log⟩, s.commits, _, ⟨s.walk, rfl⟩, s.map, s.linked,
      s.link, s.queries, s.queried, s.query, s.store, s.opened, ⟨s.openStore, s.opened_log⟩,
      s.goldsets, o', s.record, rfl, rfl⟩

end Job

end IssueTrace
