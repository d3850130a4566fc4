import IssueTrace.Proofs.Attribution.Counts
import IssueTrace.Proofs.Run.Stages
import IssueTrace.Proofs.Storage.Region

/-!
# The work on a window by itself

Whatever else lies about, the work on a window does the same below its place, and reports the same.
So a window that was gone through after others could have been gone through without them.
-/

namespace IssueTrace

open FileSystem (AgreesBelow GrowsBelow Admits)
open Run (Gives)

/-! ## Goldset files -/

namespace GoldsetStore

variable {fs fs' done' : FileSystem} {root place : List String} {dir name issue : String}
  {names : NameSet}

theorem readNames_of_agrees {known : List String} (h : AgreesBelow root fs fs')
    (hplace : root <+: place) (hdir : fs.locate dir = .ok (.existing place .directory))
    (hname : Path.IsEntryName name) (hread : readNames fs' (Path.join dir name) = .ok known) :
    readNames fs (Path.join dir name) = .ok known := by
  have hdir' := h.directories.locate h.workDir_eq hdir
  by_cases hadmits : Admits dir name
  · obtain ⟨s, hshows, rfl⟩ :=
      showsText_of_readNames (FileSystem.leadsTo_join hdir' hname hadmits) hread
    have hget := h.get?_eq (hplace.trans (List.prefix_append _ [name])) hshows.not_directory
    exact (hshows.congr hget).readNames (FileSystem.leadsTo_join hdir hname hadmits)
  · obtain ⟨fault, hlocate, hfault⟩ := FileSystem.locate_join_of_not_admits hdir' hname hadmits
    rw [readNames_of_error hlocate hfault] at hread
    cases hread

theorem appendNew_of_agrees {count : Nat} (h : AgreesBelow root fs fs') (hplace : root <+: place)
    (hdir : fs.locate dir = .ok (.existing place .directory)) (hname : Path.IsEntryName name)
    (hadded : appendNew fs' (Path.join dir name) names = .ok (count, done')) :
    ∃ done, appendNew fs (Path.join dir name) names = .ok (count, done) ∧
      AgreesBelow root done done' := by
  rcases appendNew_eq_ok_iff.mp hadded with ⟨hempty, hcount, rfl⟩ |
    ⟨hempty, known, hknown, hcount, hfresh⟩
  · exact ⟨fs, appendNew_eq_ok_iff.mpr (.inl ⟨hempty, hcount, rfl⟩), h⟩
  · have hknown' := readNames_of_agrees h hplace hdir hname hknown
    rcases hfresh with ⟨hnone, rfl⟩ | ⟨hsome, happend⟩
    · refine ⟨fs, appendNew_eq_ok_iff.mpr (.inr ⟨hempty, known, hknown', hcount, ?_⟩), h⟩
      exact .inl ⟨hnone, rfl⟩
    · obtain ⟨own, hown, hagrees⟩ := h.append_join hplace hdir hname happend
      refine ⟨own, appendNew_eq_ok_iff.mpr (.inr ⟨hempty, known, hknown', hcount, ?_⟩), hagrees⟩
      exact .inr ⟨hsome, hown⟩

variable {store : GoldsetStore} {e : Entities} {added : Added}

theorem persist_of_agrees (h : AgreesBelow root fs fs') (hplace : root <+: place)
    (hstands : store.Stands place fs) (hissue : '/' ∉ issue.toList)
    (hpersist : store.persist fs' issue e = (.ok added, done')) :
    ∃ done, store.persist fs issue e = (.ok added, done) ∧ AgreesBelow root done done' := by
  have hkind : ∀ kind, root <+: place ++ [kind] :=
    fun kind => hplace.trans (List.prefix_append place [kind])
  have hfile := isEntryName_file hissue
  obtain ⟨between', hclasses', hmethods'⟩ := persist_eq_ok hpersist
  obtain ⟨between, hclasses, hbetween⟩ :=
    appendNew_of_agrees h (hkind "class") hstands.classDir hfile hclasses'
  have hmethodDir := (appendNew_grows hstands.classDir hfile hclasses).locate hstands.methodDir
  obtain ⟨done, hmethods, hdone⟩ :=
    appendNew_of_agrees hbetween (hkind "method") hmethodDir hfile hmethods'
  refine ⟨done, ?_, hdone⟩
  unfold persist classPath methodPath
  rw [hclasses]
  dsimp only
  rw [hmethods]

theorem openAt_of_agrees {dir : String} (h : AgreesBelow root fs fs')
    (hopen : openAt fs' dir = (.ok store, done')) :
    ∃ done, openAt fs dir = (.ok store, done) ∧ AgreesBelow root done done' := by
  obtain ⟨rfl, between', hclass', hmethod'⟩ := openAt_eq_ok_iff.mp hopen
  obtain ⟨between, hclass, hbetween⟩ := h.makeDirectories (by decide) hclass'
  obtain ⟨done, hmethod, hdone⟩ := hbetween.makeDirectories (by decide) hmethod'
  exact ⟨done, openAt_eq_ok_iff.mpr ⟨rfl, between, hclass, hmethod⟩, hdone⟩

end GoldsetStore

/-! ## Query files -/

namespace Queries

variable {repo : Repository} {root place : List String} {dir issue : String} {k : Nat}
  {id : CommitId} {p p' done' : Progress}

/-- The same was written and counted, and below a place there are the same files. -/
structure Progress.Agrees (root : List String) (p p' : Progress) : Prop where
  written : p.written = p'.written
  counts : p.journal.counts = p'.journal.counts
  files : AgreesBelow root p.files p'.files

theorem writeOne_of_agrees (h : p.Agrees root p') (hplace : root <+: place)
    (hdir : p.files.locate dir = .ok (.existing place .directory)) (hissue : '/' ∉ issue.toList)
    (hone : writeOne repo dir issue p' k id = .ok done') :
    ∃ done, writeOne repo dir issue p k id = .ok done ∧ done.Agrees root done' := by
  cases hcommit : repo.commit id with
  | error failure =>
      rw [writeOne_of_error hcommit] at hone
      obtain rfl := Except.ok.inj hone
      exact ⟨_, writeOne_of_error hcommit, h.written,
        congrArg (Diagnostics.count · failure) h.counts, h.files⟩
  | ok commit =>
      obtain ⟨files', hwrite, rfl⟩ := (writeOne_eq_ok_iff hcommit).mp hone
      obtain ⟨files, hfiles, hagrees⟩ :=
        h.files.write_join hplace hdir (isEntryName_fileName hissue) hwrite
      exact ⟨_, (writeOne_eq_ok_iff hcommit).mpr ⟨files, hfiles, rfl⟩,
        congrArg (· + 1) h.written, h.counts, hagrees⟩

theorem writeLinks_of_agrees {links : List (String × Nat × CommitId)} (h : p.Agrees root p')
    (hplace : root <+: place) (hdir : p.files.locate dir = .ok (.existing place .directory))
    (hissues : ∀ l ∈ links, '/' ∉ l.1.toList)
    (hlinks : writeLinks repo dir links p' = (.ok (), done')) :
    ∃ done, writeLinks repo dir links p = (.ok (), done) ∧ done.Agrees root done' := by
  induction links generalizing p p' with
  | nil =>
      obtain rfl : p' = done' := (Prod.mk.inj hlinks).2
      exact ⟨p, rfl, h⟩
  | cons link links ih =>
      obtain ⟨issue, k, id⟩ := link
      have hissue := hissues _ List.mem_cons_self
      obtain ⟨own', hone', hrest'⟩ := writeLinks_cons_eq_ok.mp hlinks
      obtain ⟨own, hone, hown⟩ := writeOne_of_agrees h hplace hdir hissue hone'
      have hdir' := (writeOne_grows hdir hissue hone).locate hdir
      obtain ⟨done, hrest, hdone⟩ :=
        ih hown hdir' (fun l hl => hissues l (List.mem_cons_of_mem _ hl)) hrest'
      exact ⟨done, writeLinks_cons_eq_ok.mpr ⟨own, hone, hrest⟩, hdone⟩

theorem write_of_agrees {map : IssueMap} {journal journal' after' : Journal}
    {fs fs' files' : FileSystem} {n : Nat} (h : AgreesBelow root fs fs')
    (hcounts : journal.counts = journal'.counts) (hplace : root <+: place)
    (hdir : fs.locate dir = .ok (.existing place .directory))
    (hissues : ∀ l ∈ links map, '/' ∉ l.1.toList)
    (hwrite : write repo map dir journal' fs' = (.ok n, after', files')) :
    ∃ after files, write repo map dir journal fs = (.ok n, after, files) ∧
      after.counts = after'.counts ∧ AgreesBelow root files files' := by
  obtain ⟨between', hmake', hlinks'⟩ := write_eq_ok_iff.mp hwrite
  have hdir' := h.directories.locate h.workDir_eq hdir
  rw [FileSystem.makeDirectories_of_directory hdir'] at hmake'
  obtain rfl : fs' = between' := (Prod.mk.inj hmake').2
  have hstart : Progress.Agrees root ⟨0, journal, fs⟩ ⟨0, journal', fs'⟩ := ⟨rfl, hcounts, h⟩
  obtain ⟨⟨written, after, files⟩, hlinks, hdone⟩ :=
    writeLinks_of_agrees hstart hplace hdir hissues hlinks'
  obtain rfl : written = n := hdone.written
  refine ⟨after, files, write_eq_ok_iff.mpr ⟨fs, ?_, hlinks⟩, hdone.counts, hdone.files⟩
  exact FileSystem.makeDirectories_of_directory hdir

end Queries

theorem VersionLayout.create_of_agrees {root : List String} {outputDir : String}
    {range : VersionRange} {fs fs' done' : FileSystem} (h : AgreesBelow root fs fs')
    (hcreate : (VersionLayout.below outputDir range).create fs' = (.ok (), done')) :
    ∃ done, (VersionLayout.below outputDir range).create fs = (.ok (), done) ∧
      AgreesBelow root done done' := by
  obtain ⟨own₁', own₂', hdata', hquery', hgoldset'⟩ := create_eq_ok_iff.mp hcreate
  obtain ⟨own₁, hdata, hown₁⟩ := h.makeDirectories (by decide) hdata'
  obtain ⟨own₂, hquery, hown₂⟩ := hown₁.makeDirectories (by decide) hquery'
  obtain ⟨done, hgoldset, hdone⟩ := hown₂.makeDirectories (by decide) hgoldset'
  exact ⟨done, create_eq_ok_iff.mpr ⟨own₁, own₂, hdata, hquery, hgoldset⟩, hdone⟩

/-! ## The parts of the work -/

namespace Job

variable {j : Job} {o p p' : Output} {root place : List String}

theorem linkIssues_of_agrees {dir : String} {map m : IssueMap}
    (h : AgreesBelow root o.files p.files) (hplace : root <+: place)
    (hdir : o.files.locate dir = .ok (.existing place .directory))
    (hlink : Gives (linkIssues (Path.join dir "Issue_Commit_Map.txt") map) p m p') :
    ∃ o', Gives (linkIssues (Path.join dir "Issue_Commit_Map.txt") map) o m o' ∧
      AgreesBelow root o'.files p'.files := by
  obtain ⟨hwrite', rfl, -⟩ := linkIssues_gives.mp hlink
  obtain ⟨files, hwrite, hfiles⟩ := h.write_join hplace hdir (by decide) hwrite'
  exact ⟨⟨files, _⟩, linkIssues_gives.mpr ⟨hwrite, rfl, rfl⟩, hfiles⟩

theorem writeQueries_of_agrees {dir : String} {map : IssueMap} {found : Nat × Diagnostics}
    (h : AgreesBelow root o.files p.files) (hplace : root <+: place)
    (hdir : o.files.locate dir = .ok (.existing place .directory))
    (hissues : ∀ issue ∈ map.entries.map Prod.fst, '/' ∉ issue.toList)
    (hquery : Gives (j.writeQueries dir map) p found p') :
    ∃ o', Gives (j.writeQueries dir map) o found o' ∧ AgreesBelow root o'.files p'.files := by
  obtain ⟨after', hwrite', -, hcounts'⟩ := writeQueries_gives.mp hquery
  have hlinks := Queries.no_slash_of_mem_links hissues
  have hstart : (⟨{}, o.log⟩ : Journal).counts = (⟨{}, p.log⟩ : Journal).counts := rfl
  obtain ⟨after, files, hwrite, hcounts, hfiles⟩ :=
    Queries.write_of_agrees h hstart hplace hdir hlinks hwrite'
  refine ⟨⟨files, after.log⟩, writeQueries_gives.mpr ⟨after, hwrite, rfl, ?_⟩, hfiles⟩
  rw [hcounts', hcounts]

theorem writeGoldset_of_agrees {store : GoldsetStore} {issue : String} {ids : List CommitId}
    {counts counts' : Diagnostics} {found : Bool} (h : AgreesBelow root o.files p.files)
    (hplace : root <+: place) (hstands : store.Stands place o.files)
    (hissue : '/' ∉ issue.toList)
    (hgoldset : Gives (j.writeGoldset store issue ids counts) p (found, counts') p') :
    ∃ o', Gives (j.writeGoldset store issue ids counts) o (found, counts') o' ∧
      AgreesBelow root o'.files p'.files := by
  obtain ⟨rfl, rfl, -, hfiles'⟩ := writeGoldset_gives.mp hgoldset
  have hcounts :
      (aggregateBy j.parser j.history.toRepository j.config.resolver ids ⟨counts, p.log⟩).2.counts =
        (aggregateBy j.parser j.history.toRepository j.config.resolver ids
          ⟨counts, o.log⟩).2.counts := by
    have hlogs : (⟨counts, p.log⟩ : Journal).counts = (⟨counts, o.log⟩ : Journal).counts := rfl
    exact (sameCounts_aggregateBy ids hlogs).counts
  by_cases hempty : (j.entitiesOf ids).isEmpty = true
  · rw [if_pos hempty] at hfiles'
    rw [← hfiles'] at h
    refine ⟨⟨o.files, _⟩, writeGoldset_gives.mpr ⟨rfl, hcounts, rfl, ?_⟩, h⟩
    rw [if_pos hempty]
  · rw [if_neg hempty] at hfiles'
    obtain ⟨added, hpersist'⟩ := hfiles'
    obtain ⟨files, hpersist, hfiles⟩ :=
      GoldsetStore.persist_of_agrees h hplace hstands hissue hpersist'
    refine ⟨⟨files, _⟩, writeGoldset_gives.mpr ⟨rfl, hcounts, rfl, ?_⟩, hfiles⟩
    rw [if_neg hempty]
    exact ⟨added, hpersist⟩

theorem writeGoldsets_of_agrees {store : GoldsetStore} {rest : List (String × List CommitId)}
    {written n : Nat} {counts counts' : Diagnostics} (h : AgreesBelow root o.files p.files)
    (hplace : root <+: place) (hstands : store.Stands place o.files)
    (hissues : ∀ e ∈ rest, '/' ∉ e.1.toList)
    (hgoldsets : Gives (j.writeGoldsets store rest written counts) p (n, counts') p') :
    ∃ o', Gives (j.writeGoldsets store rest written counts) o (n, counts') o' ∧
      AgreesBelow root o'.files p'.files := by
  induction rest generalizing o p written counts with
  | nil =>
      obtain ⟨rfl, rfl, rfl⟩ := writeGoldsets_nil_gives.mp hgoldsets
      exact ⟨o, writeGoldsets_nil_gives.mpr ⟨rfl, rfl, rfl⟩, h⟩
  | cons e rest ih =>
      obtain ⟨issue, ids⟩ := e
      have hissue := hissues _ List.mem_cons_self
      obtain ⟨found, between, p₁, hfirst', hrest'⟩ := writeGoldsets_cons_gives.mp hgoldsets
      obtain ⟨o₁, hfirst, hagrees⟩ := writeGoldset_of_agrees h hplace hstands hissue hfirst'
      have hstands₁ := hstands.grows (writeGoldset_grows hstands hissue hfirst)
      obtain ⟨o', hrest, hdone⟩ :=
        ih hagrees hstands₁ (fun e he => hissues e (List.mem_cons_of_mem _ he)) hrest'
      exact ⟨o', writeGoldsets_cons_gives.mpr ⟨found, between, o₁, hfirst, hrest⟩, hdone⟩

/-! ## The whole window -/

/-- The work on a window that gave a report gives the same report without what lies elsewhere, and
leaves the same files below its place. -/
theorem Stages.replay {range : VersionRange} (s' : Stages j range p p')
    (h : AgreesBelow s'.root o.files p.files) :
    ∃ (o' : Output) (s : Stages j range o o'), s.report = s'.report ∧
      AgreesBelow s'.root o'.files p'.files := by
  have hfront : ∀ dir, s'.root <+: s'.root ++ [dir] := fun dir => List.prefix_append s'.root [dir]
  obtain ⟨files, hcreate, hcreated⟩ := VersionLayout.create_of_agrees h s'.create
  obtain ⟨created, rfl, hcreatedLog⟩ : ∃ c : Output, c.files = files ∧ c.log = o.log :=
    ⟨⟨files, o.log⟩, rfl, rfl⟩
  have hstands := (VersionLayout.create_spec hcreate).2
  rw [← FileSystem.placeOf_congr h.workDir_eq] at hstands
  obtain ⟨linked, hlink, hlinked⟩ :=
    linkIssues_of_agrees hcreated (hfront "data") hstands.dataDir s'.link
  have hlinkGrows := (linkIssues_grows hstands.dataDir hlink).1
  rw [← files_warned range.label s'.map linked,
    ← files_warned range.label s'.map s'.linked] at hlinked
  have hqueryDir := hlinkGrows.locate hstands.queryDir
  rw [← files_warned range.label s'.map linked] at hqueryDir
  obtain ⟨queried, hquery, hqueried⟩ :=
    writeQueries_of_agrees hlinked (hfront "queries") hqueryDir s'.no_slash_of_mem
      s'.query
  obtain ⟨files, hopen, hopened⟩ := GoldsetStore.openAt_of_agrees hqueried s'.openStore
  obtain ⟨opened, rfl, hopenedLog⟩ : ∃ c : Output, c.files = files ∧ c.log = queried.log :=
    ⟨⟨files, queried.log⟩, rfl, rfl⟩
  obtain ⟨-, -, hstore⟩ := GoldsetStore.openAt_spec hopen
  rw [← FileSystem.placeOf_congr hqueried.workDir_eq,
    FileSystem.placeOf_congr s'.queried_workDir, VersionLayout.placeOf_goldsetDir] at hstore
  obtain ⟨o', hrecord, hrecorded⟩ := writeGoldsets_of_agrees hopened (hfront "goldsets") hstore
    s'.no_slash_of_mem_entries s'.record
  exact ⟨o', ⟨s'.commits, s'.map, s'.store, s'.queries, s'.goldsets, created, linked, queried, opened,
    hcreate, hcreatedLog, s'.walk, hlink, hquery, hopen, hopenedLog, hrecord⟩, rfl, hrecorded⟩

end Job

end IssueTrace
