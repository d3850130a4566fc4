import IssueTrace.Proofs.History.Window
import IssueTrace.Proofs.Run.Parts

/-!
# The stages of the work on a window

Each part of the work on a window works in a directory of its own below the place of the window.  So
what one part has written is still there when the others are done, and the work as a whole stays
below that place.
-/

namespace IssueTrace

open FileSystem (GrowsBelow OnlyDirectories)
open Run (Gives)

namespace History

variable {h : History} {first last : String} {commits : List Commit}

/-- A window that could be walked lists commits of the history, each once. -/
theorem window_eq_ok (hwindow : window h first last = .ok commits) :
    (commits.map Commit.id).Nodup ∧
      ∀ c ∈ commits, c.id ∈ h.graph.ids ∧ h.toRepository.commit c.id = .ok c := by
  cases hstart : resolve h first with
  | error failure =>
      unfold window at hwindow
      rw [hstart] at hwindow
      cases hwindow
  | ok start =>
      cases hstop : resolve h last with
      | error failure =>
          unfold window at hwindow
          rw [hstart, hstop] at hwindow
          cases hwindow
      | ok stop =>
          have hperm := h.graph.window_perm start stop
          have hids : h.graph.window start stop ⊆ h.graph.ids := by
            intro x hx
            exact h.graph.between_subset_ids start stop (hperm.mem_iff.mp hx)
          obtain ⟨own, hown, hmap, hall⟩ := mapM_commit_eq_ok hids
          rw [window_of_resolve hstart hstop, hown] at hwindow
          obtain rfl := Except.ok.inj hwindow
          constructor
          · rw [hmap, hperm.nodup_iff]
            exact h.graph.between_nodup start stop
          · intro c hc
            refine ⟨hids ?_, hall c hc⟩
            rw [← hmap]
            exact List.mem_map_of_mem hc

theorem isFull_of_window (hwindow : window h first last = .ok commits) :
    ∀ c ∈ commits, c.id.IsFull := by
  intro c hc
  obtain ⟨r, hr, hid⟩ := List.mem_map.mp ((window_eq_ok hwindow).2 c hc).1
  rw [← hid]
  exact h.graph.full r hr

end History

namespace Job

variable {j : Job} {o o' : Output} {place : List String}

/-! ## What the parts may touch -/

theorem linkIssues_grows {dir : String} {map m : IssueMap}
    (hdir : o.files.locate dir = .ok (.existing place .directory))
    (h : Gives (linkIssues (Path.join dir "Issue_Commit_Map.txt") map) o m o') :
    GrowsBelow place o.files o'.files ∧ FileSystem.Admits dir "Issue_Commit_Map.txt" ∧
      o'.files.get? (place ++ ["Issue_Commit_Map.txt"]) = some (.file (.text map.render)) := by
  obtain ⟨hwrite, -, -⟩ := linkIssues_gives.mp h
  obtain ⟨hadmits, hdirectory, hfiles⟩ := FileSystem.write_join hdir (by decide) hwrite
  rw [hfiles]
  refine ⟨.put_file (List.prefix_append place _) hdirectory _, hadmits, ?_⟩
  exact FileSystem.get?_put_self (by simp)

theorem writeQueries_grows {dir : String} {map : IssueMap} {found : Nat × Diagnostics}
    (hdir : o.files.locate dir = .ok (.existing place .directory))
    (hissues : ∀ issue ∈ map.entries.map Prod.fst, '/' ∉ issue.toList)
    (h : Gives (j.writeQueries dir map) o found o') : GrowsBelow place o.files o'.files := by
  obtain ⟨journal, hwrite, -, -⟩ := writeQueries_gives.mp h
  obtain ⟨fs₁, hmake, hlinks⟩ := Queries.write_eq_ok_iff.mp hwrite
  rw [FileSystem.makeDirectories_of_directory hdir] at hmake
  obtain rfl : o.files = fs₁ := (Prod.mk.inj hmake).2
  exact Queries.writeLinks_grows hdir (Queries.no_slash_of_mem_links hissues) hlinks

theorem writeGoldset_grows {store : GoldsetStore} {issue : String} {ids : List CommitId}
    {counts counts' : Diagnostics} {found : Bool}
    (hstands : store.Stands place o.files) (hissue : '/' ∉ issue.toList)
    (h : Gives (j.writeGoldset store issue ids counts) o (found, counts') o') :
    GrowsBelow place o.files o'.files := by
  obtain ⟨-, -, -, hfiles⟩ := writeGoldset_gives.mp h
  split at hfiles
  · rw [hfiles]
    exact .refl place o.files
  · obtain ⟨added, hpersist⟩ := hfiles
    exact GoldsetStore.persist_grows hstands hissue hpersist

theorem writeGoldsets_grows {store : GoldsetStore} {rest : List (String × List CommitId)}
    {written n : Nat} {counts counts' : Diagnostics}
    (hstands : store.Stands place o.files) (hissues : ∀ e ∈ rest, '/' ∉ e.1.toList)
    (h : Gives (j.writeGoldsets store rest written counts) o (n, counts') o') :
    GrowsBelow place o.files o'.files := by
  induction rest generalizing o written counts with
  | nil =>
      obtain ⟨-, -, rfl⟩ := writeGoldsets_nil_gives.mp h
      exact .refl place o.files
  | cons e rest ih =>
      obtain ⟨issue, ids⟩ := e
      obtain ⟨found, between, o₁, hfirst, hrest⟩ := writeGoldsets_cons_gives.mp h
      have hgrows := writeGoldset_grows hstands (hissues _ List.mem_cons_self) hfirst
      exact hgrows.trans (ih (hstands.grows hgrows)
        (fun e he => hissues e (List.mem_cons_of_mem _ he)) hrest)

/-! ## The issues of a window -/

/-- The numbers of the issues that messages refer to, once for each reference. -/
def references (j : Job) (commits : List Commit) : List String :=
  commits.filterMap fun c => j.pattern.issueId? c.message

/-- The ids of the commits that refer to an issue. -/
def referring (j : Job) (commits : List Commit) (issue : String) : List CommitId :=
  (commits.filter fun c => j.pattern.issueId? c.message = some issue).map Commit.id

theorem isNumber_of_mem_keys {commits : List Commit} {issue : String}
    (h : issue ∈ (IssueMap.ofCommits commits j.pattern).entries.map Prod.fst) :
    IssuePattern.IsNumber issue.toList := by
  rw [IssueMap.mem_keys_ofCommits, List.mem_filterMap] at h
  obtain ⟨c, -, hissue⟩ := h
  exact IssuePattern.isNumber_of_issueId? hissue

/-- The ids of an entry of a map of commits are those of the commits that refer to the issue. -/
theorem ids_of_mem_entries {commits : List Commit} {e : String × List CommitId}
    (h : e ∈ (IssueMap.ofCommits commits j.pattern).entries) :
    e.2 = j.referring commits e.1 := by
  rw [← IssueMap.commits_of_mem h, IssueMap.commits_ofCommits]
  rfl

/-- Linking the issues of commits gives the map of these commits. -/
theorem map_of_linkIssues {path : String} {commits : List Commit} {map : IssueMap}
    (hfull : ∀ c ∈ commits, c.id.IsFull)
    (h : Gives (linkIssues path (IssueMap.ofCommits commits j.pattern)) o map o') :
    map = IssueMap.ofCommits commits j.pattern := by
  obtain ⟨-, hmap, -⟩ := linkIssues_gives.mp h
  rw [hmap, (IssueMap.canBeWritten_ofCommits j.pattern hfull).read_render]

/-! ## From stage to stage -/

namespace Stages

variable {range : VersionRange} (s : Stages j range o o')

/-- The directories of the window. -/
abbrev layout (_ : Stages j range o o') : VersionLayout :=
  VersionLayout.below j.config.outputDir range

/-- The place of the window. -/
abbrev root (_ : Stages j range o o') : List String :=
  o.files.placeOf (VersionLayout.below j.config.outputDir range).root

theorem created_spec :
    OnlyDirectories o.files s.created.files ∧ s.layout.Stands s.root s.created.files :=
  VersionLayout.create_spec s.create

theorem linked_grows : GrowsBelow (s.root ++ ["data"]) s.created.files s.linked.files :=
  (linkIssues_grows s.created_spec.2.dataDir s.link).1

theorem isFull_of_mem : ∀ c ∈ s.commits, c.id.IsFull := History.isFull_of_window s.walk

/-- The map that is read back is the one that was written. -/
theorem map_eq : s.map = IssueMap.ofCommits s.commits j.pattern :=
  map_of_linkIssues s.isFull_of_mem s.link

theorem isNumber_of_mem {issue : String} (h : issue ∈ s.map.entries.map Prod.fst) :
    IssuePattern.IsNumber issue.toList := by
  rw [s.map_eq] at h
  exact isNumber_of_mem_keys h

theorem no_slash_of_mem : ∀ issue ∈ s.map.entries.map Prod.fst, '/' ∉ issue.toList :=
  fun _ hissue => (s.isNumber_of_mem hissue).not_mem (by decide)

theorem no_slash_of_mem_entries : ∀ e ∈ s.map.entries, '/' ∉ e.1.toList :=
  fun e he => s.no_slash_of_mem e.1 (List.mem_map_of_mem he)

theorem queried_grows : GrowsBelow (s.root ++ ["queries"]) s.linked.files s.queried.files := by
  have hdir := s.linked_grows.locate s.created_spec.2.queryDir
  rw [← files_warned range.label s.map s.linked] at hdir ⊢
  exact writeQueries_grows hdir s.no_slash_of_mem s.query

theorem queried_workDir : s.queried.files.workDir = o.files.workDir := by
  rw [s.queried_grows.workDir_eq, s.linked_grows.workDir_eq, s.created_spec.1.workDir_eq]

/-- The store is opened below the place of the window, which makes directories only. -/
theorem opened_spec :
    OnlyDirectories s.queried.files s.opened.files ∧
      s.store.Stands (s.root ++ ["goldsets"]) s.opened.files := by
  obtain ⟨-, honly, hstands⟩ := GoldsetStore.openAt_spec s.openStore
  rw [FileSystem.placeOf_congr s.queried_workDir,
    VersionLayout.placeOf_goldsetDir] at hstands
  exact ⟨honly, hstands⟩

theorem recorded_grows : GrowsBelow (s.root ++ ["goldsets"]) s.opened.files o'.files :=
  writeGoldsets_grows s.opened_spec.2 s.no_slash_of_mem_entries s.record

/-- The work on a window stays below its place. -/
theorem grows : GrowsBelow s.root o.files o'.files := by
  have hfront : ∀ dir, s.root <+: s.root ++ [dir] := fun dir => List.prefix_append s.root [dir]
  have hcreated := GrowsBelow.of_onlyDirectories s.created_spec.1 s.root
  have hlinked := s.linked_grows.mono (hfront "data")
  have hqueried := s.queried_grows.mono (hfront "queries")
  have hopened := GrowsBelow.of_onlyDirectories s.opened_spec.1 s.root
  have hrecorded := s.recorded_grows.mono (hfront "goldsets")
  exact (((hcreated.trans hlinked).trans hqueried).trans hopened).trans hrecorded

end Stages

end Job

end IssueTrace
