import IssueTrace.Change.Resolve

/-!
# Counts and the log

What is found and what is counted on the way does not depend on the log that a run begins with.  So a
later window of a run is reported as if it had been the first.
-/

namespace IssueTrace

open Source (Parser)

/-- The same entities with the same counts, whatever has been logged. -/
structure SameCounts (state state' : Entities × Journal) : Prop where
  entities : state.1 = state'.1
  counts : state.2.counts = state'.2.counts

section

variable {parser : Parser} {repo : Repository} {options : ResolverOptions}
  {state state' : Entities × Journal}

theorem SameCounts.note (h : SameCounts state state') (failure : Failure) :
    SameCounts (state.1, state.2.note failure) (state'.1, state'.2.note failure) :=
  ⟨h.entities, congrArg (Diagnostics.count · failure) h.counts⟩

theorem SameCounts.foldl {α : Type} {step : Entities × Journal → α → Entities × Journal}
    (hstep : ∀ {state state'} a, SameCounts state state' → SameCounts (step state a) (step state' a))
    (xs : List α) (h : SameCounts state state') :
    SameCounts (xs.foldl step state) (xs.foldl step state') := by
  induction xs generalizing state state' with
  | nil => exact h
  | cons a xs ih => exact ih (hstep a h)

theorem SameCounts.addHunk {id : CommitId} {path : String} {outline : Source.Outline}
    (header : String) (h : SameCounts state state') :
    SameCounts (addHunk options id path outline state header)
      (addHunk options id path outline state' header) := by
  unfold IssueTrace.addHunk
  cases Hunk.parse? header with
  | none => exact h.note _
  | some hunk => exact ⟨by rw [h.entities], h.counts⟩

theorem sameCounts_resolveBy {id : CommitId} {path : String} (headers : List String)
    {journal journal' : Journal} (h : journal.counts = journal'.counts) :
    SameCounts (resolveBy parser repo options id path headers journal)
      (resolveBy parser repo options id path headers journal') := by
  unfold resolveBy
  cases readFile parser repo options id path with
  | error failure =>
      have hsame : SameCounts ({}, journal) ({}, journal') := ⟨rfl, h⟩
      exact hsame.note failure
  | ok found =>
      obtain ⟨name, outline⟩ := found
      let fallbacks := fun counts : Diagnostics => { counts with
        dialectFallbacks :=
          counts.dialectFallbacks + if outline.dialect = Source.Dialect.legacy then 0 else 1 }
      let resolved := fun counts : Diagnostics => { counts with
        filesResolved := counts.filesResolved + 1 }
      have hstart : SameCounts ({}, { journal with counts := fallbacks journal.counts })
          ({}, { journal' with counts := fallbacks journal'.counts }) :=
        ⟨rfl, congrArg fallbacks h⟩
      have hloop : SameCounts (headers.foldl (IssueTrace.addHunk options id path outline) _)
          (headers.foldl (IssueTrace.addHunk options id path outline) _) :=
        SameCounts.foldl (fun header hsame => hsame.addHunk header) headers hstart
      exact ⟨congrArg (Entities.inModule · name) hloop.entities, congrArg resolved hloop.counts⟩

theorem SameCounts.addFile {id : CommitId} (file : FileChange) (h : SameCounts state state') :
    SameCounts (addFile parser repo options id state file)
      (addFile parser repo options id state' file) := by
  have hfile : SameCounts (resolveBy parser repo options id file.path file.hunks state.2)
      (resolveBy parser repo options id file.path file.hunks state'.2) :=
    sameCounts_resolveBy file.hunks h.counts
  refine ⟨?_, hfile.counts⟩
  unfold IssueTrace.addFile
  dsimp only
  rw [h.entities, hfile.entities]

theorem SameCounts.addCommit (id : CommitId) (h : SameCounts state state') :
    SameCounts (addCommit parser repo options state id)
      (addCommit parser repo options state' id) := by
  unfold IssueTrace.addCommit
  cases changesOf repo options id with
  | error failure => exact h.note failure
  | ok files => exact SameCounts.foldl (fun file hsame => hsame.addFile file) files h

/-- What the commits of an issue touch, and what is counted there, starts from the counts of the
journal. -/
theorem sameCounts_aggregateBy (commits : List CommitId) {journal journal' : Journal}
    (h : journal.counts = journal'.counts) :
    SameCounts (aggregateBy parser repo options commits journal)
      (aggregateBy parser repo options commits journal') :=
  SameCounts.foldl (fun id hsame => hsame.addCommit id) commits ⟨rfl, h⟩

end

end IssueTrace
