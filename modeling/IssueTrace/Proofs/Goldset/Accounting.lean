import IssueTrace.History.Store
import IssueTrace.Proofs.Goldset.Aggregation
import IssueTrace.Repository.Memory
import Mathlib.Algebra.BigOperators.Group.List.Basic
import Mathlib.Algebra.GroupWithZero.Nat

/-!
# What the counts of a run account for

Every commit that cannot be compared and every changed file of the others is counted exactly once:
as a file that was resolved, or by the failure that ended its work.  Headers that cannot be read are
counted beside that, in the files that were resolved, and so are the files that only the second
dialect takes.  Every failure that is counted writes one line of the log.
-/

namespace IssueTrace

open Source (Outline Parser readOutlineBy)

/-! ## Failures of a repository -/

/-- Whether a failure is about a hunk header. -/
def Failure.IsMalformedHunk : Failure → Prop
  | .malformedHunk .. => True
  | _ => False

/-- A repository does not read hunk headers, so none of its failures is about one. -/
structure Repository.ReadsNoHeaders (repo : Repository) : Prop where
  commit : ∀ id failure, repo.commit id = .error failure → ¬ failure.IsMalformedHunk
  content : ∀ id path failure, repo.content id path = .error failure → ¬ failure.IsMalformedHunk
  changes : ∀ parent id ending context failure,
    repo.changes parent id ending context = .error failure → ¬ failure.IsMalformedHunk

theorem MemoryRepository.readsNoHeaders (r : MemoryRepository) :
    r.toRepository.ReadsNoHeaders where
  commit id failure h := by
    dsimp only [toRepository] at h
    split at h
    · cases h
    · obtain rfl := Except.error.inj h
      simp [Failure.IsMalformedHunk]
  content id path failure h := by
    dsimp only [toRepository] at h
    split at h
    · cases h
    · obtain rfl := Except.error.inj h
      simp [Failure.IsMalformedHunk]
  changes parent id ending context failure h := by
    cases h

namespace History

theorem not_isMalformedHunk_of_record {h : History} {id : CommitId} {failure : Failure}
    (hrecord : h.record id = .error failure) : ¬ failure.IsMalformedHunk := by
  unfold record at hrecord
  split at hrecord
  · cases hrecord
  · obtain rfl := Except.error.inj hrecord
    simp [Failure.IsMalformedHunk]

theorem readsNoHeaders (h : History) : h.toRepository.ReadsNoHeaders where
  commit id failure hfail := by
    dsimp only [toRepository] at hfail
    cases hrecord : h.record id with
    | ok r => simp [hrecord, Except.map] at hfail
    | error own =>
        obtain rfl : own = failure := by simpa [hrecord, Except.map] using hfail
        exact not_isMalformedHunk_of_record hrecord
  content id path failure hfail := by
    dsimp only [toRepository] at hfail
    cases hrecord : h.record id with
    | error own =>
        obtain rfl : own = failure := by simpa [hrecord, bind, Except.bind] using hfail
        exact not_isMalformedHunk_of_record hrecord
    | ok r =>
        simp only [hrecord, bind, Except.bind] at hfail
        split at hfail
        · cases hfail
        · obtain rfl := Except.error.inj hfail
          simp [Failure.IsMalformedHunk]
  changes parent id ending context failure hfail := by
    dsimp only [toRepository] at hfail
    cases hold : h.record parent with
    | error own =>
        obtain rfl : own = failure := by simpa [hold, bind, Except.bind] using hfail
        exact not_isMalformedHunk_of_record hold
    | ok old =>
        cases hnew : h.record id with
        | error own =>
            obtain rfl : own = failure := by simpa [hold, hnew, bind, Except.bind] using hfail
            exact not_isMalformedHunk_of_record hnew
        | ok new => simp [hold, hnew, bind, Except.bind, pure, Except.pure] at hfail

end History

/-! ## Counts -/

namespace Diagnostics

/-- How many files and commits are done with, one way or the other. -/
def settled (d : Diagnostics) : Nat :=
  d.filesResolved + d.parseFailures + d.missingContent + d.unpackagedFiles + d.rootlessCommits
    + d.otherErrors

end Diagnostics

/-- The counts that a run is measured by. -/
inductive Gauge where
  | settled
  | resolved
  | malformed
  | fallbacks
  deriving DecidableEq

/-- What a gauge shows. -/
def Diagnostics.gauge (d : Diagnostics) : Gauge → Nat
  | .settled => d.settled
  | .resolved => d.filesResolved
  | .malformed => d.malformedHunks
  | .fallbacks => d.dialectFallbacks

theorem Diagnostics.gauge_count {failure : Failure} (h : ¬ failure.IsMalformedHunk)
    (d : Diagnostics) (g : Gauge) :
    (d.count failure).gauge g = d.gauge g + if g = .settled then 1 else 0 := by
  cases failure with
  | malformedHunk commit path fragment => exact absurd trivial h
  | _ =>
      cases g with
      | settled =>
          simp only [count, gauge, settled, if_true]
          omega
      | _ => rfl

theorem Diagnostics.gauge_count_malformedHunk (d : Diagnostics) (commit : CommitId)
    (path fragment : String) (g : Gauge) :
    (d.count (.malformedHunk commit path fragment)).gauge g =
      d.gauge g + if g = .malformed then 1 else 0 := by
  cases g with
  | malformed => rfl
  | _ => rfl

theorem Diagnostics.warnings_count (d : Diagnostics) (failure : Failure) :
    (d.count failure).warnings = d.warnings + 1 := by
  cases failure with
  | _ =>
      simp only [count, warnings]
      omega

@[simp]
theorem Journal.counts_note (j : Journal) (failure : Failure) :
    (j.note failure).counts = j.counts.count failure := rfl

/-- A loop that adds to a gauge at every step, whatever its state, adds the sum. -/
theorem gauge_foldl {α : Type} {step : Entities × Journal → α → Entities × Journal}
    {share : α → Gauge → Nat}
    (hstep : ∀ state a g, (step state a).2.counts.gauge g = state.2.counts.gauge g + share a g)
    (xs : List α) (state : Entities × Journal) (g : Gauge) :
    (xs.foldl step state).2.counts.gauge g =
      state.2.counts.gauge g + (xs.map (share · g)).sum := by
  induction xs generalizing state with
  | nil => simp
  | cons a xs ih => rw [List.foldl_cons, ih, hstep, List.map_cons, List.sum_cons, Nat.add_assoc]

section

variable {parser : Parser} {repo : Repository} {options : ResolverOptions} {id : CommitId}
  {path : String}

/-! ## One file -/

theorem not_isMalformedHunk_of_readFile (hrepo : repo.ReadsNoHeaders) {failure : Failure}
    (h : readFile parser repo options id path = .error failure) : ¬ failure.IsMalformedHunk := by
  unfold readFile at h
  cases hname : qualify repo options id path with
  | error own =>
      obtain rfl : own = failure := by simpa [hname, bind, Except.bind] using h
      unfold qualify at hname
      dsimp only at hname
      split at hname
      · cases hname
      · obtain rfl := Except.error.inj hname
        simp [Failure.IsMalformedHunk]
  | ok name =>
      cases htext : repo.content id path with
      | error own =>
          obtain rfl : own = failure := by simpa [hname, htext, bind, Except.bind] using h
          exact hrepo.content id path own htext
      | ok text =>
          cases houtline : readOutlineBy parser text (originOf id path) with
          | ok outline =>
              simp [hname, htext, houtline, bind, Except.bind, pure, Except.pure] at h
          | error own =>
              obtain rfl : own = failure := by
                simpa [hname, htext, houtline, bind, Except.bind] using h
              unfold readOutlineBy at houtline
              cases htree : Outline.ofTree text (parser text) with
              | ok outline => simp [htree, Except.mapError] at houtline
              | error refusals =>
                  obtain rfl : _ = own := by simpa [htree, Except.mapError] using houtline
                  simp [Failure.IsMalformedHunk]

/-- How many headers give no range. -/
def malformedCount (headers : List String) : Nat := headers.countP fun h => (Hunk.parse? h).isNone

/-- What a file that was read adds to the gauges. -/
def readShare (outline : Outline) (headers : List String) : Gauge → Nat
  | .settled => 1
  | .resolved => 1
  | .malformed => malformedCount headers
  | .fallbacks => if outline.dialect = .modern then 1 else 0

theorem gauge_foldl_addHunk (options : ResolverOptions) (id : CommitId) (path : String)
    (outline : Outline) (headers : List String) (state : Entities × Journal) (g : Gauge) :
    (headers.foldl (addHunk options id path outline) state).2.counts.gauge g =
      state.2.counts.gauge g + if g = .malformed then malformedCount headers else 0 := by
  induction headers generalizing state with
  | nil => simp [malformedCount]
  | cons header headers ih =>
      rw [List.foldl_cons, ih]
      unfold addHunk malformedCount
      cases hparse : Hunk.parse? header with
      | some hunk => simp [hparse]
      | none =>
          rw [List.countP_cons, hparse]
          dsimp only
          rw [Journal.counts_note, Diagnostics.gauge_count_malformedHunk]
          split
          · simp only [Option.isNone_none, if_true]
            omega
          · rfl

/-- What a changed file of a commit adds to the gauges. -/
def fileShare (parser : Parser) (repo : Repository) (options : ResolverOptions) (id : CommitId)
    (file : FileChange) (g : Gauge) : Nat :=
  match readFile parser repo options id file.path with
  | .error _ => if g = .settled then 1 else 0
  | .ok (_, outline) => readShare outline file.hunks g

theorem gauge_resolveBy (hrepo : repo.ReadsNoHeaders) (file : FileChange) (journal : Journal)
    (g : Gauge) :
    (resolveBy parser repo options id file.path file.hunks journal).2.counts.gauge g =
      journal.counts.gauge g + fileShare parser repo options id file g := by
  unfold resolveBy fileShare
  cases hread : readFile parser repo options id file.path with
  | error failure =>
      exact Diagnostics.gauge_count (not_isMalformedHunk_of_readFile hrepo hread) journal.counts g
  | ok found =>
      obtain ⟨name, outline⟩ := found
      dsimp only
      have hloop := gauge_foldl_addHunk options id file.path outline file.hunks
        ({}, { journal with counts := { journal.counts with
          dialectFallbacks := journal.counts.dialectFallbacks +
            if outline.dialect = .legacy then 0 else 1 } }) g
      cases g with
      | settled =>
          simp only [Diagnostics.gauge, Diagnostics.settled, readShare, reduceCtorEq,
            if_false] at hloop ⊢
          omega
      | resolved =>
          simp only [Diagnostics.gauge, readShare, reduceCtorEq, if_false] at hloop ⊢
          omega
      | malformed => simpa only [Diagnostics.gauge, readShare, if_true] using hloop
      | fallbacks =>
          simp only [Diagnostics.gauge, readShare, reduceCtorEq, if_false] at hloop ⊢
          rw [hloop, Nat.add_zero]
          cases outline.dialect with
          | legacy => rfl
          | modern => rfl

/-! ## One commit -/

theorem gauge_addFile (hrepo : repo.ReadsNoHeaders) (state : Entities × Journal)
    (file : FileChange) (g : Gauge) :
    (addFile parser repo options id state file).2.counts.gauge g =
      state.2.counts.gauge g + fileShare parser repo options id file g :=
  gauge_resolveBy hrepo file state.2 g

/-- What a commit adds to the gauges. -/
def commitShare (parser : Parser) (repo : Repository) (options : ResolverOptions) (id : CommitId)
    (g : Gauge) : Nat :=
  match changesOf repo options id with
  | .error _ => if g = .settled then 1 else 0
  | .ok files => (files.map (fileShare parser repo options id · g)).sum

theorem not_isMalformedHunk_of_changesOf (hrepo : repo.ReadsNoHeaders) {failure : Failure}
    (h : changesOf repo options id = .error failure) : ¬ failure.IsMalformedHunk := by
  unfold changesOf at h
  cases hcommit : repo.commit id with
  | error own =>
      obtain rfl : own = failure := by simpa [hcommit, bind, Except.bind] using h
      exact hrepo.commit id own hcommit
  | ok commit =>
      simp only [hcommit, bind, Except.bind] at h
      split at h
      · obtain rfl := Except.error.inj h
        simp [Failure.IsMalformedHunk]
      · exact hrepo.changes _ _ _ _ failure h

theorem gauge_addCommit (hrepo : repo.ReadsNoHeaders) (state : Entities × Journal) (id : CommitId)
    (g : Gauge) :
    (addCommit parser repo options state id).2.counts.gauge g =
      state.2.counts.gauge g + commitShare parser repo options id g := by
  unfold addCommit commitShare
  cases hchanges : changesOf repo options id with
  | error failure =>
      exact Diagnostics.gauge_count (not_isMalformedHunk_of_changesOf hrepo hchanges)
        state.2.counts g
  | ok files => exact gauge_foldl (gauge_addFile hrepo) files state g

/-! ## The log -/

/-- What was written to the log is one line for each failure that was counted. -/
def LogsWhatItCounts (before after : Journal) : Prop :=
  ∃ lines, after.log = before.log ++ lines ∧
    after.counts.warnings = before.counts.warnings + lines.length

theorem LogsWhatItCounts.refl (j : Journal) : LogsWhatItCounts j j := ⟨[], by simp, rfl⟩

theorem LogsWhatItCounts.trans {j₁ j₂ j₃ : Journal} (h : LogsWhatItCounts j₁ j₂)
    (h' : LogsWhatItCounts j₂ j₃) : LogsWhatItCounts j₁ j₃ := by
  obtain ⟨lines, hlog, hcount⟩ := h
  obtain ⟨lines', hlog', hcount'⟩ := h'
  refine ⟨lines ++ lines', ?_, ?_⟩
  · rw [hlog', hlog, List.append_assoc]
  · rw [hcount', hcount, List.length_append]
    omega

theorem logsWhatItCounts_note (j : Journal) (failure : Failure) :
    LogsWhatItCounts j (j.note failure) :=
  ⟨_, rfl, Diagnostics.warnings_count j.counts failure⟩

/-- A loop that logs what it counts at every step does so as a whole. -/
theorem LogsWhatItCounts.foldl {α : Type} {step : Entities × Journal → α → Entities × Journal}
    (hstep : ∀ state a, LogsWhatItCounts state.2 (step state a).2) (xs : List α)
    (state : Entities × Journal) : LogsWhatItCounts state.2 (xs.foldl step state).2 := by
  induction xs generalizing state with
  | nil => exact .refl state.2
  | cons a xs ih => exact (hstep state a).trans (ih (step state a))

theorem logsWhatItCounts_addHunk (outline : Outline) (state : Entities × Journal)
    (header : String) :
    LogsWhatItCounts state.2 (addHunk options id path outline state header).2 := by
  unfold addHunk
  split
  · exact .refl state.2
  · exact logsWhatItCounts_note state.2 _

theorem logsWhatItCounts_resolveBy (headers : List String) (journal : Journal) :
    LogsWhatItCounts journal (resolveBy parser repo options id path headers journal).2 := by
  unfold resolveBy
  split
  · exact logsWhatItCounts_note journal _
  · exact LogsWhatItCounts.foldl (logsWhatItCounts_addHunk _) headers ({}, { journal with
      counts := { journal.counts with dialectFallbacks := _ } })

theorem logsWhatItCounts_addCommit (state : Entities × Journal) (id : CommitId) :
    LogsWhatItCounts state.2 (addCommit parser repo options state id).2 := by
  unfold addCommit
  split
  · exact logsWhatItCounts_note state.2 _
  · rename_i files _
    refine LogsWhatItCounts.foldl ?_ files state
    intro state file
    exact logsWhatItCounts_resolveBy file.hunks state.2

/-! ## The commits of an issue -/

/-- The files that a commit changes, none if it cannot be compared. -/
def filesOf (repo : Repository) (options : ResolverOptions) (id : CommitId) : List FileChange :=
  match changesOf repo options id with
  | .error _ => []
  | .ok files => files

/-- The changed files of a commit that can be read, with their outlines. -/
def readFilesOf (parser : Parser) (repo : Repository) (options : ResolverOptions) (id : CommitId) :
    List (FileChange × Outline) :=
  (filesOf repo options id).filterMap fun file =>
    match readFile parser repo options id file.path with
    | .error _ => none
    | .ok (_, outline) => some (file, outline)

/-- The changed files of commits that can be read, with their outlines. -/
def readFiles (parser : Parser) (repo : Repository) (options : ResolverOptions)
    (commits : List CommitId) : List (FileChange × Outline) :=
  commits.flatMap (readFilesOf parser repo options)

theorem sum_map_ite_one {α : Type} (p : α → Prop) [DecidablePred p] (xs : List α) :
    (xs.map fun a => if p a then 1 else 0).sum = xs.countP (p ·) := by
  induction xs with
  | nil => rfl
  | cons a xs ih =>
      rw [List.map_cons, List.sum_cons, List.countP_cons, ih, Nat.add_comm]
      simp only [decide_eq_true_eq]

theorem commitShare_settled (id : CommitId) :
    commitShare parser repo options id .settled =
      (if Undiffable repo options id then 1 else 0) + (filesOf repo options id).length := by
  have hfile : ∀ file, fileShare parser repo options id file .settled = 1 := by
    intro file
    unfold fileShare
    split
    · rfl
    · rfl
  unfold commitShare filesOf
  cases hchanges : changesOf repo options id with
  | error failure => rw [if_pos (undiffable_iff.mpr ⟨failure, hchanges⟩)]; rfl
  | ok files =>
      have hdiffable : ¬ Undiffable repo options id := by
        intro h
        obtain ⟨failure, hfailure⟩ := undiffable_iff.mp h
        rw [hchanges] at hfailure
        cases hfailure
      simp [hfile, hdiffable]

theorem commitShare_of_ne_settled {g : Gauge} (hg : g ≠ .settled) (id : CommitId) :
    commitShare parser repo options id g =
      ((readFilesOf parser repo options id).map fun f => readShare f.2 f.1.hunks g).sum := by
  unfold commitShare readFilesOf filesOf
  cases changesOf repo options id with
  | error failure => simp [hg]
  | ok files =>
      induction files with
      | nil => rfl
      | cons file files ih =>
          dsimp only at ih ⊢
          rw [List.map_cons, List.sum_cons, ih, List.filterMap_cons, fileShare]
          cases readFile parser repo options id file.path with
          | error failure => simp [hg]
          | ok found => simp

theorem sum_map_commitShare {g : Gauge} (hg : g ≠ .settled) (commits : List CommitId) :
    (commits.map (commitShare parser repo options · g)).sum =
      ((readFiles parser repo options commits).map fun f => readShare f.2 f.1.hunks g).sum := by
  unfold readFiles
  induction commits with
  | nil => rfl
  | cons id commits ih =>
      rw [List.map_cons, List.sum_cons, ih, commitShare_of_ne_settled hg, List.flatMap_cons,
        List.map_append, List.sum_append]

theorem gauge_aggregateBy (hrepo : repo.ReadsNoHeaders) (commits : List CommitId)
    (journal : Journal) (g : Gauge) :
    (aggregateBy parser repo options commits journal).2.counts.gauge g =
      journal.counts.gauge g + (commits.map (commitShare parser repo options · g)).sum :=
  gauge_foldl (gauge_addCommit hrepo) commits ({}, journal) g

/-- How the counts and the log after a run over commits differ from those before. -/
structure Accounts (parser : Parser) (repo : Repository) (options : ResolverOptions)
    (commits : List CommitId) (before after : Journal) : Prop where
  /-- Each commit that cannot be compared and each changed file of the others is settled once. -/
  settled : after.counts.settled = before.counts.settled +
    (commits.countP (Undiffable repo options ·) +
      (commits.map fun id => (filesOf repo options id).length).sum)
  filesResolved : after.counts.filesResolved =
    before.counts.filesResolved + (readFiles parser repo options commits).length
  malformedHunks : after.counts.malformedHunks = before.counts.malformedHunks +
    ((readFiles parser repo options commits).map fun f => malformedCount f.1.hunks).sum
  dialectFallbacks : after.counts.dialectFallbacks = before.counts.dialectFallbacks +
    (readFiles parser repo options commits).countP (·.2.dialect = .modern)
  fallbacks_le : after.counts.dialectFallbacks + before.counts.filesResolved ≤
    after.counts.filesResolved + before.counts.dialectFallbacks
  log : LogsWhatItCounts before after

/-- The repositories in memory and those with a history never blame a hunk header.  With any such
repository a run over the commits of an issue accounts for each of them and for each of their
files exactly once. -/
theorem aggregateBy_accounts :
    (∀ r : MemoryRepository, r.toRepository.ReadsNoHeaders) ∧
    (∀ h : History, h.toRepository.ReadsNoHeaders) ∧
    ∀ (parser : Parser) (repo : Repository) (options : ResolverOptions) (commits : List CommitId)
      (journal : Journal), repo.ReadsNoHeaders →
      Accounts parser repo options commits journal
        (aggregateBy parser repo options commits journal).2 := by
  refine ⟨MemoryRepository.readsNoHeaders, History.readsNoHeaders, ?_⟩
  intro parser repo options commits journal hrepo
  let after := (aggregateBy parser repo options commits journal).2
  have hgauge : ∀ g, after.counts.gauge g =
      journal.counts.gauge g + (commits.map (commitShare parser repo options · g)).sum :=
    gauge_aggregateBy hrepo commits journal
  have hresolved : after.counts.filesResolved =
      journal.counts.filesResolved + (readFiles parser repo options commits).length := by
    have hsum := hgauge .resolved
    rw [sum_map_commitShare (by decide)] at hsum
    simpa [Diagnostics.gauge, readShare] using hsum
  have hfallbacks : after.counts.dialectFallbacks = journal.counts.dialectFallbacks +
      (readFiles parser repo options commits).countP (·.2.dialect = .modern) := by
    have hsum := hgauge .fallbacks
    rw [sum_map_commitShare (by decide)] at hsum
    rw [← sum_map_ite_one]
    exact hsum
  constructor
  · have hsum := hgauge .settled
    simp only [commitShare_settled, List.sum_map_add, sum_map_ite_one] at hsum
    exact hsum
  · exact hresolved
  · have hsum := hgauge .malformed
    rw [sum_map_commitShare (by decide)] at hsum
    exact hsum
  · exact hfallbacks
  · have hle := List.countP_le_length (p := (·.2.dialect = .modern))
      (l := readFiles parser repo options commits)
    change after.counts.dialectFallbacks + _ ≤ after.counts.filesResolved + _
    omega
  · exact LogsWhatItCounts.foldl logsWhatItCounts_addCommit commits ({}, journal)

end

/-- Two files of the sample and an unknown commit are three units of work, of which one file is
outside of every package and the commit is not found. -/
theorem aggregateBy_accounts_of_unknown :
    Sample.repository.ReadsNoHeaders ∧
      (aggregateBy Sample.parser Sample.repository { contextLines := 0 }
        [Sample.commit, ⟨"2"⟩] {}).2.counts.settled = 3 := by
  have hrepo : Sample.repository.ReadsNoHeaders := by
    constructor
    · intro id failure h
      dsimp only [Sample.repository] at h
      split at h
      · cases h
      · obtain rfl := Except.error.inj h
        simp [Failure.IsMalformedHunk]
    · intro id path failure h
      dsimp only [Sample.repository] at h
      split at h
      · cases h
      · obtain rfl := Except.error.inj h
        simp [Failure.IsMalformedHunk]
    · intro parent id ending context failure h
      cases h
  obtain ⟨-, -, haccounts⟩ := aggregateBy_accounts
  have hsettled := (haccounts Sample.parser Sample.repository { contextLines := 0 }
    [Sample.commit, ⟨"2"⟩] {} hrepo).settled
  have hunits : [Sample.commit, ⟨"2"⟩].countP
        (fun id => Undiffable Sample.repository { contextLines := 0 } id) +
      ([Sample.commit, ⟨"2"⟩].map fun id =>
        (filesOf Sample.repository { contextLines := 0 } id).length).sum = 3 := by
    decide +kernel
  rw [hunits] at hsettled
  exact ⟨hrepo, hsettled⟩

end IssueTrace
