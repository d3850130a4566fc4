import IssueTrace.Failure

/-!
# Diagnostics

A run does not stop at a failure that concerns one hunk, file or commit: the failure is counted by
its kind and noted in the log, and the run goes on.
-/

namespace IssueTrace

/-- How often each kind of failure was met in a run, and how many files went through. -/
structure Diagnostics where
  filesResolved : Nat := 0
  dialectFallbacks : Nat := 0
  parseFailures : Nat := 0
  missingContent : Nat := 0
  malformedHunks : Nat := 0
  unpackagedFiles : Nat := 0
  rootlessCommits : Nat := 0
  otherErrors : Nat := 0
  deriving DecidableEq, Repr, Inhabited

namespace Diagnostics

def count (d : Diagnostics) : Failure → Diagnostics
  | .parseFailure .. => { d with parseFailures := d.parseFailures + 1 }
  | .contentNotFound .. => { d with missingContent := d.missingContent + 1 }
  | .malformedHunk .. => { d with malformedHunks := d.malformedHunks + 1 }
  | .noPackageResolved .. => { d with unpackagedFiles := d.unpackagedFiles + 1 }
  | .rootlessCommit .. => { d with rootlessCommits := d.rootlessCommits + 1 }
  | .git _ | .io _ | .grammar _ | .invalidConfig _ => { d with otherErrors := d.otherErrors + 1 }

/-- How many failures were counted. -/
def warnings (d : Diagnostics) : Nat :=
  d.parseFailures + d.missingContent + d.malformedHunks + d.unpackagedFiles + d.rootlessCommits
    + d.otherErrors

end Diagnostics

/-- How grave a line of the log is. -/
inductive Severity where
  | warning
  | error
  deriving DecidableEq, Repr, Inhabited

structure LogLine where
  severity : Severity
  text : String
  deriving DecidableEq, Repr, Inhabited

/-- What a run keeps beside its result: the counts, and the log in the order it was written. -/
structure Journal where
  counts : Diagnostics := {}
  log : List LogLine := []
  deriving DecidableEq, Repr, Inhabited

namespace Journal

/-- Notes a failure: a warning if it concerns one hunk, file or commit, and an error otherwise. -/
def note (j : Journal) (f : Failure) : Journal :=
  { counts := j.counts.count f
    log := j.log ++ [⟨if f.isRecoverable then .warning else .error, f.message⟩] }

/-- Writes a warning that is not counted. -/
def warn (j : Journal) (text : String) : Journal :=
  { j with log := j.log ++ [⟨.warning, text⟩] }

end Journal

end IssueTrace
