import IssueTrace.Diff.Header
import IssueTrace.Diff.Lines
import Mathlib.Data.List.Basic

/-!
# Unified diffs

What it means for headers to be those of a unified diff of two files, whichever way the diff was
found.  An edit script turns the old lines into the new ones.  Hunks cut it: each shows a stretch of
edits from one change to another with a fixed number of unchanged lines at either edge, fewer only
where the script itself ends, and what no hunk shows is unchanged.
-/

namespace IssueTrace.Diff

/-- What becomes of one line. -/
inductive Edit where
  | keep (line : Line)
  | delete (line : Line)
  | add (line : Line)
  deriving DecidableEq, Repr

namespace Edit

def isKept : Edit → Bool
  | keep _ => true
  | _ => false

def old? : Edit → Option Line
  | keep line => some line
  | delete line => some line
  | add _ => none

def new? : Edit → Option Line
  | keep line => some line
  | delete _ => none
  | add line => some line

end Edit

/-- The edits of a file from its first line to its last. -/
abbrev Script := List Edit

namespace Script

/-- The lines before the edits. -/
def old (es : Script) : List Line := es.filterMap Edit.old?

/-- The lines after the edits. -/
def new (es : Script) : List Line := es.filterMap Edit.new?

/-- The script turns one file into the other. -/
structure Rewrites (es : Script) (before after : List UInt8) : Prop where
  old_eq : es.old = lines before
  new_eq : es.new = lines after

/-- The script adds the line of the new file with that number, counted from one. -/
def AddsLine (es : Script) (number : Nat) : Prop :=
  ∃ front line back, es = front ++ Edit.add line :: back ∧ number = (new front).length + 1

@[simp]
theorem new_append (es fs : Script) : new (es ++ fs) = new es ++ new fs :=
  List.filterMap_append

@[simp]
theorem new_cons_add (line : Line) (es : Script) : new (Edit.add line :: es) = line :: new es :=
  rfl

@[simp]
theorem new_cons_keep (line : Line) (es : Script) : new (Edit.keep line :: es) = line :: new es :=
  rfl

@[simp]
theorem new_cons_delete (line : Line) (es : Script) : new (Edit.delete line :: es) = new es :=
  rfl

theorem not_isKept_add (line : Line) : ¬ (Edit.add line).isKept = true :=
  Bool.false_ne_true

theorem length_new_of_kept {es : Script} (h : ∀ e ∈ es, e.isKept = true) :
    (new es).length = es.length := by
  apply List.filterMap_length_eq_length.mpr
  intro e he
  have hkept := h e he
  cases e with
  | keep line => rfl
  | delete line => cases hkept
  | add line => cases hkept

end Script

/-- A hunk in a script: its changes reach from the first to the last edit of `body`, and the lines
around them are unchanged.  There are `context` of them at either edge, unless the script ends
before. -/
structure IsHunk (context : Nat) (before lead body trail after : Script) : Prop where
  lead_kept : ∀ e ∈ lead, e.isKept = true
  trail_kept : ∀ e ∈ trail, e.isKept = true
  first_changed : ∃ e, body.head? = some e ∧ e.isKept = false
  last_changed : ∃ e, body.getLast? = some e ∧ e.isKept = false
  lead_length : lead.length = context ∨ lead.length < context ∧ before = []
  trail_length : trail.length = context ∨ trail.length < context ∧ after = []

/-- The lines that a hunk shows of both files. -/
def extentOf (before shown : Script) : Extent where
  oldStart := before.old.length
  oldCount := shown.old.length
  newStart := before.new.length
  newCount := shown.new.length

/-- The headers are those of hunks that cut what is left of a script, given the edits before.  A
heading may stand behind the ranges of a header. -/
inductive Cuts (context : Nat) : Script → Script → List String → Prop
  | done {before rest : Script} :
      (∀ e ∈ rest, e.isKept = true) →
      Cuts context before rest []
  | hunk {before gap lead body trail rest : Script} {heading : String} {headers : List String} :
      (∀ e ∈ gap, e.isKept = true) →
      IsHunk context (before ++ gap) lead body trail rest →
      Cuts context (before ++ gap ++ lead ++ body ++ trail) rest headers →
      Cuts context before (gap ++ lead ++ body ++ trail ++ rest)
        (((extentOf (before ++ gap) (lead ++ body ++ trail)).text ++ heading) :: headers)

/-- The headers are those of a unified diff that follows the script. -/
def IsUnified (context : Nat) (script : Script) (headers : List String) : Prop :=
  Cuts context [] script headers

/-! ## Where a hunk shows an added line -/

theorem append_eq_append_cons_cases {α : Type} {xs ys front back : List α} {a : α}
    (h : xs ++ ys = front ++ a :: back) :
    (∃ front', front = xs ++ front' ∧ ys = front' ++ a :: back) ∨
      ∃ back', xs = front ++ a :: back' := by
  rcases List.append_eq_append_iff.mp h with ⟨front', hfront, hys⟩ | ⟨cut, hxs, hcut⟩
  · exact .inl ⟨front', hfront, hys⟩
  · cases cut with
    | nil => exact .inl ⟨[], by simpa using hxs.symm, by simpa using hcut.symm⟩
    | cons b cut =>
        obtain ⟨rfl, -⟩ := List.cons_eq_cons.mp hcut
        exact .inr ⟨cut, hxs⟩

/-- An added line stands behind lines that are kept. -/
theorem exists_eq_append_of_kept {xs ys front back : Script} {line : Line}
    (hxs : ∀ e ∈ xs, e.isKept = true) (h : xs ++ ys = front ++ Edit.add line :: back) :
    ∃ front', front = xs ++ front' ∧ ys = front' ++ Edit.add line :: back := by
  rcases append_eq_append_cons_cases h with hbehind | ⟨back', hamong⟩
  · exact hbehind
  · have hadd := hxs (Edit.add line) (by simp [hamong])
    exact absurd hadd (Script.not_isKept_add line)

/-- The header of a hunk that shows the line of that number among its changes. -/
def ShowsChange (context : Nat) (script : Script) (header : String) (number : Nat) : Prop :=
  ∃ before lead body trail after heading,
    script = before ++ lead ++ body ++ trail ++ after ∧
    IsHunk context before lead body trail after ∧
    header = (extentOf before (lead ++ body ++ trail)).text ++ heading ∧
    (Script.new (before ++ lead)).length < number ∧
    number ≤ (Script.new (before ++ lead ++ body)).length

/-- Every line that a script adds is shown among the changes of a hunk. -/
theorem Cuts.exists_showsChange {context : Nat} {before rest : Script} {headers : List String}
    (h : Cuts context before rest headers) {front back : Script} {line : Line}
    (hadd : rest = front ++ Edit.add line :: back) :
    ∃ header ∈ headers,
      ShowsChange context (before ++ rest) header ((Script.new (before ++ front)).length + 1) := by
  induction h generalizing front with
  | done hkept =>
      have hmem : Edit.add line ∈ front ++ Edit.add line :: back := by simp
      rw [← hadd] at hmem
      exact absurd (hkept _ hmem) (Script.not_isKept_add line)
  | @hunk before gap lead body trail rest heading headers hgap hhunk hcuts ih =>
      have hlead : ∀ e ∈ gap ++ lead, e.isKept = true := by
        intro e he
        rcases List.mem_append.mp he with he | he
        · exact hgap e he
        · exact hhunk.lead_kept e he
      have hsplit :
          (gap ++ lead) ++ (body ++ (trail ++ rest)) = front ++ Edit.add line :: back := by
        simpa [List.append_assoc] using hadd
      obtain ⟨front₁, rfl, hfront₁⟩ := exists_eq_append_of_kept hlead hsplit
      rcases append_eq_append_cons_cases hfront₁ with ⟨front₂, rfl, hrest⟩ | ⟨back', hbody⟩
      · obtain ⟨front₃, rfl, hrest'⟩ := exists_eq_append_of_kept hhunk.trail_kept hrest
        obtain ⟨header, hheader, hshows⟩ := ih hrest'
        refine ⟨header, List.mem_cons_of_mem _ hheader, ?_⟩
        simpa [List.append_assoc] using hshows
      · refine ⟨_, List.mem_cons_self, before ++ gap, lead, body, trail, rest, heading,
          ?_, hhunk, rfl, ?_, ?_⟩
        · simp [List.append_assoc]
        · simp only [Script.new_append, List.length_append]
          omega
        · simp only [hbody, Script.new_append, Script.new_cons_add, List.length_append,
            List.length_cons]
          omega

end IssueTrace.Diff
