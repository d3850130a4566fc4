import IssueTrace.Proofs.Diff.Hunks

/-!
# Trimmed spans

The unchanged lines around a hunk are cut away by their number alone, except at the ends of the file.
Where a hunk has that number of unchanged lines at either edge, or fewer at an end of the file, the
bounds that remain are those of its changes, and at an end of the file that end.
-/

namespace IssueTrace

namespace LineSpan

/-- The line lies in the span. -/
def Contains (span : LineSpan) (line : Nat) : Prop :=
  span.start ≤ line ∧ line ≤ span.stop

theorem contains_ordered {a b line : Nat} :
    (ordered a b).Contains line ↔ a ≤ line ∧ line ≤ b ∨ b ≤ line ∧ line ≤ a := by
  unfold ordered Contains
  split
  · dsimp only
    omega
  · dsimp only
    omega

theorem ordered_start_le_stop (a b : Nat) : (ordered a b).start ≤ (ordered a b).stop := by
  unfold ordered
  split
  · assumption
  · dsimp only
    omega

theorem trimmed_start_le_stop (h : Hunk) (lineCount context : Nat) :
    (trimmed h lineCount context).start ≤ (trimmed h lineCount context).stop :=
  ordered_start_le_stop _ _

variable {context before lead changed trail behind : Nat}

/-- The bounds that remain when the unchanged lines at the edges are cut away.  Here `before` lines
come before the hunk, `lead` and `trail` of its lines are unchanged at its edges, and `behind` lines
follow it. -/
theorem trimmed_eq (hlead : lead = context ∨ lead < context ∧ before = 0)
    (htrail : trail = context ∨ trail < context ∧ behind = 0)
    (hfits : before + lead + changed + trail + behind < maxLine)
    (hshown : 0 < lead + changed + trail) :
    trimmed ⟨before + 1, lead + changed + trail⟩ (before + lead + changed + trail + behind)
        context =
      ordered (if before = 0 then 1 else before + lead + 1)
        (if behind = 0 then before + lead + changed + trail else before + lead + changed) := by
  have hlast : (Hunk.mk (before + 1) (lead + changed + trail)).last =
      before + lead + changed + trail := by
    simp only [Hunk.last, addLines]
    omega
  have hstart : (if 1 < before + 1 then addLines (before + 1) context else before + 1) =
      if before = 0 then 1 else before + lead + 1 := by
    by_cases hbefore : before = 0
    · rw [if_neg (by omega), if_pos hbefore, hbefore]
    · rw [if_pos (by omega), if_neg hbefore]
      simp only [addLines]
      omega
  have hstop :
      (if before + lead + changed + trail + behind = before + lead + changed + trail then
        before + lead + changed + trail
      else before + lead + changed + trail - context) =
        if behind = 0 then before + lead + changed + trail else before + lead + changed := by
    by_cases hbehind : behind = 0
    · rw [if_pos (by omega), if_pos hbehind]
    · rw [if_neg (by omega), if_neg hbehind]
      omega
  unfold trimmed
  dsimp only
  rw [hlast, hstart, hstop]

end LineSpan

/-! ## Hunks of a unified diff -/

namespace Diff.Shows

variable {context : Nat} {script : Script} {header : String}
  {before lead body trail after : Script}

/-- The span of a hunk that shows a line of the new file. -/
theorem trimmed_eq (h : Shows context script header before lead body trail after)
    (hfits : script.new.length < maxLine) (hshown : Script.new (lead ++ body ++ trail) ≠ [])
    {hunk : Hunk} (hparse : Hunk.parse? header = some hunk) :
    LineSpan.trimmed hunk script.new.length context =
      LineSpan.ordered
        (if before.new.length = 0 then 1 else before.new.length + lead.length + 1)
        (if after.new.length = 0 then
          before.new.length + lead.length + body.new.length + trail.length
        else before.new.length + lead.length + body.new.length) := by
  rw [ne_eq, h.isHunk.shown_eq_nil_iff] at hshown
  have hcount : 0 < lead.length + body.new.length + trail.length := Nat.pos_of_ne_zero hshown
  have hfirst : firstLine before.new.length (lead.length + body.new.length + trail.length) =
      before.new.length + 1 := if_neg (by omega)
  rw [h.parse?_header hfits, hfirst] at hparse
  obtain rfl := Option.some.inj hparse
  rw [h.length_new] at hfits ⊢
  exact LineSpan.trimmed_eq h.isHunk.lead_cut h.isHunk.trail_cut hfits hcount

/-- A line between the changes of a hunk lies in its span. -/
theorem contains_of_between (h : Shows context script header before lead body trail after)
    (hfits : script.new.length < maxLine) {hunk : Hunk} (hparse : Hunk.parse? header = some hunk)
    {line : Nat} (hafter : (Script.new (before ++ lead)).length < line)
    (hupto : line ≤ (Script.new (before ++ lead ++ body)).length) :
    (LineSpan.trimmed hunk script.new.length context).Contains line := by
  simp only [Script.new_append, List.length_append,
    Script.length_new_of_kept h.isHunk.lead_kept] at hafter hupto
  have hshown : Script.new (lead ++ body ++ trail) ≠ [] := by
    rw [ne_eq, h.isHunk.shown_eq_nil_iff]
    omega
  rw [h.trimmed_eq hfits hshown hparse, LineSpan.contains_ordered]
  left
  constructor
  · split <;> omega
  · split <;> omega

/-- The span of a hunk inside the file that leaves a line between its changes holds these lines and
no other. -/
theorem contains_iff_between (h : Shows context script header before lead body trail after)
    (hfits : script.new.length < maxLine) (hbefore : before.new ≠ []) (hafter : after.new ≠ [])
    (hbody : body.new ≠ []) {hunk : Hunk} (hparse : Hunk.parse? header = some hunk) {line : Nat} :
    (LineSpan.trimmed hunk script.new.length context).Contains line ↔
      (Script.new (before ++ lead)).length < line ∧
        line ≤ (Script.new (before ++ lead ++ body)).length := by
  have hshown : Script.new (lead ++ body ++ trail) ≠ [] := by
    simp only [Script.new_append]
    simp [hbody]
  have hlines : 0 < body.new.length := List.length_pos_of_ne_nil hbody
  rw [h.trimmed_eq hfits hshown hparse, if_neg (List.length_pos_of_ne_nil hbefore).ne',
    if_neg (List.length_pos_of_ne_nil hafter).ne', LineSpan.contains_ordered]
  simp only [Script.new_append, List.length_append,
    Script.length_new_of_kept h.isHunk.lead_kept]
  omega

end Diff.Shows

end IssueTrace
