import IssueTrace.Proofs.Diff.HeaderRange
import IssueTrace.Proofs.Diff.LineFeeds
import IssueTrace.Proofs.Diff.Unified

/-!
# Hunks and their headers

Every header of a unified diff is that of a hunk of its script.  The header is read as the lines of
the new file that the hunk shows, and these are counted by the parts of the script: the lines before
the hunk, the unchanged ones at its edges, those between its changes, and those behind it.
-/

namespace IssueTrace.Diff

/-- The header is that of the hunk that shows these edits of a script. -/
structure Shows (context : Nat) (script : Script) (header : String)
    (before lead body trail after : Script) : Prop where
  script_eq : script = before ++ lead ++ body ++ trail ++ after
  isHunk : IsHunk context before lead body trail after
  header_eq : ∃ heading, header = (extentOf before (lead ++ body ++ trail)).text ++ heading

/-- Every header is that of a hunk. -/
theorem Cuts.exists_shows {context : Nat} {before rest : Script} {headers : List String}
    (h : Cuts context before rest headers) {header : String} (hheader : header ∈ headers) :
    ∃ front lead body trail after,
      Shows context (before ++ rest) header front lead body trail after := by
  induction h with
  | done _ => simp at hheader
  | @hunk before gap lead body trail rest heading headers _ hhunk _ ih =>
      rcases List.mem_cons.mp hheader with rfl | hlater
      · refine ⟨before ++ gap, lead, body, trail, rest, ?_, hhunk, heading, rfl⟩
        simp [List.append_assoc]
      · obtain ⟨front, lead', body', trail', after', hshows⟩ := ih hlater
        refine ⟨front, lead', body', trail', after', ?_⟩
        simpa [List.append_assoc] using hshows

/-- The header of the only hunk, if the edits around it are no changes, is a unified diff. -/
theorem Shows.isUnified {context : Nat} {script : Script} {header : String}
    {before lead body trail after : Script}
    (h : Shows context script header before lead body trail after)
    (hbefore : ∀ e ∈ before, e.isKept = true) (hafter : ∀ e ∈ after, e.isKept = true) :
    IsUnified context script [header] := by
  obtain ⟨rfl, hhunk, heading, rfl⟩ := h
  have hrest : Cuts context ([] ++ before ++ lead ++ body ++ trail) after [] := .done hafter
  exact .hunk hbefore hhunk hrest

/-! ## Counting lines -/

namespace Script.Rewrites

variable {script : Script} {old bytes : List UInt8}

/-- Where the new file ends with a line feed its lines are counted by the line feeds of its text. -/
theorem length_new (h : script.Rewrites old bytes) (hends : bytes.getLast? = some lineFeed) :
    script.new.length = ((Text.decodeLossy bytes).toList.filter (· == '\n')).length := by
  rw [h.new_eq, length_lines hends]

theorem length_new_lt (h : script.Rewrites old bytes) (hends : bytes.getLast? = some lineFeed)
    (hsize : bytes.length < maxLine) : script.new.length < maxLine := by
  rw [h.new_eq]
  exact Nat.lt_of_le_of_lt (length_lines_le hends) hsize

end Script.Rewrites

namespace IsHunk

variable {context : Nat} {before lead body trail after : Script}

theorem length_shown (h : IsHunk context before lead body trail after) :
    (Script.new (lead ++ body ++ trail)).length =
      lead.length + body.new.length + trail.length := by
  simp only [Script.new_append, List.length_append, Script.length_new_of_kept h.lead_kept,
    Script.length_new_of_kept h.trail_kept]

/-- The hunk shows no line of the new file if none of its parts has one. -/
theorem shown_eq_nil_iff (h : IsHunk context before lead body trail after) :
    Script.new (lead ++ body ++ trail) = [] ↔
      lead.length + body.new.length + trail.length = 0 := by
  rw [← List.length_eq_zero_iff, h.length_shown]

/-- Fewer unchanged lines stand before the changes only where no line comes before the hunk. -/
theorem lead_cut (h : IsHunk context before lead body trail after) :
    lead.length = context ∨ lead.length < context ∧ before.new.length = 0 := by
  rcases h.lead_length with hexact | ⟨hshort, rfl⟩
  · exact .inl hexact
  · exact .inr ⟨hshort, rfl⟩

/-- Fewer unchanged lines stand behind the changes only where no line follows the hunk. -/
theorem trail_cut (h : IsHunk context before lead body trail after) :
    trail.length = context ∨ trail.length < context ∧ after.new.length = 0 := by
  rcases h.trail_length with hexact | ⟨hshort, rfl⟩
  · exact .inl hexact
  · exact .inr ⟨hshort, rfl⟩

end IsHunk

namespace Shows

variable {context : Nat} {script : Script} {header : String}
  {before lead body trail after : Script}

theorem length_new (h : Shows context script header before lead body trail after) :
    script.new.length =
      before.new.length + lead.length + body.new.length + trail.length + after.new.length := by
  simp only [h.script_eq, Script.new_append, List.length_append,
    Script.length_new_of_kept h.isHunk.lead_kept, Script.length_new_of_kept h.isHunk.trail_kept]

/-- The header is read as the lines that the hunk shows, if the lines of the new file can be
numbered. -/
theorem parse?_header (h : Shows context script header before lead body trail after)
    (hfits : script.new.length < maxLine) :
    Hunk.parse? header =
      some ⟨firstLine before.new.length (lead.length + body.new.length + trail.length),
        lead.length + body.new.length + trail.length⟩ := by
  obtain ⟨heading, rfl⟩ := h.header_eq
  have hfirst : firstLine before.new.length (lead.length + body.new.length + trail.length) ≤
      before.new.length + 1 := by
    unfold firstLine
    split
    · omega
    · omega
  have hcount := h.length_new
  rw [parse?_text_append]
  simp only [extentOf, h.isHunk.length_shown]
  exact if_pos (by omega)

end Shows

end IssueTrace.Diff
