import IssueTrace.Proofs.Attribution.Trimming

/-!
# Deleted lines and their neighbours

Deleted lines have no number in the new file, only the lines before and behind them have.  Where
trimming takes all lines of a hunk away its bounds cross, and the span consists of just these two
neighbours.  Where lines remain, they are what lies between the changes and what reaches to an end of
the file: the line before the first deletion and the line behind the last one are unchanged lines at
the edges, and are cut away with the others unless the hunk stands at that end of the file.
-/

namespace IssueTrace

open Diff (Script Edit Shows)

namespace LineSpan

variable {before lead changed trail behind front : Nat}

/-- When the line before a deletion is left by trimming.  Of the lines between the changes of the hunk
`front` stand before the deletion. -/
theorem contains_line_before (hfront : front ≤ changed) (hexists : 0 < before + lead + front) :
    (ordered (if before = 0 then 1 else before + lead + 1)
      (if behind = 0 then before + lead + changed + trail else before + lead + changed)).Contains
        (before + lead + front) ↔
      front ≠ 0 ∨ before = 0 ∨
        changed = 0 ∧ (before = 0 → lead = 0) ∧ (behind = 0 → trail = 0) := by
  rw [contains_ordered]
  split
  · split <;> omega
  · split <;> omega

/-- When the line behind a deletion is left by trimming. -/
theorem contains_line_behind (hfront : front ≤ changed)
    (hexists : before + lead + front < before + lead + changed + trail + behind) :
    (ordered (if before = 0 then 1 else before + lead + 1)
      (if behind = 0 then before + lead + changed + trail else before + lead + changed)).Contains
        (before + lead + front + 1) ↔
      changed - front ≠ 0 ∨ behind = 0 ∨
        changed = 0 ∧ (before = 0 → lead = 0) ∧ (behind = 0 → trail = 0) := by
  rw [contains_ordered]
  split
  · split <;> omega
  · split <;> omega

end LineSpan

namespace Diff

/-- Trimming leaves no line of the new file that a hunk shows: none stands between its changes, and
none at an edge where the file ends. -/
def TrimsAway (before lead body trail after : Script) : Prop :=
  body.new = [] ∧ (before.new = [] → lead = []) ∧ (after.new = [] → trail = [])

theorem trimsAway_iff {before lead body trail after : Script} :
    TrimsAway before lead body trail after ↔
      body.new.length = 0 ∧ (before.new.length = 0 → lead.length = 0) ∧
        (after.new.length = 0 → trail.length = 0) := by
  simp only [TrimsAway, List.length_eq_zero_iff]

namespace Shows

variable {context : Nat} {script : Script} {header : String}
  {before lead body trail after : Script}

theorem shown_ne_nil (h : Shows context script header before lead body trail after)
    (hcontext : 0 < context) (hlines : 0 < script.new.length) :
    Script.new (lead ++ body ++ trail) ≠ [] := by
  have hcount := h.length_new
  have hlead := h.isHunk.lead_cut
  have htrail := h.isHunk.trail_cut
  rw [ne_eq, h.isHunk.shown_eq_nil_iff]
  omega

/-- The header of a hunk that shows no line of the new file names the line before it, and the span
holds that line. -/
theorem contains_of_shown_eq_nil
    (h : Shows context script header before lead body trail after)
    (hfits : script.new.length < maxLine) (hshown : Script.new (lead ++ body ++ trail) = [])
    (hbefore : 0 < before.new.length) {hunk : Hunk} (hparse : Hunk.parse? header = some hunk) :
    (LineSpan.trimmed hunk script.new.length context).Contains before.new.length := by
  have hcount := h.length_new
  have hnone := h.isHunk.shown_eq_nil_iff.mp hshown
  have hcontext : context = 0 := by
    have := h.isHunk.lead_cut
    omega
  rw [h.parse?_header hfits, hnone] at hparse
  obtain rfl : Hunk.mk before.new.length 0 = hunk := Option.some.inj hparse
  have hlast : (Hunk.mk before.new.length 0).last = before.new.length - 1 := by
    simp only [Hunk.last, addLines]
    omega
  have hstart : (if 1 < before.new.length then addLines before.new.length 0
      else before.new.length) = before.new.length := by
    split
    · simp only [addLines]
      omega
    · rfl
  simp only [LineSpan.trimmed, hcontext, hlast, hstart]
  rw [if_neg (by omega), LineSpan.contains_ordered]
  omega

variable {front back : Script} {line : Line}

theorem length_new_front (h : Shows context script header before lead body trail after) :
    (Script.new (before ++ lead ++ front)).length =
      before.new.length + lead.length + front.new.length := by
  simp only [Script.new_append, List.length_append, Script.length_new_of_kept h.isHunk.lead_kept]

/-- When the span of a hunk that shows any line holds the one before a deleted line. -/
theorem contains_before_deleted_iff
    (h : Shows context script header before lead body trail after)
    (hfits : script.new.length < maxLine) (hshown : Script.new (lead ++ body ++ trail) ≠ [])
    {hunk : Hunk} (hparse : Hunk.parse? header = some hunk)
    (hbody : body = front ++ Edit.delete line :: back)
    (hexists : 0 < (Script.new (before ++ lead ++ front)).length) :
    (LineSpan.trimmed hunk script.new.length context).Contains
        (Script.new (before ++ lead ++ front)).length ↔
      front.new ≠ [] ∨ before.new = [] ∨ TrimsAway before lead body trail after := by
  have hchanged : body.new.length = front.new.length + back.new.length := by
    simp only [hbody, Script.new_append, Script.new_cons_delete, List.length_append]
  rw [h.length_new_front] at hexists ⊢
  rw [h.trimmed_eq hfits hshown hparse, trimsAway_iff]
  simp only [ne_eq, ← List.length_eq_zero_iff]
  exact LineSpan.contains_line_before (by omega) hexists

/-- When the span of a hunk that shows any line holds the one behind a deleted line. -/
theorem contains_behind_deleted_iff
    (h : Shows context script header before lead body trail after)
    (hfits : script.new.length < maxLine) (hshown : Script.new (lead ++ body ++ trail) ≠ [])
    {hunk : Hunk} (hparse : Hunk.parse? header = some hunk)
    (hbody : body = front ++ Edit.delete line :: back)
    (hexists : (Script.new (before ++ lead ++ front)).length < script.new.length) :
    (LineSpan.trimmed hunk script.new.length context).Contains
        ((Script.new (before ++ lead ++ front)).length + 1) ↔
      back.new ≠ [] ∨ after.new = [] ∨ TrimsAway before lead body trail after := by
  have hchanged : body.new.length = front.new.length + back.new.length := by
    simp only [hbody, Script.new_append, Script.new_cons_delete, List.length_append]
  have hback : back.new.length = body.new.length - front.new.length := by omega
  rw [h.length_new_front, h.length_new] at hexists
  rw [h.length_new_front, h.trimmed_eq hfits hshown hparse, trimsAway_iff]
  simp only [ne_eq, ← List.length_eq_zero_iff, hback]
  exact LineSpan.contains_line_behind (by omega) hexists

end Shows

end Diff

open Diff (TrimsAway IsUnified)

/-- Which neighbours of a deleted line the span of its hunk holds, among those that exist.  The line
before it is missing only where it is the last unchanged line at the front of a hunk that does not
begin with the first line of the file and that trimming leaves a line of, and the line behind it only
in the like case at the end of the hunk.  A hunk that shows no line of the new file, which takes a
diff without context, keeps the line before. -/
theorem trimmed_contains_neighbours {bytes : List UInt8}
    (hends : bytes.getLast? = some Diff.lineFeed) (hsize : bytes.length < maxLine)
    {old : List UInt8} {script : Script} (hscript : script.Rewrites old bytes) {context : Nat}
    {headers : List String}
    (hheaders : IsUnified context script headers) {header : String} (hheader : header ∈ headers) :
    ∃ hunk, Hunk.parse? header = some hunk ∧
      (∃ before lead body trail after,
        Shows context script header before lead body trail after) ∧
      ∀ before lead body trail after,
        Shows context script header before lead body trail after →
        (0 < context → Script.new (lead ++ body ++ trail) ≠ []) ∧
        ∀ (front : Script) line (back : Script), body = front ++ Edit.delete line :: back →
          let span := LineSpan.trimmed hunk
            ((Text.decodeLossy bytes).toList.filter (· == '\n')).length context
          let number := (Script.new (before ++ lead ++ front)).length
          (Script.new (lead ++ body ++ trail) ≠ [] →
            (0 < number →
              (span.Contains number ↔
                front.new ≠ [] ∨ before.new = [] ∨ TrimsAway before lead body trail after)) ∧
            (number < script.new.length →
              (span.Contains (number + 1) ↔
                back.new ≠ [] ∨ after.new = [] ∨ TrimsAway before lead body trail after))) ∧
          (Script.new (lead ++ body ++ trail) = [] → 0 < number → span.Contains number) := by
  have hfits : script.new.length < maxLine := hscript.length_new_lt hends hsize
  have hcount := hscript.length_new hends
  have hlines : 0 < script.new.length := by
    rw [hcount, Text.length_filter_decodeLossy, List.count_pos_iff]
    exact List.mem_of_getLast? hends
  obtain ⟨before₀, lead₀, body₀, trail₀, after₀, hshows₀⟩ := hheaders.exists_shows hheader
  refine ⟨_, hshows₀.parse?_header hfits, ⟨before₀, lead₀, body₀, trail₀, after₀, hshows₀⟩, ?_⟩
  have hparse := hshows₀.parse?_header hfits
  rw [← hcount]
  intro before lead body trail after hshows
  refine ⟨fun hcontext => hshows.shown_ne_nil hcontext hlines, ?_⟩
  intro front line back hbody
  refine ⟨?_, ?_⟩
  · intro hshown
    exact ⟨hshows.contains_before_deleted_iff hfits hshown hparse hbody,
      hshows.contains_behind_deleted_iff hfits hshown hparse hbody⟩
  · intro hshown hexists
    have hnone := hshows.isHunk.shown_eq_nil_iff.mp hshown
    have hfront : front.new.length ≤ body.new.length := by
      simp only [hbody, Script.new_append, Script.new_cons_delete, List.length_append]
      omega
    have hnumber : (Script.new (before ++ lead ++ front)).length = before.new.length := by
      rw [hshows.length_new_front]
      omega
    rw [hnumber] at hexists ⊢
    exact hshows.contains_of_shown_eq_nil hfits hshown hexists hparse

/-! ## A file of two functions

A line between them is deleted, and then one inside the second. -/

namespace Sample

def pairText : String :=
  "def f():\n    a = 1\n    return a\ndef g():\n    b = 1\n    return b\nK = 1\n"

def kept (text : String) : Edit := .keep (Text.encode text)

def deleted (text : String) : Edit := .delete (Text.encode text)

def firstFunction : Script := [kept "def f():\n", kept "    a = 1\n", kept "    return a\n"]

def secondFunction : Script := [kept "def g():\n", kept "    b = 1\n", kept "    return b\n"]

end Sample

/-- A line is deleted between the functions.  The hunk begins with the first line of the file, so the
three unchanged lines at its front stay and the other three are cut away.  The first line of the
second function, behind the deletion, is not in the span. -/
theorem trimmed_drops_line_behind_deletion :
    let script := Sample.firstFunction ++ [Sample.deleted "L = 0\n"] ++ Sample.secondFunction ++
      [Sample.kept "K = 1\n"]
    let old := Text.encode ("def f():\n    a = 1\n    return a\nL = 0\n" ++
      "def g():\n    b = 1\n    return b\nK = 1\n")
    let span := LineSpan.trimmed ⟨1, 6⟩ (Sample.pairText.toList.filter (· == '\n')).length 3
    script.Rewrites old (Text.encode Sample.pairText) ∧
      IsUnified 3 script ["@@ -1,7 +1,6 @@"] ∧
      Shows 3 script "@@ -1,7 +1,6 @@" [] Sample.firstFunction [Sample.deleted "L = 0\n"]
        Sample.secondFunction [Sample.kept "K = 1\n"] ∧
      Hunk.parse? "@@ -1,7 +1,6 @@" = some ⟨1, 6⟩ ∧
      Sample.firstFunction.new.length = 3 ∧ 3 < script.new.length ∧ ¬ span.Contains 4 := by
  intro script old span
  have hhunk : Diff.IsHunk 3 [] Sample.firstFunction [Sample.deleted "L = 0\n"]
      Sample.secondFunction [Sample.kept "K = 1\n"] := by
    refine ⟨?_, ?_, ⟨_, rfl, rfl⟩, ⟨_, rfl, rfl⟩, .inl rfl, .inl rfl⟩
    · simp [Sample.firstFunction, Sample.kept, Edit.isKept]
    · simp [Sample.secondFunction, Sample.kept, Edit.isKept]
  have hheader : (Diff.extentOf [] (Sample.firstFunction ++ [Sample.deleted "L = 0\n"] ++
      Sample.secondFunction)).text ++ "" = "@@ -1,7 +1,6 @@" := by
    decide +kernel
  have hshows : Shows 3 script "@@ -1,7 +1,6 @@" [] Sample.firstFunction
      [Sample.deleted "L = 0\n"] Sample.secondFunction [Sample.kept "K = 1\n"] :=
    ⟨rfl, hhunk, "", hheader.symm⟩
  have hheaders : IsUnified 3 script ["@@ -1,7 +1,6 @@"] :=
    hshows.isUnified (by simp) (by simp [Sample.kept, Edit.isKept])
  refine ⟨⟨by decide +kernel, by decide +kernel⟩, hheaders, hshows, by decide +kernel, rfl, ?_, ?_⟩
  · decide
  · simp only [LineSpan.Contains]
    decide +kernel

/-- A line is deleted inside the second function, and the hunk shows one line at either side.  Both
are in the span. -/
theorem trimmed_contains_neighbours_inside :
    (Text.encode Sample.pairText).getLast? = some Diff.lineFeed ∧
      (LineSpan.trimmed ⟨5, 2⟩ (Sample.pairText.toList.filter (· == '\n')).length 1).Contains 5 ∧
      (LineSpan.trimmed ⟨5, 2⟩ (Sample.pairText.toList.filter (· == '\n')).length 1).Contains 6 := by
  let front := Sample.firstFunction ++ [Sample.kept "def g():\n"]
  let body := [Sample.deleted "    c = 1\n"]
  let lead := [Sample.kept "    b = 1\n"]
  let trail := [Sample.kept "    return b\n"]
  let rest := [Sample.kept "K = 1\n"]
  have hends : (Text.encode Sample.pairText).getLast? = some Diff.lineFeed := by decide +kernel
  have hscript : Script.Rewrites (front ++ lead ++ body ++ trail ++ rest)
      (Text.encode ("def f():\n    a = 1\n    return a\n" ++
        "def g():\n    b = 1\n    c = 1\n    return b\nK = 1\n"))
      (Text.encode Sample.pairText) := by
    constructor
    · decide +kernel
    · decide +kernel
  have hhunk : Diff.IsHunk 1 front lead body trail rest := by
    refine ⟨?_, ?_, ⟨_, rfl, rfl⟩, ⟨_, rfl, rfl⟩, .inl rfl, .inl rfl⟩
    · simp [lead, Sample.kept, Edit.isKept]
    · simp [trail, Sample.kept, Edit.isKept]
  have hheader : (Diff.extentOf front (lead ++ body ++ trail)).text ++ " def g():" =
      "@@ -5,3 +5,2 @@ def g():" := by
    decide +kernel
  have hshows : Shows 1 (front ++ lead ++ body ++ trail ++ rest) "@@ -5,3 +5,2 @@ def g():" front
      lead body trail rest :=
    ⟨rfl, hhunk, " def g():", hheader.symm⟩
  have hheaders : IsUnified 1 (front ++ lead ++ body ++ trail ++ rest)
      ["@@ -5,3 +5,2 @@ def g():"] :=
    hshows.isUnified (by simp [front, Sample.firstFunction, Sample.kept, Edit.isKept])
      (by simp [rest, Sample.kept, Edit.isKept])
  obtain ⟨hunk, hparse, -, hneighbours⟩ := trimmed_contains_neighbours hends (by decide +kernel)
    hscript hheaders (List.mem_singleton_self _)
  rw [Text.decodeLossy_encode] at hneighbours
  obtain rfl : hunk = ⟨5, 2⟩ := by
    apply Option.some.inj
    rw [← hparse]
    decide +kernel
  obtain ⟨hshown, hdeletions⟩ := hneighbours _ _ _ _ _ hshows
  obtain ⟨hbounds, -⟩ := hdeletions [] _ [] rfl
  obtain ⟨hbefore, hbehind⟩ := hbounds (hshown (by decide))
  have htrims : TrimsAway front lead body trail rest := by
    refine ⟨rfl, ?_, ?_⟩
    · intro hnone
      cases hnone
    · intro hnone
      cases hnone
  exact ⟨hends, (hbefore (by decide)).mpr (.inr (.inr htrims)),
    (hbehind (by decide)).mpr (.inr (.inr htrims))⟩

end IssueTrace
