import IssueTrace.Proofs.Diff.HeaderRange
import Mathlib.Algebra.Group.Nat.Defs

/-!
# Reading hunk headers

A header is read by its words.  The first of them has to be the mark, and of those before the closing
mark the first one behind a plus sign has to be a range.  So a header is read as the lines that it was
written for, whatever its heading is, exactly when they can be numbered.
-/

namespace IssueTrace.Hunk

theorem le_maxLine_iff {n : Nat} : n ≤ maxLine ↔ n < 2 ^ 64 :=
  Nat.lt_succ_iff.symm

/-! ## Numbers that are too large -/

/-- The texts before and behind the first comma of a range. -/
def parts (range : List Char) : List (List Char) :=
  [range.takeWhile (· != ','), (range.dropWhile (· != ',')).tail]

theorem parts_of_no_comma {text : List Char} (h : ',' ∉ text) : parts text = [text, []] := by
  obtain ⟨htake, hdrop⟩ := cut_of_no_comma h
  rw [parts, htake, hdrop, List.tail_nil]

theorem parts_append_comma {first : List Char} (h : ',' ∉ first) (amount : List Char) :
    parts (first ++ ',' :: amount) = [first, amount] := by
  obtain ⟨htake, hdrop⟩ := cut_append_comma h amount
  rw [parts, htake, hdrop, List.tail_cons]

/-- A range is not read if one of its numbers is too large, whatever stands at the other side of the
comma. -/
theorem range?_eq_none_of_large {text part : List Char} {n : Nat} (hpart : part ∈ parts text)
    (hnumeral : IsNumeral part n) (hlarge : maxLine < n) : range? text = none := by
  have hunread : number? part = none := by
    rw [hnumeral.number?_eq, if_neg (Nat.not_le.mpr hlarge)]
  by_cases hcomma : ',' ∈ text
  · obtain ⟨first, amount, rfl, hfirst⟩ := List.eq_append_cons_of_mem hcomma
    rw [parts_append_comma hfirst] at hpart
    rw [range?_append_comma hfirst]
    rcases List.mem_pair.mp hpart with rfl | rfl
    · rw [hunread, Option.bind_none]
    · rw [hunread]
      simp
  · rw [parts_of_no_comma hcomma] at hpart
    rw [range?_of_no_comma hcomma]
    rcases List.mem_pair.mp hpart with rfl | rfl
    · rw [hunread, Option.bind_none]
    · obtain ⟨digits, htext, hne, -⟩ := hnumeral
      simp [hne.symm] at htext

/-! ## The range that counts -/

/-- The words behind a plus sign between the first word of a header and the closing mark, without the
sign. -/
def newRanges (header : String) : List (List Char) :=
  (((Text.words header.toList).tail.takeWhile (· != ['@', '@'])).filter
    (·.head? == some '+')).map List.tail

theorem findSome?_newRange? (words : List (List Char)) :
    words.findSome? newRange? = ((words.filter (·.head? == some '+')).map List.tail).head? := by
  induction words with
  | nil => rfl
  | cons word words ih =>
      rw [List.findSome?_cons, ih]
      cases word with
      | nil => rfl
      | cons c rest =>
          by_cases hsign : c = '+'
          · rw [hsign]
            rfl
          · have hunsigned : newRange? (c :: rest) = none := by simp [newRange?, hsign]
            rw [hunsigned, List.filter_cons_of_neg (by simpa using hsign)]

/-- A header is read by its first word and by the first one behind a plus sign. -/
theorem parse?_eq_ite (header : String) :
    parse? header =
      if (Text.words header.toList).head? = some ['@', '@'] then
        (newRanges header).head?.bind range?
      else none := by
  unfold parse? newRanges
  rw [← findSome?_newRange?]
  cases Text.words header.toList with
  | nil => rfl
  | cons first rest =>
      have hmark : isMark first = true ↔ some first = some ['@', '@'] := by simp [isMark]
      simp only [List.head?_cons, List.tail_cons, hmark]
      rfl

/-- The first range behind a plus sign decides on the header. -/
theorem parse?_eq_none_of_range {header : String} {range : List Char}
    (hrange : (newRanges header).head? = some range) (hnone : range? range = none) :
    parse? header = none := by
  rw [parse?_eq_ite, hrange, Option.bind_some, hnone, ite_self]

/-! ## Written ranges -/

/-- A range as it is written: its first line, and behind a comma the number of its lines, which may
be left out when it is one. -/
inductive IsWritten : Nat → Nat → String → Prop
  | counted (start count : Nat) : IsWritten start count (toString start ++ "," ++ toString count)
  | single (start : Nat) : IsWritten start 1 (toString start)

namespace IsWritten

variable {start count : Nat} {text : String}

theorem range?_eq (h : IsWritten start count text) :
    range? text.toList = if start + count ≤ maxLine then some ⟨start, count⟩ else none := by
  cases h with
  | counted =>
      have hletters : (toString start ++ "," ++ toString count).toList =
          Nat.toDigits 10 start ++ ',' :: Nat.toDigits 10 count := by
        simp [String.toList_append]
      rw [hletters, range?_counted]
  | single =>
      have hletters : (toString start).toList = Nat.toDigits 10 start := by simp
      rw [hletters, range?_single]

theorem not_isBlank (h : IsWritten start count text) : ∀ c ∈ text.toList, Text.isBlank c = false := by
  have hdigits : ∀ n : Nat, ∀ c ∈ (toString n).toList, Text.isBlank c = false := by
    intro n c hc
    exact not_isBlank_of_isDigit (isDigit_of_mem_toDigits n c (by simpa using hc))
  cases h with
  | counted =>
      intro c hc
      rw [String.toList_append, String.toList_append, List.append_assoc] at hc
      rcases List.mem_append.mp hc with hc | hc
      · exact hdigits start c hc
      · rcases List.mem_cons.mp hc with rfl | hc
        · decide
        · exact hdigits count c hc
  | single => exact hdigits start

end IsWritten

/-! ## Main statement -/

/-- The lines of the new file that a header was written for are read from it, whatever the range of
the old file and the heading are, if their sum is below the bound of line numbers, and otherwise the
header is refused.  Whatever is read has lines with such numbers.  A header is refused if its first
word is not the mark, if no word before the closing mark stands behind a plus sign, or if the first
one that does holds a number that is too large. -/
theorem parse?_decodes :
    (∀ {a b c d : Nat} {old new : String}, IsWritten a b old → IsWritten c d new → ∀ tail : String,
      parse? ("@@ -" ++ old ++ " +" ++ new ++ " @@" ++ tail) =
        if c + d < 2 ^ 64 then some ⟨c, d⟩ else none) ∧
    (∀ {header : String} {h : Hunk}, parse? header = some h →
      h.start + h.count < 2 ^ 64 ∧ h.last = max (h.start + h.count) 1 - 1) ∧
    (∀ {header : String}, (Text.words header.toList).head? ≠ some ['@', '@'] →
      parse? header = none) ∧
    (∀ {header : String}, newRanges header = [] → parse? header = none) ∧
    (∀ {header : String} {range part : List Char} {n : Nat},
      (newRanges header).head? = some range → part ∈ parts range → IsNumeral part n → 2 ^ 64 ≤ n →
      parse? header = none) := by
  refine ⟨?_, ?_, ?_, ?_, ?_⟩
  · intro a b c d old new hold hnew tail
    rw [parse?_header hold.not_isBlank hnew.not_isBlank, hnew.range?_eq]
    simp only [le_maxLine_iff]
  · intro header h hparse
    have hfits := parse?_fits hparse
    refine ⟨le_maxLine_iff.mp hfits, ?_⟩
    unfold last addLines
    omega
  · intro header hmark
    rw [parse?_eq_ite, if_neg hmark]
  · intro header hnone
    rw [parse?_eq_ite, hnone]
    simp
  · intro header range part n hrange hpart hnumeral hlarge
    have htooLarge : maxLine < n := by
      rw [← Nat.not_le, le_maxLine_iff]
      omega
    exact parse?_eq_none_of_range hrange (range?_eq_none_of_large hpart hnumeral htooLarge)

/-- A heading that looks like a range of its own, and three headers that are refused. -/
theorem parse?_decodes_of_samples :
    IsWritten 3 1 "3" ∧ IsWritten 10 4 "10,4" ∧
      parse? "@@ -3 +10,4 @@ +7,7 @@\n" = some ⟨10, 4⟩ ∧ Hunk.last ⟨10, 4⟩ = max (10 + 4) 1 - 1 ∧
      parse? "diff --git a/x.py b/x.py" = none ∧ parse? "@@ -1,2 @@ +3" = none ∧
      parse? "@@ -1 +3,18446744073709551616 @@" = none := by
  obtain ⟨hwritten, hread, hmark, hnone, hlarge⟩ := parse?_decodes
  have hold : IsWritten 3 1 "3" := IsWritten.single 3
  have hnew : IsWritten 10 4 "10,4" := IsWritten.counted 10 4
  have hheader : parse? "@@ -3 +10,4 @@ +7,7 @@\n" = some ⟨10, 4⟩ :=
    hwritten hold hnew " +7,7 @@\n"
  refine ⟨hold, hnew, hheader, (hread hheader).2, hmark (by decide), hnone (by decide), ?_⟩
  have hcount : IsNumeral "18446744073709551616".toList (2 ^ 64) :=
    ⟨_, .inl rfl, by decide, List.all_eq_true.mp (by decide), by decide⟩
  exact @hlarge _ "3,18446744073709551616".toList _ _ (by decide) (by decide) hcount le_rfl

end IssueTrace.Hunk
