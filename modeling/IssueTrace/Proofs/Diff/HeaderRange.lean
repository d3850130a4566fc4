import IssueTrace.Change.Hunk
import IssueTrace.Diff.Header
import IssueTrace.Proofs.Text.Words
import Mathlib.Data.List.TakeDrop
import Mathlib.Data.List.TakeWhile

/-!
# Ranges in hunk headers

What is written into the header of a hunk is read back from it.  A range is read as the first line
and the number of lines that it was written from, exactly when their sum is a line number, and what
stands behind the ranges is of no concern.
-/

namespace IssueTrace

namespace Hunk

theorem digit_toNat {c : Char} (h : c.isDigit = true) : 48 ≤ c.toNat ∧ c.toNat ≤ 57 := by
  have hc : '0'.toNat ≤ c.toNat ∧ c.toNat ≤ '9'.toNat := by
    simpa [Char.isDigit, UInt32.le_iff_toNat_le] using h
  exact hc

theorem not_isBlank_of_isDigit {c : Char} (h : c.isDigit = true) : Text.isBlank c = false := by
  have := digit_toNat h
  unfold Text.isBlank
  simp
  omega

theorem isDigit_of_mem_toDigits (n : Nat) : ∀ c ∈ Nat.toDigits 10 n, c.isDigit = true := by
  intro c hc
  exact Nat.isDigit_of_mem_toDigits (by decide) (by decide) hc

/-- A text that stands for a number: decimal digits, at least one, possibly behind a plus sign. -/
def IsNumeral (text : List Char) (n : Nat) : Prop :=
  ∃ digits, (text = digits ∨ text = '+' :: digits) ∧ digits ≠ [] ∧
    (∀ c ∈ digits, c.isDigit = true) ∧ Nat.ofDigitChars 10 digits 0 = n

/-- A number is read if it is not too large. -/
theorem IsNumeral.number?_eq {text : List Char} {n : Nat} (h : IsNumeral text n) :
    number? text = if n ≤ maxLine then some n else none := by
  obtain ⟨digits, htext, hne, hdigits, rfl⟩ := h
  have hempty : digits.isEmpty = false := by simpa using hne
  have hall : digits.all Char.isDigit = true := List.all_eq_true.mpr hdigits
  rw [Nat.ofDigitChars_eq_foldl]
  rcases htext with rfl | rfl
  · unfold number?
    split
    · have hplus := hdigits '+' List.mem_cons_self
      simp at hplus
    · simp only [hempty, hall]
      rfl
  · unfold number?
    simp only [hempty, hall]
    rfl

theorem isNumeral_toDigits (n : Nat) : IsNumeral (Nat.toDigits 10 n) n :=
  ⟨Nat.toDigits 10 n, .inl rfl, Nat.toDigits_ne_nil, isDigit_of_mem_toDigits n,
    Nat.ofDigitChars_ten_toDigits⟩

theorem comma_not_mem {digits : List Char} (h : ∀ c ∈ digits, c.isDigit = true) : ',' ∉ digits := by
  intro hc
  have hcomma := h ',' hc
  revert hcomma
  decide

theorem cut_of_no_comma {text : List Char} (h : ',' ∉ text) :
    text.takeWhile (· != ',') = text ∧ text.dropWhile (· != ',') = [] := by
  have hne : ∀ c ∈ text, (c != ',') = true :=
    fun c hc => bne_iff_ne.mpr (ne_of_mem_of_not_mem hc h)
  exact ⟨List.takeWhile_eq_self_iff.mpr hne, List.dropWhile_eq_nil_iff.mpr hne⟩

theorem cut_append_comma {first : List Char} (h : ',' ∉ first) (amount : List Char) :
    (first ++ ',' :: amount).takeWhile (· != ',') = first ∧
      (first ++ ',' :: amount).dropWhile (· != ',') = ',' :: amount := by
  have hne : ∀ c ∈ first, (c != ',') = true :=
    fun c hc => bne_iff_ne.mpr (ne_of_mem_of_not_mem hc h)
  rw [List.takeWhile_append_of_pos hne, List.dropWhile_append_of_pos hne]
  simp

/-- A text without a comma is the range of the single line that it names. -/
theorem range?_of_no_comma {text : List Char} (h : ',' ∉ text) :
    range? text = (number? text).bind fun start =>
      if start + 1 ≤ maxLine then some ⟨start, 1⟩ else none := by
  obtain ⟨htake, hdrop⟩ := cut_of_no_comma h
  unfold range?
  rw [List.span_eq_takeWhile_dropWhile, htake, hdrop]
  cases hstart : number? text with
  | none => simp [hstart]
  | some start => simp [hstart, Option.filter]

/-- The first comma of a range stands between its first line and the number of its lines. -/
theorem range?_append_comma {first : List Char} (h : ',' ∉ first) (amount : List Char) :
    range? (first ++ ',' :: amount) = (number? first).bind fun start =>
      (number? amount).bind fun count =>
        if start + count ≤ maxLine then some ⟨start, count⟩ else none := by
  obtain ⟨htake, hdrop⟩ := cut_append_comma h amount
  unfold range?
  rw [List.span_eq_takeWhile_dropWhile, htake, hdrop]
  cases hstart : number? first with
  | none => simp [hstart]
  | some start =>
      cases hcount : number? amount with
      | none => simp [hstart, hcount]
      | some count => simp [hstart, hcount, Option.filter]

theorem range?_single (start : Nat) :
    range? (Nat.toDigits 10 start) =
      if start + 1 ≤ maxLine then some ⟨start, 1⟩ else none := by
  rw [range?_of_no_comma (comma_not_mem (isDigit_of_mem_toDigits start)),
    (isNumeral_toDigits start).number?_eq]
  by_cases hstart : start ≤ maxLine
  · rw [if_pos hstart, Option.bind_some]
  · have hsum : ¬ start + 1 ≤ maxLine := by omega
    rw [if_neg hstart, if_neg hsum, Option.bind_none]

/-- Any other range has the number of its lines behind a comma. -/
theorem range?_counted (start count : Nat) :
    range? (Nat.toDigits 10 start ++ ',' :: Nat.toDigits 10 count) =
      if start + count ≤ maxLine then some ⟨start, count⟩ else none := by
  rw [range?_append_comma (comma_not_mem (isDigit_of_mem_toDigits start)),
    (isNumeral_toDigits start).number?_eq, (isNumeral_toDigits count).number?_eq]
  by_cases hsum : start + count ≤ maxLine
  · have hstart : start ≤ maxLine := by omega
    have hcount : count ≤ maxLine := by omega
    rw [if_pos hstart, if_pos hcount, Option.bind_some, Option.bind_some]
  · rw [if_neg hsum]
    by_cases hstart : start ≤ maxLine
    · by_cases hcount : count ≤ maxLine
      · rw [if_pos hstart, if_pos hcount, Option.bind_some, Option.bind_some, if_neg hsum]
      · rw [if_neg hcount, if_pos hstart, Option.bind_some, Option.bind_none]
    · rw [if_neg hstart, Option.bind_none]

theorem range?_fits {text : List Char} {h : Hunk} (hrange : range? text = some h) :
    h.start + h.count ≤ maxLine := by
  unfold range? at hrange
  exact of_decide_eq_true (Option.filter_eq_some_iff.mp hrange).2

theorem parse?_fits {header : String} {h : Hunk} (hparse : parse? header = some h) :
    h.start + h.count ≤ maxLine := by
  unfold parse? at hparse
  split at hparse
  · cases hparse
  · split at hparse
    · obtain ⟨text, -, hrange⟩ := Option.bind_eq_some_iff.mp hparse
      exact range?_fits hrange
    · cases hparse

/-! ## Headers -/

theorem words_header {old new : String} (hold : ∀ c ∈ old.toList, Text.isBlank c = false)
    (hnew : ∀ c ∈ new.toList, Text.isBlank c = false) (tail : String) :
    Text.words ("@@ -" ++ old ++ " +" ++ new ++ " @@" ++ tail).toList =
      ['@', '@'] :: ('-' :: old.toList) :: ('+' :: new.toList) ::
        Text.words (['@', '@'] ++ tail.toList) := by
  have hletters : ("@@ -" ++ old ++ " +" ++ new ++ " @@" ++ tail).toList =
      ['@', '@'] ++ ' ' :: (('-' :: old.toList) ++
        ' ' :: (('+' :: new.toList) ++ ' ' :: (['@', '@'] ++ tail.toList))) := by
    simp [String.toList_append]
  have hmark : ∀ c ∈ ['@', '@'], Text.isBlank c = false := by
    intro c hc
    obtain rfl : c = '@' := by simpa using hc
    decide
  have hsigned : ∀ {sign : Char} {range : String}, Text.isBlank sign = false →
      (∀ c ∈ range.toList, Text.isBlank c = false) →
      ∀ c ∈ sign :: range.toList, Text.isBlank c = false := by
    intro sign range hsign hrange c hc
    rcases List.mem_cons.mp hc with rfl | hc
    · exact hsign
    · exact hrange c hc
  rw [hletters, Text.words_word_append hmark (by simp) (by decide),
    Text.words_word_append (hsigned (by decide) hold) (by simp) (by decide),
    Text.words_word_append (hsigned (by decide) hnew) (by simp) (by decide)]

/-- Only the range of the new file counts, and behind the ranges there may stand anything. -/
theorem parse?_header {old new : String} (hold : ∀ c ∈ old.toList, Text.isBlank c = false)
    (hnew : ∀ c ∈ new.toList, Text.isBlank c = false) (tail : String) :
    parse? ("@@ -" ++ old ++ " +" ++ new ++ " @@" ++ tail) = range? new.toList := by
  have holdMark : isMark ('-' :: old.toList) = false := by simp [isMark]
  have hnewMark : isMark ('+' :: new.toList) = false := by simp [isMark]
  unfold parse?
  rw [words_header hold hnew]
  dsimp only
  rw [if_pos (by decide), List.takeWhile_cons_of_pos (by simp [holdMark]),
    List.takeWhile_cons_of_pos (by simp [hnewMark])]
  rfl

end Hunk

namespace Diff

/-- The first line of a range as a header gives it. -/
def firstLine (start count : Nat) : Nat := if count = 0 then start else start + 1

theorem rangeText_toList (start count : Nat) :
    (rangeText start count).toList =
      if count = 1 then Nat.toDigits 10 (firstLine start count)
      else Nat.toDigits 10 (firstLine start count) ++ ',' :: Nat.toDigits 10 count := by
  unfold rangeText
  by_cases hone : count = 1
  · simp [hone, firstLine]
  · simp [hone, firstLine, String.toList_append]

theorem range?_rangeText (start count : Nat) :
    Hunk.range? (rangeText start count).toList =
      if firstLine start count + count ≤ maxLine then some ⟨firstLine start count, count⟩
      else none := by
  rw [rangeText_toList]
  by_cases hone : count = 1
  · rw [if_pos hone, Hunk.range?_single, hone]
  · rw [if_neg hone, Hunk.range?_counted]

theorem not_isBlank_of_mem_rangeText {start count : Nat} {c : Char}
    (hc : c ∈ (rangeText start count).toList) : Text.isBlank c = false := by
  have hcases : c = ',' ∨ c.isDigit = true := by
    rw [rangeText_toList] at hc
    split at hc
    · exact .inr (Hunk.isDigit_of_mem_toDigits _ c hc)
    · rcases List.mem_append.mp hc with h | h
      · exact .inr (Hunk.isDigit_of_mem_toDigits _ c h)
      · rcases List.mem_cons.mp h with h | h
        · exact .inl h
        · exact .inr (Hunk.isDigit_of_mem_toDigits _ c h)
  rcases hcases with rfl | hdigit
  · decide
  · exact Hunk.not_isBlank_of_isDigit hdigit

theorem parse?_text_append (e : Extent) (heading : String) :
    Hunk.parse? (e.text ++ heading) =
      if firstLine e.newStart e.newCount + e.newCount ≤ maxLine then
        some ⟨firstLine e.newStart e.newCount, e.newCount⟩
      else none := by
  rw [← range?_rangeText]
  exact Hunk.parse?_header (fun _ => not_isBlank_of_mem_rangeText)
    (fun _ => not_isBlank_of_mem_rangeText) heading

end Diff

end IssueTrace
