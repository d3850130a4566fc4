import IssueTrace.Text.Blank
import Mathlib.Data.List.Basic

/-!
# Words of a text

Splitting a text into words is settled by two equations: a blank splits it in two, and a text
without blanks is one word.  So words put behind each other with blanks in between are read back.
-/

namespace IssueTrace.Text

theorem wordsFrom_nil (word : List Char) :
    wordsFrom word [] = if word = [] then [] else [word.reverse] := by
  cases word with
  | nil => rfl
  | cons d word => rfl

theorem wordsFrom_cons (word : List Char) (c : Char) (rest : List Char) :
    wordsFrom word (c :: rest) =
      if isBlank c then wordsFrom word [] ++ wordsFrom [] rest else wordsFrom (c :: word) rest := by
  cases word with
  | nil => rfl
  | cons d word => rfl

theorem wordsFrom_append_blank {c : Char} (hc : isBlank c = true) (x y : List Char) :
    ∀ word, wordsFrom word (x ++ c :: y) = wordsFrom word x ++ wordsFrom [] y := by
  induction x with
  | nil =>
      intro word
      rw [List.nil_append, wordsFrom_cons, if_pos hc]
  | cons d x ih =>
      intro word
      rw [List.cons_append, wordsFrom_cons, wordsFrom_cons, ih, ih]
      split
      · rw [List.append_assoc]
      · rfl

/-- A blank splits a text into the words before it and the words after it. -/
theorem words_append_blank {c : Char} (hc : isBlank c = true) (x y : List Char) :
    words (x ++ c :: y) = words x ++ words y :=
  wordsFrom_append_blank hc x y []

theorem wordsFrom_of_forall_not_blank {x : List Char} (hx : ∀ c ∈ x, isBlank c = false) :
    ∀ word, word.reverse ++ x ≠ [] → wordsFrom word x = [word.reverse ++ x] := by
  induction x with
  | nil =>
      intro word hne
      rw [List.append_nil] at hne ⊢
      rw [wordsFrom_nil, if_neg (by simpa using hne)]
  | cons d x ih =>
      intro word _
      have hd : ¬ isBlank d = true := by simp [hx d List.mem_cons_self]
      rw [wordsFrom_cons, if_neg hd,
        ih (fun c hc => hx c (List.mem_cons_of_mem d hc)) (d :: word) (by simp)]
      simp

theorem words_of_forall_not_blank {x : List Char} (hx : ∀ c ∈ x, isBlank c = false)
    (hne : x ≠ []) : words x = [x] :=
  wordsFrom_of_forall_not_blank hx [] (by simpa using hne)

/-- A word at the beginning of a text that a blank ends. -/
theorem words_word_append {x : List Char} (hx : ∀ c ∈ x, isBlank c = false) (hne : x ≠ [])
    {c : Char} (hc : isBlank c = true) (y : List Char) : words (x ++ c :: y) = x :: words y := by
  rw [words_append_blank hc, words_of_forall_not_blank hx hne, List.singleton_append]

/-! ## Words put behind each other -/

/-- A text that is one word: it is not empty and holds no blank. -/
structure IsWord (x : List Char) : Prop where
  ne_nil : x ≠ []
  not_blank : ∀ c ∈ x, isBlank c = false

theorem isWord_iff (x : List Char) : IsWord x ↔ x ≠ [] ∧ x.all (!isBlank ·) = true := by
  rw [List.all_eq_true]
  simp only [Bool.not_eq_true']
  exact ⟨fun h => ⟨h.1, h.2⟩, fun h => ⟨h.1, h.2⟩⟩

instance (x : List Char) : Decidable (IsWord x) := decidable_of_iff' _ (isWord_iff x)

theorem isWord_of_mem_wordsFrom_nil {x word : List Char} (hword : ∀ c ∈ word, isBlank c = false)
    (hx : x ∈ wordsFrom word []) : IsWord x := by
  rw [wordsFrom_nil] at hx
  by_cases hne : word = []
  · rw [if_pos hne] at hx
    cases hx
  · rw [if_neg hne] at hx
    obtain rfl := List.mem_singleton.mp hx
    refine ⟨by simpa using hne, ?_⟩
    intro c hc
    exact hword c (List.mem_reverse.mp hc)

theorem isWord_of_mem_wordsFrom {x rest : List Char} :
    ∀ {word : List Char}, (∀ c ∈ word, isBlank c = false) → x ∈ wordsFrom word rest → IsWord x := by
  induction rest with
  | nil =>
      intro word hword hx
      exact isWord_of_mem_wordsFrom_nil hword hx
  | cons d rest ih =>
      intro word hword hx
      rw [wordsFrom_cons] at hx
      by_cases hd : isBlank d = true
      · rw [if_pos hd] at hx
        rcases List.mem_append.mp hx with hx | hx
        · exact isWord_of_mem_wordsFrom_nil hword hx
        · exact ih (by simp) hx
      · rw [if_neg hd] at hx
        refine ih ?_ hx
        intro c hc
        rcases List.mem_cons.mp hc with rfl | hc
        · simpa using hd
        · exact hword c hc

/-- What a text is split into are words. -/
theorem isWord_of_mem_words {x s : List Char} (h : x ∈ words s) : IsWord x :=
  isWord_of_mem_wordsFrom (by simp) h

/-- Words with spaces between them are split into the same words. -/
theorem words_append_flatMap {x : List Char} (hx : IsWord x) {ys : List (List Char)}
    (hys : ∀ y ∈ ys, IsWord y) : words (x ++ ys.flatMap (' ' :: ·)) = x :: ys := by
  induction ys generalizing x with
  | nil =>
      rw [List.flatMap_nil, List.append_nil]
      exact words_of_forall_not_blank hx.not_blank hx.ne_nil
  | cons y ys ih =>
      have hrest := ih (hys y List.mem_cons_self) fun z hz => hys z (List.mem_cons_of_mem y hz)
      rw [List.flatMap_cons, List.cons_append,
        words_word_append hx.not_blank hx.ne_nil (by decide), hrest]

end IssueTrace.Text
