import IssueTrace.Text.Blank
import Mathlib.Data.List.Basic
import Mathlib.Data.List.TakeWhile

/-!
# Lines of a text

A line feed ends a line.  A line without a carriage return at its end is read as it was written, and
what is free of blanks at its edges is not trimmed.  No line holds a line feed, and nothing that was
trimmed has a blank at its edges.  A text that does not end with a line feed has one line that is
still open: whatever is written behind the text goes on with that line.
-/

namespace IssueTrace.Text

theorem linesFrom_cons_of_ne {c : Char} (hc : c ≠ '\n') (line rest : List Char) :
    linesFrom line (c :: rest) = linesFrom (c :: line) rest := by
  cases line with
  | nil => exact if_neg hc
  | cons d line => exact if_neg hc

theorem linesFrom_cons_lineFeed (line rest : List Char) :
    linesFrom line ('\n' :: rest) = (dropReturn line).reverse :: linesFrom [] rest := by
  cases line with
  | nil => rfl
  | cons d line => rfl

theorem dropReturn_eq_self {line : List Char} (h : line.head? ≠ some '\r') :
    dropReturn line = line := by
  unfold dropReturn
  split
  · exact absurd rfl h
  · rfl

theorem linesFrom_lineFeed {line : List Char} (hline : line.head? ≠ some '\r')
    (rest : List Char) : linesFrom line ('\n' :: rest) = line.reverse :: linesFrom [] rest := by
  rw [linesFrom_cons_lineFeed, dropReturn_eq_self hline]

theorem linesFrom_append {x : List Char} (hx : '\n' ∉ x) (y : List Char) :
    ∀ line, linesFrom line (x ++ y) = linesFrom (x.reverse ++ line) y := by
  induction x with
  | nil =>
      intro line
      rfl
  | cons c x ih =>
      intro line
      have hc : c ≠ '\n' := by
        rintro rfl
        exact hx List.mem_cons_self
      have hrest : '\n' ∉ x := fun h => hx (List.mem_cons_of_mem c h)
      rw [List.cons_append, linesFrom_cons_of_ne hc, ih hrest, List.reverse_cons,
        List.append_assoc]
      rfl

/-- A line at the beginning of a text. -/
theorem lines_append_lineFeed {x : List Char} (hx : '\n' ∉ x) (hend : x.getLast? ≠ some '\r')
    (y : List Char) : lines (x ++ '\n' :: y) = x :: lines y := by
  unfold lines
  rw [linesFrom_append hx, List.append_nil, linesFrom_lineFeed, List.reverse_reverse]
  rwa [List.head?_reverse]

theorem dropWhile_eq_self {x : List Char} (h : x.head?.any isBlank = false) :
    x.dropWhile isBlank = x := by
  cases x with
  | nil => rfl
  | cons c x =>
      have hc : isBlank c = false := by simpa using h
      simp [hc]

theorem trim_eq_self {x : List Char} (hfirst : x.head?.any isBlank = false)
    (hlast : x.getLast?.any isBlank = false) : trim x = x := by
  unfold trim trimStart trimEnd
  rw [dropWhile_eq_self hfirst, dropWhile_eq_self, List.reverse_reverse]
  rwa [List.head?_reverse]

/-! ## Lines before and after a line feed -/

theorem linesFrom_append_lineFeed (x y : List Char) :
    ∀ line, linesFrom line (x ++ '\n' :: y) = linesFrom line (x ++ ['\n']) ++ linesFrom [] y := by
  induction x with
  | nil =>
      intro line
      cases line with
      | nil => rfl
      | cons d line => rfl
  | cons c x ih =>
      intro line
      by_cases hc : c = '\n'
      · subst hc
        rw [List.cons_append, List.cons_append, linesFrom_cons_lineFeed, linesFrom_cons_lineFeed, ih,
          List.cons_append]
      · rw [List.cons_append, List.cons_append, linesFrom_cons_of_ne hc, linesFrom_cons_of_ne hc, ih]

theorem lines_append {s t : List Char} (h : s = [] ∨ s.getLast? = some '\n') :
    lines (s ++ t) = lines s ++ lines t := by
  rcases h with rfl | h
  · rfl
  · obtain ⟨x, rfl⟩ := List.getLast?_eq_some_iff.mp h
    rw [List.append_assoc]
    exact linesFrom_append_lineFeed x t []

theorem lineFeed_not_mem_dropReturn {line : List Char} (h : '\n' ∉ line) :
    '\n' ∉ dropReturn line := by
  unfold dropReturn
  split
  · intro hmem
    exact h (List.mem_cons_of_mem _ hmem)
  · exact h

theorem lineFeed_not_mem_of_mem_linesFrom {x rest : List Char} :
    ∀ {line : List Char}, '\n' ∉ line → x ∈ linesFrom line rest → '\n' ∉ x := by
  induction rest with
  | nil =>
      intro line hline hx
      cases line with
      | nil => cases hx
      | cons d line =>
          obtain rfl := List.mem_singleton.mp hx
          intro hmem
          exact hline (List.mem_reverse.mp hmem)
  | cons c rest ih =>
      intro line hline hx
      by_cases hc : c = '\n'
      · subst hc
        rw [linesFrom_cons_lineFeed] at hx
        rcases List.mem_cons.mp hx with rfl | hx
        · intro hmem
          exact lineFeed_not_mem_dropReturn hline (List.mem_reverse.mp hmem)
        · exact ih (by simp) hx
      · rw [linesFrom_cons_of_ne hc] at hx
        refine ih ?_ hx
        intro hmem
        rcases List.mem_cons.mp hmem with heq | hmem
        · exact hc heq.symm
        · exact hline hmem

theorem lineFeed_not_mem_of_mem_lines {x s : List Char} (h : x ∈ lines s) : '\n' ∉ x :=
  lineFeed_not_mem_of_mem_linesFrom (by simp) h

/-! ## Trimmed texts -/

theorem head?_dropWhile_isBlank (x : List Char) :
    (x.dropWhile isBlank).head?.any isBlank = false := by
  cases h : x.dropWhile isBlank with
  | nil => rfl
  | cons c rest =>
      have hne : x.dropWhile isBlank ≠ [] := by simp [h]
      have hc := List.head_dropWhile_not isBlank hne
      simpa [h] using hc

theorem isPrefix_trimEnd (x : List Char) : trimEnd x <+: x := by
  unfold trimEnd
  rw [← List.reverse_suffix, List.reverse_reverse]
  exact List.dropWhile_suffix isBlank

/-- A trimmed text does not begin with a blank. -/
theorem head?_trim (x : List Char) : (trim x).head?.any isBlank = false := by
  have hstart := head?_dropWhile_isBlank x
  unfold trim
  obtain ⟨rest, hrest⟩ := isPrefix_trimEnd (trimStart x)
  cases htrim : trimEnd (trimStart x) with
  | nil => rfl
  | cons c kept =>
      rw [htrim] at hrest
      have hfirst : x.dropWhile isBlank = c :: (kept ++ rest) := hrest.symm
      rw [hfirst] at hstart
      exact hstart

/-- A trimmed text does not end with a blank. -/
theorem getLast?_trim (x : List Char) : (trim x).getLast?.any isBlank = false := by
  unfold trim trimEnd
  rw [List.getLast?_reverse]
  exact head?_dropWhile_isBlank _

theorem mem_of_mem_trim {c : Char} {x : List Char} (h : c ∈ trim x) : c ∈ x := by
  have hstart : c ∈ trimStart x := (isPrefix_trimEnd (trimStart x)).subset h
  exact (List.dropWhile_suffix isBlank).subset hstart

/-! ## The open line -/

/-- What follows the last line feed of a text. -/
def openLine (s : List Char) : List Char := (s.reverse.takeWhile (· != '\n')).reverse

/-- The text up to its last line feed. -/
def closedLines (s : List Char) : List Char := (s.reverse.dropWhile (· != '\n')).reverse

theorem closedLines_append_openLine (s : List Char) : closedLines s ++ openLine s = s := by
  unfold closedLines openLine
  rw [← List.reverse_append, List.takeWhile_append_dropWhile, List.reverse_reverse]

theorem lineFeed_not_mem_openLine (s : List Char) : '\n' ∉ openLine s := by
  intro hmem
  have hkept := List.mem_takeWhile_imp (List.mem_reverse.mp hmem)
  simp at hkept

theorem closedLines_ends (s : List Char) :
    closedLines s = [] ∨ (closedLines s).getLast? = some '\n' := by
  unfold closedLines
  by_cases hnone : s.reverse.dropWhile (· != '\n') = []
  · left
    rw [hnone, List.reverse_nil]
  · right
    have hhead := List.head_dropWhile_not (· != '\n') hnone
    rw [List.getLast?_reverse, List.head?_eq_some_head hnone]
    simpa using hhead

/-- The lines of a text are the closed ones, and the open one unless it is empty. -/
theorem lines_eq_closed_append_open (s : List Char) :
    lines s = lines (closedLines s) ++ if openLine s = [] then [] else [openLine s] := by
  have hlast : lines (openLine s) = if openLine s = [] then [] else [openLine s] := by
    have hgoOn := linesFrom_append (lineFeed_not_mem_openLine s) [] []
    rw [List.append_nil, List.append_nil] at hgoOn
    unfold lines
    rw [hgoOn]
    by_cases hnil : openLine s = []
    · rw [if_pos hnil, hnil]
      rfl
    · rw [if_neg hnil]
      cases hreverse : (openLine s).reverse with
      | nil => exact absurd (List.reverse_eq_nil_iff.mp hreverse) hnil
      | cons c rest =>
          have hback := congrArg List.reverse hreverse
          rw [List.reverse_reverse] at hback
          rw [hback]
          rfl
  calc lines s = lines (closedLines s ++ openLine s) := by rw [closedLines_append_openLine]
    _ = lines (closedLines s) ++ lines (openLine s) := lines_append (closedLines_ends s)
    _ = _ := by rw [hlast]

/-- A line written behind a text goes on with the open one. -/
theorem lines_append_line (s : List Char) {x : List Char} (hx : '\n' ∉ x)
    (hend : x.getLast? ≠ some '\r') (hne : x ≠ []) (y : List Char) :
    lines (s ++ (x ++ '\n' :: y)) = lines (closedLines s) ++ (openLine s ++ x) :: lines y := by
  have hline : '\n' ∉ openLine s ++ x := by
    simp [lineFeed_not_mem_openLine s, hx]
  have hreturn : (openLine s ++ x).getLast? ≠ some '\r' := by
    rwa [List.getLast?_append_of_ne_nil _ hne]
  calc lines (s ++ (x ++ '\n' :: y))
      = lines (closedLines s ++ ((openLine s ++ x) ++ '\n' :: y)) := by
        rw [List.append_assoc, ← List.append_assoc (closedLines s), closedLines_append_openLine]
    _ = lines (closedLines s) ++ lines ((openLine s ++ x) ++ '\n' :: y) :=
        lines_append (closedLines_ends s)
    _ = _ := by rw [lines_append_lineFeed hline hreturn]

/-- Blanks before a text that begins with none are trimmed away. -/
theorem trim_append_of_blank {x y : List Char} (hx : ∀ c ∈ x, isBlank c = true)
    (hfirst : y.head?.any isBlank = false) (hlast : y.getLast?.any isBlank = false) :
    trim (x ++ y) = y := by
  have hstart : trimStart (x ++ y) = trimStart y := List.dropWhile_append_of_pos hx
  calc trim (x ++ y) = trim y := by
        unfold trim
        rw [hstart]
    _ = y := trim_eq_self hfirst hlast

/-- What is not blank stays before a text that ends with no blank. -/
theorem length_lt_trim_append {x y : List Char} (hx : ∃ c ∈ x, isBlank c = false)
    (hne : y ≠ []) (hlast : y.getLast?.any isBlank = false) :
    y.length < (trim (x ++ y)).length := by
  obtain ⟨c, hc, hkept⟩ := hx
  have hrest : x.dropWhile isBlank ≠ [] := by
    intro hnil
    have hall := List.dropWhile_eq_nil_iff.mp hnil c hc
    rw [hkept] at hall
    cases hall
  have hstart : trimStart (x ++ y) = x.dropWhile isBlank ++ y := by
    unfold trimStart
    rw [List.dropWhile_append, if_neg (by simpa using hrest)]
  have hend : trimEnd (x.dropWhile isBlank ++ y) = x.dropWhile isBlank ++ y := by
    unfold trimEnd
    rw [dropWhile_eq_self, List.reverse_reverse]
    rwa [List.head?_reverse, List.getLast?_append_of_ne_nil _ hne]
  have hlength : 0 < (x.dropWhile isBlank).length := List.length_pos_of_ne_nil hrest
  unfold trim
  rw [hstart, hend, List.length_append]
  omega

end IssueTrace.Text
