import IssueTrace.Config.VersionRange
import Mathlib.Data.List.Infix

/-!
# The text of a window

Two dots are part of three, so the text of a window could be cut at either.  It is cut at the first
three dots if it has three dots in a row, and else at the first two.  Revisions that hold no two dots
in a row, and no dot where the two meet, are read back from both ways of writing them.
-/

namespace IssueTrace.VersionRange

variable {text separator before after front rest : List Char} {r : VersionRange} {s : String}

/-! ## Cutting a text -/

/-- The text is made of two parts with a separator between them, and the separator stands nowhere
nearer to the beginning. -/
structure IsCut (text before separator after : List Char) : Prop where
  eq_append : text = before ++ (separator ++ after)
  first : ∀ other behind, text = other ++ (separator ++ behind) → before.length ≤ other.length

theorem isCut_nil_iff : IsCut text [] separator after ↔ text = separator ++ after :=
  ⟨fun h => h.eq_append, fun h => ⟨h, fun _ _ _ => Nat.zero_le _⟩⟩

theorem IsCut.eq_nil_of_prefix (h : IsCut text before separator after)
    (hhead : separator <+: text) : before = [] := by
  obtain ⟨behind, hbehind⟩ := hhead
  have hshort := h.first [] behind hbehind.symm
  exact List.eq_nil_of_length_eq_zero (Nat.le_zero.mp hshort)

theorem isCut_cons_iff {c : Char} (hhead : ¬ separator <+: c :: text) :
    IsCut (c :: text) before separator after ↔
      ∃ front, before = c :: front ∧ IsCut text front separator after := by
  have hcons : ∀ {other behind}, c :: text = other ++ (separator ++ behind) →
      ∃ front, other = c :: front ∧ text = front ++ (separator ++ behind) := by
    intro other behind heq
    cases other with
    | nil => exact absurd ⟨behind, heq.symm⟩ hhead
    | cons d front =>
        obtain ⟨rfl, htext⟩ := List.cons.inj heq
        exact ⟨front, rfl, htext⟩
  constructor
  · intro h
    obtain ⟨front, rfl, htext⟩ := hcons h.eq_append
    refine ⟨front, rfl, htext, ?_⟩
    intro other behind heq
    have hfirst := h.first (c :: other) behind (by rw [heq, List.cons_append])
    simpa using hfirst
  · rintro ⟨front, rfl, h⟩
    refine ⟨by rw [h.eq_append, List.cons_append], ?_⟩
    intro other behind heq
    obtain ⟨front', rfl, htext⟩ := hcons heq
    simpa using h.first front' behind htext

theorem splitAtFirst_of_eq_append (hsep : separator ≠ []) (h : text = separator ++ after) :
    splitAtFirst separator text = some ([], after) := by
  obtain ⟨c, more, rfl⟩ := List.exists_cons_of_ne_nil hsep
  rw [List.cons_append] at h
  rw [h, splitAtFirst, if_pos (by simp), ← List.cons_append, List.drop_left]

/-- A text is split where it is cut. -/
theorem splitAtFirst_eq_some_iff (hsep : separator ≠ []) :
    splitAtFirst separator text = some (before, after) ↔ IsCut text before separator after := by
  induction text generalizing before with
  | nil =>
      have hnone : splitAtFirst separator [] = none := by
        rw [splitAtFirst, if_neg (by simpa using hsep)]
      rw [hnone]
      constructor
      · intro h
        cases h
      · intro h
        have hempty := h.eq_append
        simp [hsep] at hempty
  | cons c text ih =>
      by_cases hhead : separator <+: c :: text
      · obtain ⟨behind, hbehind⟩ := hhead
        rw [splitAtFirst_of_eq_append hsep hbehind.symm, Option.some.injEq, Prod.mk.injEq]
        constructor
        · rintro ⟨rfl, rfl⟩
          exact isCut_nil_iff.mpr hbehind.symm
        · intro h
          obtain rfl := h.eq_nil_of_prefix ⟨behind, hbehind⟩
          have hboth := hbehind.trans (isCut_nil_iff.mp h)
          exact ⟨rfl, List.append_cancel_left hboth⟩
      · rw [isCut_cons_iff hhead, splitAtFirst, if_neg (by simpa using hhead),
          Option.map_eq_some_iff]
        constructor
        · rintro ⟨⟨front, behind⟩, hsplit, hparts⟩
          obtain ⟨rfl, rfl⟩ := Prod.mk.inj hparts
          exact ⟨front, rfl, ih.mp hsplit⟩
        · rintro ⟨front, rfl, h⟩
          exact ⟨(front, after), ih.mpr h, rfl⟩

theorem splitAtFirst_eq_none_iff (hsep : separator ≠ []) :
    splitAtFirst separator text = none ↔ ¬ separator <:+: text := by
  induction text with
  | nil => simp [splitAtFirst, hsep]
  | cons c text ih =>
      rw [List.infix_cons_iff, splitAtFirst]
      by_cases hhead : separator <+: c :: text
      · simp [hhead]
      · simp [hhead, ih]

/-! ## Dots -/

def twoDots : List Char := ['.', '.']

def threeDots : List Char := ['.', '.', '.']

/-- The dots at which a text is cut: three of them if there are three in a row. -/
def dotsOf (text : List Char) : List Char := if threeDots <:+: text then threeDots else twoDots

theorem dotsOf_ne_nil (text : List Char) : dotsOf text ≠ [] := by
  rw [dotsOf]
  split
  · exact List.cons_ne_nil _ _
  · exact List.cons_ne_nil _ _

theorem splitDots_eq_splitAtFirst (text : List Char) :
    splitDots text = splitAtFirst (dotsOf text) text := by
  have hthen : splitDots text =
      (splitAtFirst threeDots text).orElse fun _ => splitAtFirst twoDots text := rfl
  have hfound : splitAtFirst threeDots text = none ↔ ¬ threeDots <:+: text :=
    splitAtFirst_eq_none_iff (List.cons_ne_nil _ _)
  rw [hthen, dotsOf]
  by_cases hthree : threeDots <:+: text
  · obtain ⟨parts, hparts⟩ := Option.ne_none_iff_exists'.mp fun hnone => hfound.mp hnone hthree
    rw [if_pos hthree]
    exact hparts ▸ rfl
  · rw [if_neg hthree, hfound.mpr hthree]
    rfl

theorem splitDots_eq_some_iff :
    splitDots text = some (before, after) ↔ IsCut text before (dotsOf text) after := by
  rw [splitDots_eq_splitAtFirst, splitAtFirst_eq_some_iff (dotsOf_ne_nil text)]

theorem splitDots_eq_none_iff : splitDots text = none ↔ ¬ twoDots <:+: text := by
  rw [splitDots_eq_splitAtFirst, splitAtFirst_eq_none_iff (dotsOf_ne_nil text), dotsOf]
  by_cases hthree : threeDots <:+: text
  · have htwo : twoDots <:+: threeDots := by decide
    rw [if_pos hthree]
    simp [hthree, htwo.trans hthree]
  · rw [if_neg hthree]

/-! ## Reading a window -/

/-- The message about a text that is no window. -/
def rejection (s : String) : String := "expected FROM..TO, got " ++ Text.quoted s

theorem ofText_of_split {a b : Char} {start stop : List Char}
    (h : splitDots s.toList = some (a :: start, b :: stop)) :
    ofText s = .ok ⟨String.ofList (a :: start), String.ofList (b :: stop), none⟩ := by
  rw [ofText, h]

/-- What reading a text comes to: a cut into two parts that are not empty, or a message. -/
theorem ofText_cases (s : String) :
    (∃ start stop, start ≠ [] ∧ stop ≠ [] ∧ splitDots s.toList = some (start, stop) ∧
      ofText s = .ok ⟨String.ofList start, String.ofList stop, none⟩) ∨
    (splitDots s.toList = none ∨
        ∃ start stop, splitDots s.toList = some (start, stop) ∧ (start = [] ∨ stop = [])) ∧
      ofText s = .error (rejection s) := by
  rw [ofText]
  cases hsplit : splitDots s.toList with
  | none => exact .inr ⟨.inl rfl, rfl⟩
  | some parts =>
      obtain ⟨start, stop⟩ := parts
      cases start with
      | nil => exact .inr ⟨.inr ⟨[], stop, rfl, .inl rfl⟩, rfl⟩
      | cons a start =>
          cases stop with
          | nil => exact .inr ⟨.inr ⟨a :: start, [], rfl, .inr rfl⟩, rfl⟩
          | cons b stop =>
              exact .inl ⟨_, _, List.cons_ne_nil _ _, List.cons_ne_nil _ _, rfl, rfl⟩

/-! ## Windows that are read back -/

/-- Two revisions that hold no two dots in a row, and no dot where the dots between them begin or
end. -/
structure TellApart (start stop : List Char) : Prop where
  start_ne_nil : start ≠ []
  stop_ne_nil : stop ≠ []
  start_plain : ¬ twoDots <:+: start
  stop_plain : ¬ twoDots <:+: stop
  start_last : start.getLast? ≠ some '.'
  stop_first : stop.head? ≠ some '.'

instance (start stop : List Char) : Decidable (TellApart start stop) :=
  decidable_of_iff (start ≠ [] ∧ stop ≠ [] ∧ ¬ twoDots <:+: start ∧ ¬ twoDots <:+: stop ∧
      start.getLast? ≠ some '.' ∧ stop.head? ≠ some '.')
    ⟨fun ⟨h₁, h₂, h₃, h₄, h₅, h₆⟩ => ⟨h₁, h₂, h₃, h₄, h₅, h₆⟩,
      fun h => ⟨h.1, h.2, h.3, h.4, h.5, h.6⟩⟩

namespace TellApart

variable {start stop : List Char}

theorem length_le (h : TellApart start stop)
    (hdots : start ++ rest = front ++ (twoDots ++ after)) : start.length ≤ front.length := by
  by_contra hshort
  obtain ⟨own, rfl, hown⟩ : ∃ own, start = front ++ own ∧ own ++ rest = twoDots ++ after := by
    rcases List.append_eq_append_iff.mp hdots with ⟨own, rfl, -⟩ | ⟨own, rfl, heq⟩
    · simp at hshort
    · exact ⟨own, rfl, heq.symm⟩
  match own, hown with
  | [], _ => simp at hshort
  | [c], hown =>
      obtain ⟨rfl, -⟩ := List.cons.inj hown
      exact h.start_last List.getLast?_concat
  | c :: d :: more, hown =>
      obtain ⟨rfl, rfl, -⟩ : c = '.' ∧ d = '.' ∧ more ++ rest = after := by
        simpa [twoDots] using hown
      exact h.start_plain ⟨front, more, by simp [twoDots]⟩

theorem not_threeDots (h : TellApart start stop) :
    ¬ threeDots <:+: start ++ (twoDots ++ stop) := by
  rintro ⟨front, behind, hdots⟩
  have hdots' : start ++ (twoDots ++ stop) = front ++ (twoDots ++ ('.' :: behind)) := by
    rw [← hdots]
    simp [twoDots, threeDots]
  obtain ⟨own, rfl⟩ : ∃ own, front = start ++ own := by
    rcases List.append_eq_append_iff.mp hdots' with ⟨own, rfl, -⟩ | ⟨own, rfl, -⟩
    · exact ⟨own, rfl⟩
    · have hlength := h.length_le hdots'
      rw [List.length_append] at hlength
      have hnil : own = [] := List.eq_nil_of_length_eq_zero (by omega)
      exact ⟨[], by rw [hnil, List.append_nil, List.append_nil]⟩
  rw [List.append_assoc, List.append_cancel_left_eq] at hdots'
  match own, hdots' with
  | [], hdots' =>
      obtain rfl : stop = '.' :: behind := by simpa [twoDots] using hdots'
      exact h.stop_first rfl
  | [c], hdots' =>
      obtain ⟨-, rfl⟩ : '.' = c ∧ stop = '.' :: '.' :: behind := by
        simpa [twoDots] using hdots'
      exact h.stop_first rfl
  | c :: d :: own, hdots' =>
      obtain ⟨-, -, rfl⟩ : '.' = c ∧ '.' = d ∧ stop = own ++ (twoDots ++ '.' :: behind) := by
        simpa [twoDots] using hdots'
      exact h.stop_plain ⟨own, '.' :: behind, by simp⟩

theorem isCut (h : TellApart start stop) {dots : List Char} (htwo : twoDots <+: dots) :
    IsCut (start ++ (dots ++ stop)) start dots stop where
  eq_append := rfl
  first other behind heq := by
    obtain ⟨more, rfl⟩ := htwo
    rw [List.append_assoc twoDots more behind] at heq
    exact h.length_le heq

theorem ofText_eq {f t dots : String} (h : TellApart f.toList t.toList)
    (htwo : twoDots <+: dots.toList) (hdots : dotsOf (f ++ dots ++ t).toList = dots.toList) :
    ofText (f ++ dots ++ t) = .ok ⟨f, t, none⟩ := by
  have hletters : (f ++ dots ++ t).toList = f.toList ++ (dots.toList ++ t.toList) := by simp
  have hcut := h.isCut htwo
  rw [← hletters, ← hdots, ← splitDots_eq_some_iff] at hcut
  obtain ⟨a, start, hstart⟩ := List.exists_cons_of_ne_nil h.start_ne_nil
  obtain ⟨b, stop, hstop⟩ := List.exists_cons_of_ne_nil h.stop_ne_nil
  rw [hstart, hstop] at hcut
  rw [ofText_of_split hcut, ← hstart, ← hstop, String.ofList_toList, String.ofList_toList]

end TellApart

/-- Two revisions that can be told apart are read from both ways of writing a window of them.  A text
is read as a window exactly if it is cut into two parts that are not empty, at the first three dots if
there are three in a row and else at the first two; it is refused, with a message that quotes it,
exactly if there are no two dots in a row or a part of the cut is empty. -/
theorem ofText_reads_windows :
    (∀ f t : String, TellApart f.toList t.toList →
      ofText (f ++ ".." ++ t) = .ok ⟨f, t, none⟩ ∧
        ofText (f ++ "..." ++ t) = .ok ⟨f, t, none⟩) ∧
    (∀ s r, ofText s = .ok r ↔
      IsCut s.toList r.start.toList (dotsOf s.toList) r.stop.toList ∧
        r.start ≠ "" ∧ r.stop ≠ "" ∧ r.name = none) ∧
    ∀ s message, ofText s = .error message ↔
      message = rejection s ∧ (¬ twoDots <:+: s.toList ∨
        ∃ before after, IsCut s.toList before (dotsOf s.toList) after ∧
          (before = [] ∨ after = [])) := by
  refine ⟨?_, ?_, ?_⟩
  · intro f t h
    constructor
    · apply h.ofText_eq (List.prefix_refl _)
      have hletters : (f ++ ".." ++ t).toList = f.toList ++ (twoDots ++ t.toList) := by
        simp [twoDots]
      rw [hletters, dotsOf, if_neg h.not_threeDots]
      rfl
    · apply h.ofText_eq ⟨['.'], rfl⟩
      have hletters : (f ++ "..." ++ t).toList = f.toList ++ threeDots ++ t.toList := by
        simp [threeDots]
      rw [hletters, dotsOf, if_pos (List.infix_append _ _ _)]
      rfl
  · intro s r
    rw [← splitDots_eq_some_iff]
    rcases ofText_cases s with ⟨start, stop, hstart, hstop, hsplit, hread⟩ | ⟨hrefused, hread⟩
    · rw [hread, hsplit, Except.ok.injEq, Option.some.injEq, Prod.mk.injEq]
      constructor
      · rintro rfl
        simp [hstart, hstop]
      · rintro ⟨⟨rfl, rfl⟩, -, -, hname⟩
        rw [String.ofList_toList, String.ofList_toList, ← hname]
    · rw [hread]
      constructor
      · intro h
        cases h
      · rintro ⟨hsplit, hstart, hstop, -⟩
        rcases hrefused with hnone | ⟨start, stop, hown, hempty⟩
        · rw [hnone] at hsplit
          cases hsplit
        · rw [hown, Option.some.injEq, Prod.mk.injEq] at hsplit
          obtain ⟨rfl, rfl⟩ := hsplit
          simp [hstart, hstop] at hempty
  · intro s message
    rw [← splitDots_eq_none_iff]
    simp only [← splitDots_eq_some_iff]
    rcases ofText_cases s with ⟨start, stop, hstart, hstop, hsplit, hread⟩ | ⟨hrefused, hread⟩
    · rw [hread, hsplit]
      simp [hstart, hstop]
    · rw [hread, Except.error.injEq, eq_comm]
      exact ⟨fun h => ⟨h, hrefused⟩, fun h => h.1⟩

/-- A revision may hold a dot, and three dots may stand between two of them. -/
theorem ofText_reads_windows_of_release :
    TellApart "release/1.0".toList "main".toList ∧
      ofText ("release/1.0" ++ ".." ++ "main") = .ok ⟨"release/1.0", "main", none⟩ ∧
      ofText ("release/1.0" ++ "..." ++ "main") = .ok ⟨"release/1.0", "main", none⟩ := by
  have h : TellApart "release/1.0".toList "main".toList := by decide +kernel
  exact ⟨h, ofText_reads_windows.1 "release/1.0" "main" h⟩

end IssueTrace.VersionRange
