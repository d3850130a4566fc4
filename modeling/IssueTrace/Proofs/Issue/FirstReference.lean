import IssueTrace.Issue.Pattern
import IssueTrace.Proofs.Text.LowerCase

/-!
# The first reference of a message

The keywords of a pattern are tried at every place of a message from the left, and at each place in
the order in which they are given.  What is found is yet the first reference in reading order, since
no keyword holds a number sign: of two matches, the one that begins further left ends further left
too, and two that begin at one place end at the same number sign.  So the order of the keywords is of
no concern.
-/

namespace IssueTrace.IssuePattern

open Text (isDecimalDigit lowerCase)

variable {keywords : List String} {front back text digits : List Char}

/-- The pattern that has the given keywords in lower case. -/
def lowered (keywords : List String) : IssuePattern :=
  ⟨keywords.map fun k => (lowerCase k).toList⟩

theorem ofKeywords_of_ne_nil (h : keywords ≠ []) : ofKeywords keywords = .ok (lowered keywords) := by
  have hempty : keywords.isEmpty = false := by simpa using h
  unfold ofKeywords
  rw [hempty]
  rfl

/-! ## References -/

/-- A number sign is a reference by what stands before it and behind it: a keyword and a space end
before it, and a number begins behind it. -/
structure IsReference (keywords : List String) (front back : List Char) : Prop where
  announced : ∃ k ∈ keywords, (lowerCase k).toList ++ [' '] <:+ front
  numbered : ∃ c rest, back = c :: rest ∧ isDecimalDigit c = true

/-- The first number sign of a text that is a reference stands between the two parts of it. -/
structure IsFirstReference (keywords : List String) (text front back : List Char) : Prop where
  text_eq : text = front ++ '#' :: back
  reference : IsReference keywords front back
  first : ∀ {front' back'}, text = front' ++ '#' :: back' → IsReference keywords front' back' →
    front.length ≤ front'.length

theorem IsFirstReference.unique {front' back' : List Char}
    (h : IsFirstReference keywords text front back)
    (h' : IsFirstReference keywords text front' back') : front = front' ∧ back = back' := by
  have hlength : front.length = front'.length :=
    Nat.le_antisymm (h.first h'.text_eq h'.reference) (h'.first h.text_eq h.reference)
  obtain ⟨hfront, hrest⟩ := List.append_inj (h.text_eq.symm.trans h'.text_eq) hlength
  exact ⟨hfront, (List.cons.inj hrest).2⟩

theorem isReference_congr {others : List String} (h : ∀ k, k ∈ others ↔ k ∈ keywords) :
    IsReference others front back ↔ IsReference keywords front back := by
  constructor
  · rintro ⟨⟨k, hk, hends⟩, hnumber⟩
    exact ⟨⟨k, (h k).mp hk, hends⟩, hnumber⟩
  · rintro ⟨⟨k, hk, hends⟩, hnumber⟩
    exact ⟨⟨k, (h k).mpr hk, hends⟩, hnumber⟩

theorem isFirstReference_congr {others : List String} (h : ∀ k, k ∈ others ↔ k ∈ keywords) :
    IsFirstReference others text front back ↔ IsFirstReference keywords text front back := by
  constructor
  · rintro ⟨htext, hreference, hfirst⟩
    exact ⟨htext, (isReference_congr h).mp hreference,
      fun htext' h' => hfirst htext' ((isReference_congr h).mpr h')⟩
  · rintro ⟨htext, hreference, hfirst⟩
    exact ⟨htext, (isReference_congr h).mpr hreference,
      fun htext' h' => hfirst htext' ((isReference_congr h).mp h')⟩

/-! ## Matches at one place -/

theorem takeWhile_ne_nil_iff :
    back.takeWhile isDecimalDigit ≠ [] ↔ ∃ c rest, back = c :: rest ∧ isDecimalDigit c = true := by
  cases back with
  | nil => simp
  | cons c rest => simp [List.takeWhile_cons]

theorem numberAfter?_eq_some_iff {keyword : List Char} :
    numberAfter? keyword text = some digits ↔
      ∃ back, text = keyword ++ [' '] ++ '#' :: back ∧ digits = back.takeWhile isDecimalDigit ∧
        ∃ c rest, back = c :: rest ∧ isDecimalDigit c = true := by
  unfold numberAfter?
  dsimp only
  constructor
  · intro h
    split at h
    · rename_i hhead
      obtain ⟨back, rfl⟩ := List.isPrefixOf_iff_prefix.mp hhead
      rw [List.drop_left] at h
      split at h
      · cases h
      · rename_i hdigits
        obtain rfl := Option.some.inj h
        exact ⟨back, by simp, rfl, takeWhile_ne_nil_iff.mp hdigits⟩
    · cases h
  · rintro ⟨back, rfl, rfl, hnumber⟩
    have hhead : (keyword ++ [' ', '#']).isPrefixOf (keyword ++ [' '] ++ '#' :: back) = true :=
      List.isPrefixOf_iff_prefix.mpr ⟨back, by simp⟩
    have hdrop : (keyword ++ [' '] ++ '#' :: back).drop (keyword ++ [' ', '#']).length = back := by
      have hsplit : keyword ++ [' '] ++ '#' :: back = keyword ++ [' ', '#'] ++ back := by simp
      rw [hsplit, List.drop_left]
    rw [if_pos hhead, hdrop]
    split
    · rename_i hnone
      exact absurd hnone (takeWhile_ne_nil_iff.mpr hnumber)
    · rfl

theorem exists_of_referenceAt?_eq_some (h : (lowered keywords).referenceAt? text = some digits) :
    ∃ k ∈ keywords, ∃ back, text = (lowerCase k).toList ++ [' '] ++ '#' :: back ∧
      digits = back.takeWhile isDecimalDigit ∧
      ∃ c rest, back = c :: rest ∧ isDecimalDigit c = true := by
  obtain ⟨keyword, hkeyword, hnumber⟩ := List.exists_of_findSome?_eq_some h
  obtain ⟨k, hk, rfl⟩ := List.mem_map.mp hkeyword
  exact ⟨k, hk, numberAfter?_eq_some_iff.mp hnumber⟩

theorem referenceAt?_ne_none {k : String} (hk : k ∈ keywords)
    (hnumber : ∃ c rest, back = c :: rest ∧ isDecimalDigit c = true) :
    (lowered keywords).referenceAt? ((lowerCase k).toList ++ [' '] ++ '#' :: back) ≠ none := by
  intro hnone
  have hkeyword := List.findSome?_eq_none_iff.mp hnone _ (List.mem_map_of_mem hk)
  rw [numberAfter?_eq_some_iff.mpr ⟨back, rfl, rfl, hnumber⟩] at hkeyword
  cases hkeyword

/-! ## The leftmost match -/

theorem firstReference?_cons (p : IssuePattern) (c : Char) (rest : List Char) :
    p.firstReference? (c :: rest) =
      match p.referenceAt? (c :: rest) with
      | some digits => some digits
      | none => p.firstReference? rest :=
  rfl

theorem referenceAt?_eq_none_of_firstReference? {p : IssuePattern}
    (h : p.firstReference? text = none) {skipped rest : List Char} (htext : text = skipped ++ rest) :
    p.referenceAt? rest = none := by
  induction text generalizing skipped with
  | nil =>
      obtain ⟨rfl, rfl⟩ := List.append_eq_nil_iff.mp htext.symm
      exact h
  | cons c text ih =>
      rw [firstReference?_cons] at h
      split at h
      · cases h
      · rename_i hhere
        cases skipped with
        | nil =>
            rw [List.nil_append] at htext
            rw [← htext]
            exact hhere
        | cons d skipped => exact ih h (List.cons.inj htext).2

theorem exists_of_firstReference?_eq_some {p : IssuePattern}
    (h : p.firstReference? text = some digits) :
    ∃ skipped rest, text = skipped ++ rest ∧ p.referenceAt? rest = some digits ∧
      ∀ skipped' rest', text = skipped' ++ rest' → skipped'.length < skipped.length →
        p.referenceAt? rest' = none := by
  induction text with
  | nil => exact ⟨[], [], rfl, h, fun _ _ _ hshorter => absurd hshorter (Nat.not_lt_zero _)⟩
  | cons c text ih =>
      rw [firstReference?_cons] at h
      split at h
      · rename_i hhere
        obtain rfl := Option.some.inj h
        exact ⟨[], c :: text, rfl, hhere,
          fun _ _ _ hshorter => absurd hshorter (Nat.not_lt_zero _)⟩
      · rename_i hhere
        obtain ⟨skipped, rest, rfl, hrest, hbefore⟩ := ih h
        refine ⟨c :: skipped, rest, rfl, hrest, ?_⟩
        intro skipped' rest' htext hshorter
        cases skipped' with
        | nil =>
            rw [List.nil_append] at htext
            rw [← htext]
            exact hhere
        | cons d skipped' =>
            exact hbefore _ _ (List.cons.inj htext).2 (Nat.lt_of_succ_lt_succ hshorter)

/-! ## The leftmost match is the first reference -/

/-- A number sign that is not before a match begins does not stand before the match ends. -/
theorem length_le_of_sign {skipped middle front' back' : List Char} (hmiddle : '#' ∉ middle)
    (htext : skipped ++ middle ++ '#' :: back = front' ++ '#' :: back')
    (hskipped : skipped.length ≤ front'.length) : (skipped ++ middle).length ≤ front'.length := by
  by_contra hshorter
  have hsign : (front' ++ '#' :: back')[front'.length]? = some '#' := by simp
  have hwithin : front'.length - skipped.length < middle.length := by
    rw [List.length_append] at hshorter
    omega
  rw [← htext, List.append_assoc, List.getElem?_append_right hskipped,
    List.getElem?_append_left hwithin] at hsign
  exact hmiddle (List.mem_of_getElem? hsign)

/-- The number that is found follows the first reference: another one would be found first if its
keyword began further left. -/
theorem isFirstReference_of_firstReference? (hsign : ∀ k ∈ keywords, '#' ∉ k.toList)
    (h : (lowered keywords).firstReference? text = some digits) :
    ∃ front back, IsFirstReference keywords text front back ∧
      digits = back.takeWhile isDecimalDigit := by
  obtain ⟨skipped, rest, htext, hmatch, hleftmost⟩ := exists_of_firstReference?_eq_some h
  obtain ⟨k, hk, back, rfl, rfl, hnumber⟩ := exists_of_referenceAt?_eq_some hmatch
  have hfront : text = skipped ++ ((lowerCase k).toList ++ [' ']) ++ '#' :: back := by
    rw [htext, ← List.append_assoc]
  refine ⟨skipped ++ ((lowerCase k).toList ++ [' ']), back,
    ⟨hfront, ⟨⟨k, hk, List.suffix_append _ _⟩, hnumber⟩, ?_⟩, rfl⟩
  rintro front' back' htext' ⟨⟨k', hk', skipped', rfl⟩, hnumber'⟩
  have hkeyword : '#' ∉ (lowerCase k).toList ++ [' '] := by
    rw [List.mem_append, List.mem_singleton]
    rintro (hmem | hspace)
    · exact hsign k hk (Text.sign_mem_of_mem_lowerCase hmem)
    · exact absurd hspace (by decide)
  apply length_le_of_sign hkeyword (hfront.symm.trans htext')
  by_contra hshorter
  have hearlier : skipped'.length < skipped.length := by
    rw [List.length_append] at hshorter
    omega
  have hnone := hleftmost skipped' _ (by rw [htext', List.append_assoc]) hearlier
  exact referenceAt?_ne_none hk' hnumber' hnone

theorem firstReference?_ne_none (h : IsReference keywords front back) :
    (lowered keywords).firstReference? (front ++ '#' :: back) ≠ none := by
  obtain ⟨⟨k, hk, skipped, rfl⟩, hnumber⟩ := h
  intro hnone
  exact referenceAt?_ne_none hk hnumber
    (referenceAt?_eq_none_of_firstReference? hnone (List.append_assoc _ _ _))

theorem firstReference?_eq_some_iff (hsign : ∀ k ∈ keywords, '#' ∉ k.toList) :
    (lowered keywords).firstReference? text = some digits ↔
      ∃ front back, IsFirstReference keywords text front back ∧
        digits = back.takeWhile isDecimalDigit := by
  constructor
  · exact isFirstReference_of_firstReference? hsign
  · rintro ⟨front, back, hfirst, rfl⟩
    have hne := firstReference?_ne_none hfirst.reference
    rw [← hfirst.text_eq] at hne
    obtain ⟨digits, hdigits⟩ := Option.ne_none_iff_exists'.mp hne
    obtain ⟨front', back', hfirst', rfl⟩ := isFirstReference_of_firstReference? hsign hdigits
    rw [hdigits, (hfirst.unique hfirst').2]

theorem firstReference?_eq_none_iff (hsign : ∀ k ∈ keywords, '#' ∉ k.toList) :
    (lowered keywords).firstReference? text = none ↔
      ∀ front back, text = front ++ '#' :: back → ¬ IsReference keywords front back := by
  constructor
  · rintro hnone front back rfl hreference
    exact firstReference?_ne_none hreference hnone
  · intro hno
    rw [Option.eq_none_iff_forall_ne_some]
    intro digits hdigits
    obtain ⟨front, back, hfirst, -⟩ := isFirstReference_of_firstReference? hsign hdigits
    exact hno front back hfirst.text_eq hfirst.reference

theorem firstReference?_congr {others : List String} (hsign : ∀ k ∈ keywords, '#' ∉ k.toList)
    (h : ∀ k, k ∈ others ↔ k ∈ keywords) :
    (lowered others).firstReference? text = (lowered keywords).firstReference? text := by
  have hothers : ∀ k ∈ others, '#' ∉ k.toList := fun k hk => hsign k ((h k).mp hk)
  ext digits
  rw [firstReference?_eq_some_iff hothers, firstReference?_eq_some_iff hsign]
  simp only [isFirstReference_congr h]

/-- With keywords that hold no number sign, the issue of a message is the run of decimal digits behind
the first number sign of the message in lower case that follows a keyword in lower case and a space
and comes before a digit, and there is none if there is no such number sign.  Other keywords that are
the same but for order and repetition give the same issues. -/
theorem issueId?_eq_some_iff_first (hne : keywords ≠ [])
    (hsign : ∀ k ∈ keywords, '#' ∉ k.toList) :
    ∃ p, ofKeywords keywords = .ok p ∧
      (∀ message issue, p.issueId? message = some issue ↔
        ∃ front back, IsFirstReference keywords (lowerCase message).toList front back ∧
          issue = String.ofList (back.takeWhile isDecimalDigit)) ∧
      (∀ message, p.issueId? message = none ↔
        ∀ front back, (lowerCase message).toList = front ++ '#' :: back →
          ¬ IsReference keywords front back) ∧
      ∀ others, (∀ k, k ∈ others ↔ k ∈ keywords) →
        ∃ q, ofKeywords others = .ok q ∧ ∀ message, q.issueId? message = p.issueId? message := by
  refine ⟨lowered keywords, ofKeywords_of_ne_nil hne, ?_, ?_, ?_⟩
  · intro message issue
    unfold issueId?
    rw [Option.map_eq_some_iff]
    simp only [firstReference?_eq_some_iff hsign]
    constructor
    · rintro ⟨_, ⟨front, back, hfirst, rfl⟩, rfl⟩
      exact ⟨front, back, hfirst, rfl⟩
    · rintro ⟨front, back, hfirst, rfl⟩
      exact ⟨_, ⟨front, back, hfirst, rfl⟩, rfl⟩
  · intro message
    unfold issueId?
    rw [Option.map_eq_none_iff, firstReference?_eq_none_iff hsign]
  · intro others hsame
    have hothers : others ≠ [] := by
      obtain ⟨k, hk⟩ := List.exists_mem_of_ne_nil keywords hne
      exact List.ne_nil_of_mem ((hsame k).mpr hk)
    refine ⟨lowered others, ofKeywords_of_ne_nil hothers, ?_⟩
    intro message
    unfold issueId?
    rw [firstReference?_congr hsign hsame]

/-- Keywords of which one ends like another and one holds blanks and signs. -/
def overlappingKeywords : List String := ["Fixes", "fix", "es", "see (a|b)"]

/-- The number sign behind `fixes` counts, and not the one behind `es`, which comes later. -/
theorem issueId?_eq_some_iff_first_of_overlapping :
    overlappingKeywords ≠ [] ∧ (∀ k ∈ overlappingKeywords, '#' ∉ k.toList) ∧
      ∃ p q front back, ofKeywords overlappingKeywords = .ok p ∧
        p.issueId? "Fix #x, FIXES #12, yes #3" = some "12" ∧
        IsFirstReference overlappingKeywords (lowerCase "Fix #x, FIXES #12, yes #3").toList front
          back ∧
        "12" = String.ofList (back.takeWhile isDecimalDigit) ∧
        ofKeywords ["see (a|b)", "es", "es", "fix", "Fixes"] = .ok q ∧
        q.issueId? "Fix #x, FIXES #12, yes #3" = some "12" := by
  have hne : overlappingKeywords ≠ [] := by decide
  have hsign : ∀ k ∈ overlappingKeywords, '#' ∉ k.toList := by decide
  obtain ⟨p, hp, hfound, -, hsame⟩ := issueId?_eq_some_iff_first hne hsign
  obtain rfl : p = lowered overlappingKeywords := by
    rw [ofKeywords_of_ne_nil hne] at hp
    exact (Except.ok.inj hp).symm
  have hissue : (lowered overlappingKeywords).issueId? "Fix #x, FIXES #12, yes #3" = some "12" := by
    decide +kernel
  obtain ⟨front, back, hfirst, hdigits⟩ := (hfound _ _).mp hissue
  obtain ⟨q, hq, heq⟩ := hsame ["see (a|b)", "es", "es", "fix", "Fixes"] (by
    intro k
    simp only [overlappingKeywords, List.mem_cons, List.not_mem_nil]
    tauto)
  exact ⟨hne, hsign, _, q, front, back, hp, hissue, hfirst, hdigits, hq, (heq _).trans hissue⟩

end IssueTrace.IssuePattern
