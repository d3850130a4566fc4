import IssueTrace.Proofs.Goldset.Rerun

/-!
# Adding names to any text

A file of names may hold a text that the store did not write.  Names are written behind it as it is,
so the first of them goes on with the line that the text leaves open.  If that line is blank the
name is read back; otherwise it is not, and all that was read and is written is read back exactly if
no line was left open or nothing had to be written.
-/

namespace IssueTrace.GoldsetStore

open FileSystem (LeadsTo)
open Text (openLine closedLines isBlank)

variable {fs : FileSystem} {s t : String} {x : String} {xs : List String} {names : NameSet}

/-! ## What is read from a text -/

/-- The name that is read from a line, if there is one. -/
def nameOfLine (line : List Char) : List String :=
  if Text.trim line = [] then [] else [String.ofList (Text.trim line)]

/-- The names that are read from lines. -/
def namesOfLines (lines : List (List Char)) : List String := lines.flatMap nameOfLine

theorem namesIn_eq_namesOfLines (s : String) : namesIn s = namesOfLines (Text.lines s.toList) := by
  unfold namesIn namesOfLines
  induction Text.lines s.toList with
  | nil => rfl
  | cons line lines ih =>
      rw [List.flatMap_cons, ← ih, nameOfLine, List.map_cons]
      by_cases hnone : Text.trim line = []
      · rw [if_pos hnone, List.filter_cons_of_neg (by simp [hnone])]
        rfl
      · rw [if_neg hnone, List.filter_cons_of_pos (by simpa using hnone)]
        rfl

theorem namesOfLines_append (lines lines' : List (List Char)) :
    namesOfLines (lines ++ lines') = namesOfLines lines ++ namesOfLines lines' :=
  List.flatMap_append

/-- What is read from the line that a text leaves open comes last. -/
theorem namesIn_eq_closed_append_open (s : String) :
    namesIn s = namesOfLines (Text.lines (closedLines s.toList)) ++
      nameOfLine (openLine s.toList) := by
  have hopen : namesOfLines (if openLine s.toList = [] then [] else [openLine s.toList]) =
      nameOfLine (openLine s.toList) := by
    by_cases hnil : openLine s.toList = []
    · rw [if_pos hnil, hnil]
      rfl
    · rw [if_neg hnil]
      exact List.append_nil _
  rw [namesIn_eq_namesOfLines, Text.lines_eq_closed_append_open, namesOfLines_append, hopen]

/-- The first name that is written behind a text goes on with its open line, and the others follow
on lines of their own. -/
theorem namesIn_append_linesOf (s : String) (hx : IsName x) (hxs : ∀ y ∈ xs, IsName y) :
    namesIn (s ++ linesOf (x :: xs)) = namesOfLines (Text.lines (closedLines s.toList)) ++
      (nameOfLine (openLine s.toList ++ x.toList) ++ xs) := by
  have hletters : x.toList ≠ [] := by simpa using hx.ne_empty
  have hreturn : x.toList.getLast? ≠ some '\r' := by
    intro hlast
    have hblank := hx.last
    rw [hlast] at hblank
    exact absurd hblank (by decide)
  have hrest : namesOfLines (Text.lines (linesOf xs).toList) = xs := by
    rw [← namesIn_eq_namesOfLines, namesIn_linesOf hxs]
  rw [namesIn_eq_namesOfLines, String.toList_append, linesOf_cons,
    Text.lines_append_line s.toList hx.no_lineFeed hreturn hletters, namesOfLines_append]
  congr 1
  exact congrArg (nameOfLine (openLine s.toList ++ x.toList) ++ ·) hrest

theorem nameOfLine_append_of_blank {line : List Char} (hline : ∀ c ∈ line, isBlank c = true)
    (hx : IsName x) : nameOfLine (line ++ x.toList) = [x] := by
  have htrim := Text.trim_append_of_blank hline hx.first hx.last
  have hletters : x.toList ≠ [] := by simpa using hx.ne_empty
  unfold nameOfLine
  rw [htrim, if_neg hletters, String.ofList_toList]

theorem not_mem_nameOfLine_append {line : List Char} (hline : ∃ c ∈ line, isBlank c = false)
    (hx : IsName x) : x ∉ nameOfLine (line ++ x.toList) := by
  have hletters : x.toList ≠ [] := by simpa using hx.ne_empty
  have hlonger := Text.length_lt_trim_append hline hletters hx.last
  intro hmem
  unfold nameOfLine at hmem
  split at hmem
  · cases hmem
  · have hsame : x = String.ofList (Text.trim (line ++ x.toList)) := List.mem_singleton.mp hmem
    have hlength := congrArg (List.length ∘ String.toList) hsame
    simp only [Function.comp_apply, String.toList_ofList] at hlength
    omega

/-! ## What is lost -/

/-- Names can be written behind a text without loss: they are read from it already, or the line that
it leaves open is blank. -/
def TakesNames (s : String) (names : NameSet) : Prop :=
  unknown (.ofList (namesIn s)) names = [] ∨ ∀ c ∈ openLine s.toList, isBlank c = true

instance (s : String) (names : NameSet) : Decidable (TakesNames s names) :=
  decidable_of_iff (unknown (.ofList (namesIn s)) names = [] ∨ (openLine s.toList).all isBlank = true)
    (by rw [List.all_eq_true]; rfl)

/-- The text of a file after names were added to it. -/
def textWith (s : String) (names : NameSet) : String :=
  s ++ linesOf (unknown (.ofList (namesIn s)) names)

theorem mem_namesIn_textWith_of_takesNames (htakes : TakesNames s names)
    (hnames : ∀ y ∈ names, IsName y) (y : String) :
    y ∈ namesIn (textWith s names) ↔ y ∈ namesIn s ∨ y ∈ names := by
  have hunknown : y ∈ namesIn s ∨ y ∈ names ↔
      y ∈ namesIn s ∨ y ∈ unknown (.ofList (namesIn s)) names := by
    rw [mem_unknown, NameSet.mem_ofList]
    by_cases hy : y ∈ namesIn s
    · simp [hy]
    · simp [hy]
  rw [hunknown, textWith]
  cases hnew : unknown (.ofList (namesIn s)) names with
  | nil => simp
  | cons first rest =>
      have hblank : ∀ c ∈ openLine s.toList, isBlank c = true :=
        htakes.resolve_left (by simp [hnew])
      have hall : ∀ z ∈ first :: rest, IsName z := by
        intro z hz
        rw [← hnew] at hz
        exact hnames z (mem_unknown.mp hz).1
      have hfirst : IsName first := hall first List.mem_cons_self
      have hopen : nameOfLine (openLine s.toList) = [] := by
        have htrim : Text.trim (openLine s.toList ++ []) = [] :=
          Text.trim_append_of_blank hblank rfl rfl
        rw [List.append_nil] at htrim
        exact if_pos htrim
      rw [namesIn_append_linesOf s hfirst fun z hz => hall z (List.mem_cons_of_mem first hz),
        nameOfLine_append_of_blank hblank hfirst, namesIn_eq_closed_append_open s, hopen,
        List.append_nil, List.mem_append]
      rfl

/-- The first name that is written behind a line that is not blank is not read back. -/
theorem not_mem_namesIn_textWith (htakes : ¬ TakesNames s names)
    (hnames : ∀ y ∈ names, IsName y) :
    ∃ y ∈ names, y ∉ namesIn s ∧ y ∉ namesIn (textWith s names) := by
  obtain ⟨hnew, hopen⟩ := not_or.mp htakes
  obtain ⟨c, hc⟩ := Classical.not_forall.mp hopen
  obtain ⟨hmem, hkept⟩ := Classical.not_imp.mp hc
  have hline : ∃ c ∈ openLine s.toList, isBlank c = false := ⟨c, hmem, by simpa using hkept⟩
  obtain ⟨first, rest, hcons⟩ := List.exists_cons_of_ne_nil hnew
  have hnodup := unknown_nodup (.ofList (namesIn s)) names
  rw [hcons] at hnodup
  have hall : ∀ z ∈ first :: rest, IsName z := by
    intro z hz
    rw [← hcons] at hz
    exact hnames z (mem_unknown.mp hz).1
  have hfirst : first ∈ names ∧ first ∉ namesIn s := by
    have hown : first ∈ unknown (.ofList (namesIn s)) names := by simp [hcons]
    rwa [mem_unknown, NameSet.mem_ofList] at hown
  refine ⟨first, hfirst.1, hfirst.2, ?_⟩
  rw [textWith, hcons, namesIn_append_linesOf s (hall first List.mem_cons_self)
    fun z hz => hall z (List.mem_cons_of_mem first hz)]
  have hclosed : first ∉ namesOfLines (Text.lines (closedLines s.toList)) := by
    intro hmem
    apply hfirst.2
    rw [namesIn_eq_closed_append_open]
    exact List.mem_append_left _ hmem
  simp only [List.mem_append, not_or]
  exact ⟨hclosed, not_mem_nameOfLine_append hline (hall first List.mem_cons_self),
    (List.nodup_cons.mp hnodup).1⟩

theorem ofList_namesIn_textWith_iff (hnames : ∀ y ∈ names, IsName y) :
    NameSet.ofList (namesIn (textWith s names)) = (NameSet.ofList (namesIn s)).union names ↔
      TakesNames s names := by
  constructor
  · intro heq
    by_contra htakes
    obtain ⟨y, hy, -, hlost⟩ := not_mem_namesIn_textWith htakes hnames
    have hunion : y ∈ (NameSet.ofList (namesIn s)).union names := NameSet.mem_union.mpr (.inr hy)
    rw [← heq, NameSet.mem_ofList] at hunion
    exact hlost hunion
  · intro htakes
    apply NameSet.ext
    intro y
    rw [NameSet.mem_ofList, mem_namesIn_textWith_of_takesNames htakes hnames, NameSet.mem_union,
      NameSet.mem_ofList]

/-! ## Persisting -/

variable {store : GoldsetStore} {issue : String} {e : Entities} {place place' : List String}

theorem load_of_showsText (hclass : LeadsTo fs (store.classPath issue) place)
    (hmethod : LeadsTo fs (store.methodPath issue) place') (hs : ShowsText fs place s)
    (ht : ShowsText fs place' t) :
    store.load fs issue = .ok ⟨.ofList (namesIn s), .ofList (namesIn t)⟩ := by
  unfold load
  rw [hs.readNames hclass, ht.readNames hmethod]
  rfl

/-- Entities are persisted for an issue whose two files hold any texts, or are not there; a file may
be one that can only be read if it lacks none of the names.  All that was loaded before and is
persisted is loaded afterwards exactly if both texts take their names; a text that does not loses the
first name that is written behind it. -/
theorem persist_loads_union_iff (hclass : LeadsTo fs (store.classPath issue) place)
    (hmethod : LeadsTo fs (store.methodPath issue) place') (hne : place ≠ place')
    (hs : Accepts fs place s e.classes) (ht : Accepts fs place' t e.methods) (hnamed : IsNamed e) :
    ∃ added fs' before after,
      store.persist fs issue e = (.ok added, fs') ∧
      store.load fs issue = .ok before ∧ store.load fs' issue = .ok after ∧
      (after = before.union e ↔ TakesNames s e.classes ∧ TakesNames t e.methods) ∧
      (¬ TakesNames s e.classes →
        ∃ x ∈ e.classes, x ∉ before.classes ∧ x ∉ after.classes) ∧
      (¬ TakesNames t e.methods →
        ∃ x ∈ e.methods, x ∉ before.methods ∧ x ∉ after.methods) := by
  have hplace := FileSystem.ne_nil_of_get?_ne hs.shows.not_directory
  have hplace' := FileSystem.ne_nil_of_get?_ne ht.shows.not_directory
  let between := withNames fs place s (unknown (.ofList (namesIn s)) e.classes)
  have hmethodBetween : LeadsTo between (store.methodPath issue) place' :=
    hs.keepsDirectories.leadsTo (withNames_workDir _) hmethod
  have htBetween : Accepts between place' t e.methods :=
    ht.congr (withNames_elsewhere hplace hne.symm _)
  let final := withNames between place' t (unknown (.ofList (namesIn t)) e.methods)
  have hpersist : store.persist fs issue e =
      (.ok ⟨(unknown (.ofList (namesIn s)) e.classes).length,
        (unknown (.ofList (namesIn t)) e.methods).length⟩, final) := by
    unfold persist
    rw [hs.appendNew fun _ => hclass]
    dsimp only
    rw [htBetween.appendNew fun _ => hmethodBetween]
  have hkeeps : fs.KeepsDirectories final := fun q hq =>
    htBetween.keepsDirectories q (hs.keepsDirectories q hq)
  have hwork : final.workDir = fs.workDir := by
    rw [withNames_workDir, withNames_workDir]
  have hsFinal : ShowsText final place (textWith s e.classes) :=
    hs.withNames.congr (withNames_elsewhere hplace' hne _)
  have htFinal : ShowsText final place' (textWith t e.methods) := htBetween.withNames
  have hload := load_of_showsText hclass hmethod hs.shows ht.shows
  have hloadFinal := load_of_showsText (hkeeps.leadsTo hwork hclass)
    (hkeeps.leadsTo hwork hmethod) hsFinal htFinal
  refine ⟨_, final, _, _, hpersist, hload, hloadFinal, ?_, ?_, ?_⟩
  · rw [← ofList_namesIn_textWith_iff hnamed.classes, ← ofList_namesIn_textWith_iff hnamed.methods,
      Entities.union, Entities.mk.injEq]
  · intro htakes
    obtain ⟨x, hx, hbefore, hafter⟩ := not_mem_namesIn_textWith htakes hnamed.classes
    exact ⟨x, hx, by rwa [NameSet.mem_ofList], by rwa [NameSet.mem_ofList]⟩
  · intro htakes
    obtain ⟨x, hx, hbefore, hafter⟩ := not_mem_namesIn_textWith htakes hnamed.methods
    exact ⟨x, hx, by rwa [NameSet.mem_ofList], by rwa [NameSet.mem_ofList]⟩

/-- A store whose method file of an issue was edited: carriage returns, a blank line, blanks around
a name and at the end. -/
def editedDisk (text : String) : FileSystem :=
  { entries := [(["store"], .directory), (["store", "class"], .directory),
      (["store", "method"], .directory), (["store", "method", "7.txt"], .file (.text text))] }

/-- A line of blanks at the end of an edited file does no harm. -/
theorem persist_loads_union_of_edited :
    ∃ added fs' before after,
      (below "/store").persist (editedDisk "  m.a \r\n\r\nm.b\r\n \t") "7"
        ⟨.ofList ["m.A"], .ofList ["m.b", "m.c"]⟩ = (.ok added, fs') ∧
      (below "/store").load (editedDisk "  m.a \r\n\r\nm.b\r\n \t") "7" = .ok before ∧
      (below "/store").load fs' "7" = .ok after ∧
      after = before.union ⟨.ofList ["m.A"], .ofList ["m.b", "m.c"]⟩ ∧
      "m.c" ∈ after.methods := by
  let fs := editedDisk "  m.a \r\n\r\nm.b\r\n \t"
  let e : Entities := ⟨.ofList ["m.A"], .ofList ["m.b", "m.c"]⟩
  have hclass : LeadsTo fs ((below "/store").classPath "7") ["store", "class", "7.txt"] :=
    ⟨by decide +kernel, by decide +kernel⟩
  have hmethod : LeadsTo fs ((below "/store").methodPath "7") ["store", "method", "7.txt"] :=
    ⟨by decide +kernel, by decide +kernel⟩
  have hs : HoldsText fs ["store", "class", "7.txt"] "" := .inr ⟨by decide, rfl⟩
  have ht : HoldsText fs ["store", "method", "7.txt"] "  m.a \r\n\r\nm.b\r\n \t" :=
    .inl (by decide)
  have hnamed : IsNamed e := isNamed_ofList (by decide +kernel) (by decide +kernel)
  have htakes : TakesNames "" e.classes ∧ TakesNames "  m.a \r\n\r\nm.b\r\n \t" e.methods :=
    ⟨by decide +kernel, by decide +kernel⟩
  obtain ⟨added, fs', before, after, hpersist, hbefore, hafter, hunion, -, -⟩ :=
    persist_loads_union_iff hclass hmethod (by decide) (hs.accepts _) (ht.accepts _) hnamed
  have hsame := hunion.mpr htakes
  refine ⟨added, fs', before, after, hpersist, hbefore, hafter, hsame, ?_⟩
  rw [hsame]
  exact Entities.mem_methods_union.mpr (.inr (NameSet.mem_ofList.mpr (by decide)))

/-- A name in a file without a line feed at its end is lost together with the name that is written
behind it: another name is loaded in place of the two. -/
theorem persist_glues_names :
    ∃ fs',
      (below "/store").load (editedDisk "m.a") "7" = .ok ⟨.ofList [], .ofList ["m.a"]⟩ ∧
      (below "/store").persist (editedDisk "m.a") "7" ⟨.ofList [], .ofList ["m.b"]⟩ =
        (.ok ⟨0, 1⟩, fs') ∧
      fs'.readText "/store/method/7.txt" = .ok "m.am.b\n" ∧
      (below "/store").load fs' "7" = .ok ⟨.ofList [], .ofList ["m.am.b"]⟩ ∧
      "m.a" ∉ NameSet.ofList ["m.am.b"] ∧ "m.b" ∉ NameSet.ofList ["m.am.b"] := by
  let fs' := ((below "/store").persist (editedDisk "m.a") "7" ⟨.ofList [], .ofList ["m.b"]⟩).2
  have hclasses : ∀ text, readNames (editedDisk text) ((below "/store").classPath "7") = .ok [] := by
    intro text
    rfl
  have hmethods : readNames (editedDisk "m.a") ((below "/store").methodPath "7") = .ok ["m.a"] := by
    decide +kernel
  have hclasses' : readNames fs' ((below "/store").classPath "7") = .ok [] := by decide +kernel
  have hmethods' : readNames fs' ((below "/store").methodPath "7") = .ok ["m.am.b"] := by
    decide +kernel
  refine ⟨fs', ?_, by decide +kernel, by decide +kernel, ?_, ?_, ?_⟩
  · unfold load
    rw [hclasses, hmethods]
    rfl
  · unfold load
    rw [hclasses', hmethods']
    rfl
  · rw [NameSet.mem_ofList]
    decide
  · rw [NameSet.mem_ofList]
    decide

end IssueTrace.GoldsetStore
