import IssueTrace.Proofs.Goldset.LineNames
import IssueTrace.Proofs.Storage.Writing

/-!
# Persisting a goldset again

The files of a store are texts of whole lines, whatever was persisted before.  A name that takes a
line is found there when it is persisted again, and is not written a second time.  Any other name is
never found, so it is written every time and never loaded.
-/

namespace IssueTrace

open FileSystem (Admits LeadsTo)
open Source (Parser)

namespace GoldsetStore

variable {fs fs' : FileSystem} {place : List String} {path s : String} {names : NameSet}

/-! ## Texts of files -/

/-- What the names at a place are read from: the text of a file that may be read, or the empty text
where nothing is. -/
def ShowsText (fs : FileSystem) (place : List String) (s : String) : Prop :=
  (∃ entry, fs.get? place = some entry ∧ entry.readable? = some (.text s)) ∨
    fs.get? place = none ∧ s = ""

theorem ShowsText.congr (h : ShowsText fs place s) (hget : fs'.get? place = fs.get? place) :
    ShowsText fs' place s := by
  unfold ShowsText
  rw [hget]
  exact h

theorem ShowsText.not_directory (h : ShowsText fs place s) : fs.get? place ≠ some .directory := by
  intro hdirectory
  rcases h with ⟨entry, hget, hread⟩ | ⟨hget, -⟩
  · rw [hdirectory] at hget
    obtain rfl := Option.some.inj hget
    cases hread
  · rw [hdirectory] at hget
    cases hget

theorem ShowsText.readNames (h : ShowsText fs place s) (hpath : LeadsTo fs path place) :
    readNames fs path = .ok (namesIn s) := by
  unfold GoldsetStore.readNames
  rcases h with ⟨entry, hget, hread⟩ | ⟨hget, rfl⟩
  · rw [hpath.readText_of_readable hget hread]
  · rw [hpath.readText_of_none hget]
    rfl

/-- Names can be read only where a text may be read, or nothing is. -/
theorem showsText_of_readNames {known : List String} (hpath : LeadsTo fs path place)
    (h : readNames fs path = .ok known) : ∃ s, ShowsText fs place s ∧ known = namesIn s := by
  unfold GoldsetStore.readNames at h
  cases hread : fs.readText path with
  | ok s =>
      obtain ⟨own, entry, hown, hget, hentry⟩ := FileSystem.readText_eq_ok hread
      obtain rfl : own = place :=
        FileSystem.targetAt_inj (Except.ok.inj (hown.located.symm.trans hpath.located))
      rw [hread] at h
      exact ⟨s, .inl ⟨entry, hget, hentry⟩, (Except.ok.inj h).symm⟩
  | error fault =>
      rw [hread] at h
      cases fault with
      | notFound =>
          exact ⟨"", .inr ⟨hpath.get?_of_notFound hread, rfl⟩, (Except.ok.inj h).symm⟩
      | _ => cases h

/-- What names can be written behind: the text of a file, or the empty text where nothing is. -/
def HoldsText (fs : FileSystem) (place : List String) (s : String) : Prop :=
  fs.get? place = some (.file (.text s)) ∨ fs.get? place = none ∧ s = ""

theorem HoldsText.shows (h : HoldsText fs place s) : ShowsText fs place s := by
  rcases h with hget | hnone
  · exact .inl ⟨_, hget, rfl⟩
  · exact .inr hnone

theorem ShowsText.holdsText (h : ShowsText fs place s) {before : Option Content}
    (hget : fs.get? place = before.map .file) : HoldsText fs place s := by
  rcases h with ⟨entry, hentry, hread⟩ | hnone
  · rw [hentry] at hget
    obtain ⟨content, -, rfl⟩ := Option.map_eq_some_iff.mp hget.symm
    obtain rfl := Option.some.inj hread
    exact .inl hentry
  · exact .inr hnone

theorem HoldsText.congr (h : HoldsText fs place s) (hget : fs'.get? place = fs.get? place) :
    HoldsText fs' place s := by
  unfold HoldsText
  rw [hget]
  exact h

theorem HoldsText.not_directory (h : HoldsText fs place s) : fs.get? place ≠ some .directory :=
  h.shows.not_directory

theorem HoldsText.append (h : HoldsText fs place s) (hpath : LeadsTo fs path place)
    (t : String) : fs.append path t = .ok (fs.put place (.file (.text (s ++ t)))) := by
  rcases h with hget | ⟨hget, rfl⟩
  · exact hpath.append_of_text hget t
  · rw [hpath.append_of_none hget, String.empty_append]

/-- The file system with names at the end of the text at a place, if there are any names. -/
def withNames (fs : FileSystem) (place : List String) (s : String) (xs : List String) :
    FileSystem :=
  if xs = [] then fs else fs.put place (.file (.text (s ++ linesOf xs)))

@[simp]
theorem withNames_nil : withNames fs place s [] = fs := if_pos rfl

theorem withNames_of_ne_nil {xs : List String} (h : xs ≠ []) :
    withNames fs place s xs = fs.put place (.file (.text (s ++ linesOf xs))) := if_neg h

@[simp]
theorem withNames_workDir (xs : List String) : (withNames fs place s xs).workDir = fs.workDir := by
  unfold withNames
  split
  · rfl
  · rfl

theorem withNames_elsewhere (hplace : place ≠ []) {q : List String} (hq : q ≠ place)
    (xs : List String) : (withNames fs place s xs).get? q = fs.get? q := by
  unfold withNames
  split
  · rfl
  · exact FileSystem.get?_put_of_ne hplace hq

theorem HoldsText.withNames (h : HoldsText fs place s) (xs : List String) :
    HoldsText (withNames fs place s xs) place (s ++ linesOf xs) := by
  by_cases hxs : xs = []
  · rw [hxs, withNames_nil, linesOf_nil, String.append_empty]
    exact h
  · rw [withNames_of_ne_nil hxs]
    exact .inl (FileSystem.get?_put_self (FileSystem.ne_nil_of_get?_ne h.not_directory))

theorem HoldsText.keepsDirectories (h : HoldsText fs place s) (xs : List String) :
    fs.KeepsDirectories (GoldsetStore.withNames fs place s xs) := by
  by_cases hxs : xs = []
  · rw [hxs, withNames_nil]
    exact fun _ => id
  · rw [withNames_of_ne_nil hxs]
    exact FileSystem.keepsDirectories_put_file h.not_directory _

theorem linesOf_eq_empty_iff {xs : List String} : linesOf xs = "" ↔ xs = [] := by
  constructor
  · intro hlines
    by_contra hxs
    have hlast := linesOf_getLast? hxs
    simp [hlines] at hlast
  · rintro rfl
    exact linesOf_nil

theorem HoldsText.get?_withNames_eq_iff (h : HoldsText fs place s) {xs : List String} :
    (GoldsetStore.withNames fs place s xs).get? place = fs.get? place ↔ xs = [] := by
  constructor
  · intro heq
    by_contra hxs
    rw [withNames_of_ne_nil hxs,
      FileSystem.get?_put_self (FileSystem.ne_nil_of_get?_ne h.not_directory)] at heq
    rcases h with hold | ⟨hold, -⟩
    · rw [hold] at heq
      have htext : s ++ linesOf xs = s := by simpa using heq
      have hletters := congrArg String.toList htext
      have hlines : linesOf xs = "" := by simpa using hletters
      exact hxs (linesOf_eq_empty_iff.mp hlines)
    · rw [hold] at heq
      cases heq
  · rintro rfl
    rw [withNames_nil]

theorem HoldsText.continues (h : HoldsText fs place s) (xs q : List String) :
    Continues fs (GoldsetStore.withNames fs place s xs) q := by
  have hplace := FileSystem.ne_nil_of_get?_ne h.not_directory
  by_cases hxs : xs = []
  · rw [hxs, withNames_nil]
    exact Continues.of_eq rfl
  · rw [withNames_of_ne_nil hxs]
    by_cases hq : q = place
    · subst hq
      intro entry hentry
      rcases h with hold | ⟨hold, -⟩
      · obtain rfl : .file (.text s) = entry := Option.some.inj (hold.symm.trans hentry)
        exact .inr ⟨s, linesOf xs, rfl, FileSystem.get?_put_self hplace⟩
      · simp [hold] at hentry
    · exact Continues.of_eq (FileSystem.get?_put_of_ne hplace hq)

theorem filter_not_namesIn_eq_unknown (s : String) (names : NameSet) :
    names.toList.filter (!(namesIn s).contains ·) = unknown (.ofList (namesIn s)) names :=
  filter_not_contains_eq_unknown (fun _ => NameSet.mem_ofList.symm) names

/-- What names can be added to: a text that may be read, and behind which can be written unless all
the names are read from it. -/
structure Accepts (fs : FileSystem) (place : List String) (s : String) (names : NameSet) : Prop where
  shows : ShowsText fs place s
  holds : unknown (.ofList (namesIn s)) names ≠ [] → HoldsText fs place s

theorem HoldsText.accepts (h : HoldsText fs place s) (names : NameSet) :
    Accepts fs place s names :=
  ⟨h.shows, fun _ => h⟩

namespace Accepts

theorem congr (h : Accepts fs place s names) (hget : fs'.get? place = fs.get? place) :
    Accepts fs' place s names :=
  ⟨h.shows.congr hget, fun hmissing => (h.holds hmissing).congr hget⟩

theorem withNames (h : Accepts fs place s names) :
    ShowsText (withNames fs place s (unknown (.ofList (namesIn s)) names)) place
      (s ++ linesOf (unknown (.ofList (namesIn s)) names)) := by
  by_cases hnone : unknown (.ofList (namesIn s)) names = []
  · rw [hnone, withNames_nil, linesOf_nil, String.append_empty]
    exact h.shows
  · exact ((h.holds hnone).withNames _).shows

theorem keepsDirectories (h : Accepts fs place s names) :
    fs.KeepsDirectories
      (GoldsetStore.withNames fs place s (unknown (.ofList (namesIn s)) names)) := by
  by_cases hnone : unknown (.ofList (namesIn s)) names = []
  · rw [hnone, withNames_nil]
    exact fun _ => id
  · exact (h.holds hnone).keepsDirectories _

theorem appendNew (h : Accepts fs place s names)
    (hpath : names.isEmpty = false → LeadsTo fs path place) :
    appendNew fs path names =
      .ok ((unknown (.ofList (namesIn s)) names).length,
        GoldsetStore.withNames fs place s (unknown (.ofList (namesIn s)) names)) := by
  unfold GoldsetStore.appendNew
  by_cases hempty : names.isEmpty = true
  · rw [if_pos hempty, unknown_eq_nil_of_isEmpty hempty]
    rfl
  · have hpath := hpath (by simpa using hempty)
    have hfresh := filter_not_namesIn_eq_unknown s names
    rw [if_neg hempty, h.shows.readNames hpath]
    simp only [bind, Except.bind, hfresh]
    by_cases hnone : unknown (.ofList (namesIn s)) names = []
    · rw [hnone, withNames_nil]
      rfl
    · rw [if_neg (by simpa using hnone), withNames_of_ne_nil hnone, (h.holds hnone).append hpath]
      rfl

end Accepts

/-! ## Names that are read back -/

/-- The names of a set that take no line, in the order of the set. -/
def lost (names : NameSet) : List String := names.toList.filter fun x => ¬ IsName x

theorem lost_eq_nil_iff : lost names = [] ↔ ∀ x ∈ names, IsName x := by
  unfold lost
  rw [List.filter_eq_nil_iff]
  simp only [decide_eq_true_eq, not_not]
  rfl

/-- The text at a place is one of whole lines, and of a set just those names are read from it that
take a line. -/
structure Covers (fs : FileSystem) (place : List String) (s : String) (names : NameSet) :
    Prop where
  holds : HoldsText fs place s
  whole : IsWhole s
  mem_iff : ∀ x ∈ names, x ∈ namesIn s ↔ IsName x

theorem Covers.congr (h : Covers fs place s names) (hget : fs'.get? place = fs.get? place) :
    Covers fs' place s names :=
  ⟨h.holds.congr hget, h.whole, h.mem_iff⟩

/-- Whole lines with the names behind them that were not read from them. -/
theorem covers_withNames (h : HoldsText fs place s) (hs : IsWhole s) (names : NameSet) :
    Covers (withNames fs place s (unknown (.ofList (namesIn s)) names)) place
      (s ++ linesOf (unknown (.ofList (namesIn s)) names)) names where
  holds := h.withNames _
  whole := hs.append (isWhole_linesOf _)
  mem_iff x hx := by
    refine ⟨isName_of_mem_namesIn, ?_⟩
    intro hname
    rw [hs.namesIn_append, List.mem_append]
    by_cases hknown : x ∈ namesIn s
    · exact .inl hknown
    · right
      apply mem_namesIn_linesOf hname
      exact mem_unknown.mpr ⟨hx, fun hmem => hknown (NameSet.mem_ofList.mp hmem)⟩

/-- What is not read back is taken to be new. -/
theorem Covers.unknown_eq_lost (h : Covers fs place s names) :
    unknown (.ofList (namesIn s)) names = lost names := by
  rw [← filter_not_namesIn_eq_unknown]
  unfold lost
  apply List.filter_congr
  intro x hx
  have hiff := h.mem_iff x hx
  by_cases hname : IsName x
  · simp [hname, hiff.mpr hname]
  · have hnot : x ∉ namesIn s := fun hmem => hname (hiff.mp hmem)
    simp [hname, hnot]

/-! ## Whole lines -/

/-- What is at a place, if anything, is a text of whole lines. -/
def WholeAt (fs : FileSystem) (place : List String) : Prop := ∃ s, HoldsText fs place s ∧ IsWhole s

/-- The names that a list does not hold yet. -/
def fresh (known : List String) (names : NameSet) : List String :=
  names.toList.filter (!known.contains ·)

/-- Names can be added where there are none of them, and where those of the file can be read and the
fresh ones, if any, can be written behind them. -/
theorem appendNew_eq_ok_iff {count : Nat} :
    appendNew fs path names = .ok (count, fs') ↔
      (names.isEmpty = true ∧ count = 0 ∧ fs = fs') ∨
      names.isEmpty = false ∧ ∃ known, readNames fs path = .ok known ∧
        count = (fresh known names).length ∧
        (fresh known names = [] ∧ fs = fs' ∨
          fresh known names ≠ [] ∧ fs.append path (linesOf (fresh known names)) = .ok fs') := by
  unfold appendNew
  by_cases hempty : names.isEmpty = true
  · rw [if_pos hempty]
    simp only [hempty, Bool.true_eq_false, true_and, false_and, or_false]
    simp only [pure, Except.pure, Except.ok.injEq, Prod.mk.injEq, eq_comm (a := count)]
  · rw [if_neg hempty]
    rw [Bool.not_eq_true] at hempty
    simp only [hempty, Bool.false_eq_true, false_and, false_or, true_and]
    cases hknown : readNames fs path with
    | error fault => simp [bind, Except.bind]
    | ok known =>
        change (if (fresh known names).isEmpty then _ else _) = _ ↔ _
        simp only [Except.ok.injEq, exists_eq_left']
        by_cases hfresh : fresh known names = []
        · simp only [hfresh, List.isEmpty_nil, if_true, List.length_nil, ne_eq, not_true_eq_false,
            true_and, false_and, or_false]
          simp only [pure, Except.pure, Except.ok.injEq, Prod.mk.injEq, eq_comm (a := count)]
        · rw [if_neg (by simpa using hfresh)]
          simp only [hfresh, false_and, false_or, ne_eq, not_false_eq_true, true_and]
          change (fs.append path (linesOf (fresh known names)) >>= _) = _ ↔ _
          cases fs.append path (linesOf (fresh known names)) with
          | error fault => simp [bind, Except.bind]
          | ok own =>
              change Except.ok ((fresh known names).length, own) = _ ↔ _
              simp only [Except.ok.injEq, Prod.mk.injEq, eq_comm (a := count)]

theorem appendNew_eq_ok {count : Nat} (h : appendNew fs path names = .ok (count, fs')) :
    fs' = fs ∨ ∃ xs, fs.append path (linesOf xs) = .ok fs' := by
  rcases appendNew_eq_ok_iff.mp h with ⟨-, -, rfl⟩ | ⟨-, known, -, -, ⟨-, rfl⟩ | ⟨-, happend⟩⟩
  · exact .inl rfl
  · exact .inl rfl
  · exact .inr ⟨_, happend⟩

/-- What adding names anywhere keeps: the directories, and that files are texts of whole lines. -/
structure KeepsLines (fs fs' : FileSystem) : Prop where
  directories : fs.KeepsDirectories fs'
  workDir_eq : fs'.workDir = fs.workDir
  whole : ∀ place, WholeAt fs place → WholeAt fs' place

theorem appendNew_keepsLines {count : Nat} (h : appendNew fs path names = .ok (count, fs')) :
    KeepsLines fs fs' := by
  rcases appendNew_eq_ok h with rfl | ⟨xs, happend⟩
  · exact ⟨fun _ => id, rfl, fun _ => id⟩
  · obtain ⟨place, before, hbefore, rfl⟩ := FileSystem.append_eq_ok happend
    have hdirectory : fs.get? place ≠ some .directory := by
      rw [hbefore]
      cases before with
      | none => simp
      | some content => simp
    have hplace := FileSystem.ne_nil_of_get?_ne hdirectory
    refine ⟨FileSystem.keepsDirectories_put_file hdirectory _, rfl, ?_⟩
    rintro q ⟨s, hholds, hs⟩
    by_cases hq : q = place
    · subst hq
      refine ⟨s ++ linesOf xs, .inl ?_, hs.append (isWhole_linesOf xs)⟩
      rw [FileSystem.get?_put_self hplace]
      rcases hholds with hold | ⟨hold, rfl⟩
      · rw [hbefore] at hold
        cases before with
        | none => cases hold
        | some content =>
            obtain rfl : content = .text s := by simpa using hold
            rfl
      · rw [hbefore] at hold
        cases before with
        | none => rfl
        | some content => cases hold
    · exact ⟨s, hholds.congr (FileSystem.get?_put_of_ne hplace hq), hs⟩

/-! ## The state of a store -/

/-- The directories of a store are there, and the files of issues are texts of whole lines. -/
structure HoldsLinesOnly (store : GoldsetStore) (place : List String) (fs : FileSystem) :
    Prop where
  classDir : fs.locate store.classDir = .ok (.existing (place ++ ["class"]) .directory)
  methodDir : fs.locate store.methodDir = .ok (.existing (place ++ ["method"]) .directory)
  classes : ∀ issue, '/' ∉ issue.toList → WholeAt fs (filePlace place "class" issue)
  methods : ∀ issue, '/' ∉ issue.toList → WholeAt fs (filePlace place "method" issue)

variable {store : GoldsetStore} {fs₀ fs₁ fs₂ : FileSystem} {issue : String} {e : Entities}
  {added : Added}

theorem KeepsLines.trans (h : KeepsLines fs fs₁) (h' : KeepsLines fs₁ fs₂) :
    KeepsLines fs fs₂ where
  directories q hq := h'.directories q (h.directories q hq)
  workDir_eq := h'.workDir_eq.trans h.workDir_eq
  whole q hq := h'.whole q (h.whole q hq)

theorem KeepsLines.holdsLinesOnly (h : KeepsLines fs fs')
    (hholds : HoldsLinesOnly store place fs) : HoldsLinesOnly store place fs' where
  classDir := h.directories.locate h.workDir_eq hholds.classDir
  methodDir := h.directories.locate h.workDir_eq hholds.methodDir
  classes issue hissue := h.whole _ (hholds.classes issue hissue)
  methods issue hissue := h.whole _ (hholds.methods issue hissue)

theorem persist_keepsLines (h : store.persist fs issue e = (.ok added, fs₂)) :
    KeepsLines fs fs₂ := by
  obtain ⟨fs₁, hclasses, hmethods⟩ := persist_eq_ok h
  exact (appendNew_keepsLines hclasses).trans (appendNew_keepsLines hmethods)

theorem Records.wholeAt_of_empty (h : Records fs place {}) : WholeAt fs place := by
  obtain ⟨xs, hholds, -, -, hmem⟩ := h
  have hnil : xs = [] := by
    rw [List.eq_nil_iff_forall_not_mem]
    intro x hx
    exact NameSet.not_mem_empty ((hmem x).mp hx)
  unfold HoldsLines at hholds
  rw [if_pos hnil] at hholds
  exact ⟨"", .inr ⟨hholds, rfl⟩, .inl rfl⟩

theorem Run.holdsLinesOnly {root : String} {calls : List (String × Entities)}
    (hrun : Run store fs₀ calls fs₁)
    (hroot : fs.locate root = .ok (.existing place .directory))
    (hempty : ∀ names, names ≠ [] → fs.get? (place ++ names) = none)
    (hopen : openAt fs root = (.ok store, fs₀)) : HoldsLinesOnly store place fs₁ := by
  induction hrun with
  | start =>
      have hholds := Holds.of_openAt hroot hempty hopen
      refine ⟨hholds.classDir, hholds.methodDir, ?_, ?_⟩
      · intro issue hissue
        exact (hholds.classes issue hissue).wholeAt_of_empty
      · intro issue hissue
        exact (hholds.methods issue hissue).wholeAt_of_empty
  | persist _ hpersist ih => exact (persist_keepsLines hpersist).holdsLinesOnly ih

/-! ## Persisting once -/

theorem admits_of_appendNew {dir name : String} {count : Nat}
    (hdir : fs.locate dir = .ok (.existing place .directory)) (hname : Path.IsEntryName name)
    (h : appendNew fs (Path.join dir name) names = .ok (count, fs'))
    (hempty : names.isEmpty = false) : Admits dir name := by
  by_contra hadmits
  obtain ⟨fault, hlocate, hfault⟩ := FileSystem.locate_join_of_not_admits hdir hname hadmits
  unfold appendNew at h
  rw [hempty, readNames_of_error hlocate hfault] at h
  cases h

/-- After names were added to a text of whole lines, those that take a line are read from it. -/
theorem WholeAt.covers_of_appendNew {dir name : String} {count : Nat}
    (hwhole : WholeAt fs (place ++ [name]))
    (hdir : fs.locate dir = .ok (.existing place .directory)) (hname : Path.IsEntryName name)
    (h : appendNew fs (Path.join dir name) names = .ok (count, fs')) :
    (∃ s, Covers fs' (place ++ [name]) s names) ∧
      ∀ q, q ≠ place ++ [name] → fs'.get? q = fs.get? q := by
  obtain ⟨s, hholds, hs⟩ := hwhole
  have hpath : names.isEmpty = false → LeadsTo fs (Path.join dir name) (place ++ [name]) := by
    intro hempty
    exact FileSystem.leadsTo_join hdir hname (admits_of_appendNew hdir hname h hempty)
  rw [(hholds.accepts names).appendNew hpath, Except.ok.injEq, Prod.mk.injEq] at h
  obtain ⟨-, rfl⟩ := h
  refine ⟨⟨_, covers_withNames hholds hs names⟩, ?_⟩
  intro q hq
  exact withNames_elsewhere (by simp) hq _

/-- The files of an issue give what can be read back of its entities. -/
structure Persisted (store : GoldsetStore) (place : List String) (fs : FileSystem)
    (issue : String) (e : Entities) : Prop where
  holds : HoldsLinesOnly store place fs
  classes : ∃ s, Covers fs (filePlace place "class" issue) s e.classes
  methods : ∃ s, Covers fs (filePlace place "method" issue) s e.methods
  class_admits : e.classes.isEmpty = false → Admits store.classDir (issue ++ ".txt")
  method_admits : e.methods.isEmpty = false → Admits store.methodDir (issue ++ ".txt")

theorem HoldsLinesOnly.persisted (hholds : HoldsLinesOnly store place fs)
    (hissue : '/' ∉ issue.toList) (h : store.persist fs issue e = (.ok added, fs₂)) :
    Persisted store place fs₂ issue e := by
  have hfinal := (persist_keepsLines h).holdsLinesOnly hholds
  obtain ⟨fs₁, hclasses, hmethods⟩ := persist_eq_ok h
  have hbetween := (appendNew_keepsLines hclasses).holdsLinesOnly hholds
  have hfile := isEntryName_file hissue
  obtain ⟨⟨s, hs⟩, -⟩ :=
    (hholds.classes issue hissue).covers_of_appendNew hholds.classDir hfile hclasses
  obtain ⟨ht, helsewhere⟩ :=
    (hbetween.methods issue hissue).covers_of_appendNew hbetween.methodDir hfile hmethods
  have hsame : fs₂.get? (filePlace place "class" issue) =
      fs₁.get? (filePlace place "class" issue) := by
    apply helsewhere
    simp [filePlace]
  exact ⟨hfinal, ⟨s, hs.congr hsame⟩, ht,
    admits_of_appendNew hholds.classDir hfile hclasses,
    admits_of_appendNew hbetween.methodDir hfile hmethods⟩

/-! ## Persisting again -/

/-- What is persisted again and not read back is written again. -/
theorem Covers.appendNew (h : Covers fs place s names)
    (hpath : names.isEmpty = false → LeadsTo fs path place) :
    appendNew fs path names =
      .ok ((lost names).length, GoldsetStore.withNames fs place s (lost names)) := by
  rw [(h.holds.accepts names).appendNew hpath, h.unknown_eq_lost]

theorem Persisted.exists_persist (h : Persisted store place fs issue e)
    (hissue : '/' ∉ issue.toList) :
    ∃ fs', store.persist fs issue e =
        (.ok ⟨(lost e.classes).length, (lost e.methods).length⟩, fs') ∧
      (fs' = fs ↔ IsNamed e) ∧ ∀ q, Continues fs fs' q := by
  obtain ⟨s, hs⟩ := h.classes
  obtain ⟨t, ht⟩ := h.methods
  have hfile := isEntryName_file hissue
  have hne : filePlace place "method" issue ≠ filePlace place "class" issue := by
    simp [filePlace]
  have hplace : filePlace place "class" issue ≠ [] := by simp [filePlace]
  have hmethodPlace : filePlace place "method" issue ≠ [] := by simp [filePlace]
  have hclasses : appendNew fs (store.classPath issue) e.classes = _ :=
    hs.appendNew fun hempty =>
      FileSystem.leadsTo_join h.holds.classDir hfile (h.class_admits hempty)
  let between := withNames fs (filePlace place "class" issue) s (lost e.classes)
  have hmethodDir : between.locate store.methodDir =
      .ok (.existing (place ++ ["method"]) .directory) :=
    (hs.holds.keepsDirectories _).locate (withNames_workDir _) h.holds.methodDir
  have hbetween : Covers between (filePlace place "method" issue) t e.methods :=
    ht.congr (withNames_elsewhere hplace hne _)
  have hmethods : appendNew between (store.methodPath issue) e.methods = _ :=
    hbetween.appendNew fun hempty =>
      FileSystem.leadsTo_join hmethodDir hfile (h.method_admits hempty)
  let final := withNames between (filePlace place "method" issue) t (lost e.methods)
  refine ⟨final, ?_, ?_, ?_⟩
  · unfold GoldsetStore.persist
    rw [hclasses]
    dsimp only
    rw [hmethods]
  · constructor
    · intro heq
      have hsame : between.get? (filePlace place "class" issue) =
          fs.get? (filePlace place "class" issue) := by
        rw [← heq]
        exact (withNames_elsewhere hmethodPlace hne.symm _).symm
      have hsame' : final.get? (filePlace place "method" issue) =
          between.get? (filePlace place "method" issue) := by
        rw [heq]
        exact (withNames_elsewhere hplace hne _).symm
      constructor
      · exact lost_eq_nil_iff.mp (hs.holds.get?_withNames_eq_iff.mp hsame)
      · exact lost_eq_nil_iff.mp (hbetween.holds.get?_withNames_eq_iff.mp hsame')
    · intro hnamed
      have hnoClass := lost_eq_nil_iff.mpr hnamed.classes
      have hnoMethod := lost_eq_nil_iff.mpr hnamed.methods
      have hfirst : between = fs := by
        unfold between
        rw [hnoClass, withNames_nil]
      unfold final
      rw [hnoMethod, withNames_nil, hfirst]
  · intro q
    exact (hs.holds.continues _ q).trans (hbetween.holds.continues _ q)

/-- Of what was persisted, just the names that take a line are loaded. -/
theorem Persisted.load (h : Persisted store place fs issue e) (hissue : '/' ∉ issue.toList)
    (hadmits : store.AdmitsIssue issue) :
    ∃ loaded, store.load fs issue = .ok loaded ∧
      (∀ x ∈ e.classes, x ∈ loaded.classes ↔ IsName x) ∧
      ∀ x ∈ e.methods, x ∈ loaded.methods ↔ IsName x := by
  obtain ⟨s, hs⟩ := h.classes
  obtain ⟨t, ht⟩ := h.methods
  have hfile := isEntryName_file hissue
  have hclasses := hs.holds.shows.readNames
    (FileSystem.leadsTo_join h.holds.classDir hfile hadmits.class_file)
  have hmethods := ht.holds.shows.readNames
    (FileSystem.leadsTo_join h.holds.methodDir hfile hadmits.method_file)
  refine ⟨⟨.ofList (namesIn s), .ofList (namesIn t)⟩, ?_, ?_, ?_⟩
  · unfold GoldsetStore.load classPath methodPath
    rw [hclasses, hmethods]
    rfl
  · intro x hx
    rw [NameSet.mem_ofList]
    exact hs.mem_iff x hx
  · intro x hx
    rw [NameSet.mem_ofList]
    exact ht.mem_iff x hx

/-- A goldset that was persisted for an issue is persisted again.  Just its names that take no line
are written and counted again; so the store stays as it is exactly if every name takes a line, as it
does when no changed file has a line feed in its path or a package that begins with a blank.  Files
only go on, and of the goldset just the names that take a line are loaded. -/
theorem persist_again {root : String} {calls : List (String × Entities)}
    (hroot : fs.locate root = .ok (.existing place .directory))
    (hempty : ∀ names, names ≠ [] → fs.get? (place ++ names) = none)
    (hopen : openAt fs root = (.ok store, fs₀)) (hrun : Run store fs₀ calls fs₁)
    (hissue : '/' ∉ issue.toList) (parser : Parser) (repo : Repository)
    (options : ResolverOptions) (ids : List CommitId) (journal : Journal)
    (hpersist : store.persist fs₁ issue (aggregateBy parser repo options ids journal).1 =
      (.ok added, fs₂)) :
    ∃ fs₃,
      store.persist fs₂ issue (aggregateBy parser repo options ids journal).1 =
        (.ok ⟨(lost (aggregateBy parser repo options ids journal).1.classes).length,
          (lost (aggregateBy parser repo options ids journal).1.methods).length⟩, fs₃) ∧
      (fs₃ = fs₂ ↔ IsNamed (aggregateBy parser repo options ids journal).1) ∧
      ((∀ id ∈ ids, ∀ files, changesOf repo options id = .ok files →
        ∀ file ∈ files, NamesLines parser repo options id file.path) → fs₃ = fs₂) ∧
      (∀ q, Continues fs₂ fs₃ q) ∧
      (store.AdmitsIssue issue → ∃ loaded, store.load fs₂ issue = .ok loaded ∧
        (∀ x ∈ (aggregateBy parser repo options ids journal).1.classes,
          x ∈ loaded.classes ↔ IsName x) ∧
        ∀ x ∈ (aggregateBy parser repo options ids journal).1.methods,
          x ∈ loaded.methods ↔ IsName x) := by
  have hholds := hrun.holdsLinesOnly hroot hempty hopen
  have hpersisted := hholds.persisted hissue hpersist
  obtain ⟨fs₃, hagain, hsame, hcontinues⟩ := hpersisted.exists_persist hissue
  refine ⟨fs₃, hagain, hsame, ?_, hcontinues, hpersisted.load hissue⟩
  intro hlines
  exact hsame.mpr (isNamed_aggregateBy hlines journal)

/-! ## Two goldsets -/

theorem eq_ofList {xs ys : List String} (hclasses : e.classes.toList = xs)
    (hmethods : e.methods.toList = ys) : e = ⟨.ofList xs, .ofList ys⟩ := by
  apply Entities.ext_mem
  · intro x
    rw [NameSet.mem_def, hclasses, NameSet.mem_ofList]
  · intro x
    rw [NameSet.mem_def, hmethods, NameSet.mem_ofList]

/-- What the commit of the sample touches. -/
def sampleGoldset : Entities :=
  (aggregateBy Sample.parser Sample.repository { contextLines := 0 } [Sample.commit] {}).1

theorem sampleGoldset_eq : sampleGoldset = ⟨.ofList [], .ofList ["pkg.mod.g"]⟩ := by
  apply eq_ofList
  · decide +kernel
  · decide +kernel

/-- The goldset of the sample is persisted once, and once more without anything to add. -/
theorem persist_again_of_sample :
    ∃ fs₀ fs₁,
      openAt emptyDisk "/store" = (.ok (below "/store"), fs₀) ∧
      (below "/store").persist fs₀ "7" sampleGoldset = (.ok ⟨0, 1⟩, fs₁) ∧
      (below "/store").persist fs₁ "7" sampleGoldset = (.ok ⟨0, 0⟩, fs₁) := by
  let fs₀ := (openAt emptyDisk "/store").2
  let fs₁ := ((below "/store").persist fs₀ "7" ⟨.ofList [], .ofList ["pkg.mod.g"]⟩).2
  have hroot : emptyDisk.locate "/store" = .ok (.existing ["store"] .directory) := by
    decide +kernel
  have hempty : ∀ names, names ≠ [] → emptyDisk.get? (["store"] ++ names) = none := by
    intro names hnames
    cases names with
    | nil => exact absurd rfl hnames
    | cons name names => simp [emptyDisk, FileSystem.get?]
  have hopen : openAt emptyDisk "/store" = (.ok (below "/store"), fs₀) := by
    decide +kernel
  have hpersist : (below "/store").persist fs₀ "7" sampleGoldset = (.ok ⟨0, 1⟩, fs₁) := by
    rw [sampleGoldset_eq]
    decide +kernel
  have hnamed : IsNamed sampleGoldset := by
    rw [sampleGoldset_eq]
    exact isNamed_ofList (by simp) (by decide +kernel)
  obtain ⟨fs₂, hagain, hsame, -⟩ := persist_again hroot hempty hopen .start (by decide)
    Sample.parser Sample.repository { contextLines := 0 } [Sample.commit] {} hpersist
  have hclasses : lost sampleGoldset.classes = [] := lost_eq_nil_iff.mpr hnamed.classes
  have hmethods : lost sampleGoldset.methods = [] := lost_eq_nil_iff.mpr hnamed.methods
  have hcount : (⟨(lost sampleGoldset.classes).length, (lost sampleGoldset.methods).length⟩ :
      Added) = ⟨0, 0⟩ := by
    rw [hclasses, hmethods]
    rfl
  rw [hsame.mpr hnamed] at hagain
  refine ⟨fs₀, fs₁, hopen, hpersist, ?_⟩
  rw [← hcount]
  exact hagain

/-- The sample with its package in a directory whose name begins with a blank. -/
def blankRepository : Repository where
  commit := Sample.repository.commit
  content _ path :=
    if path = " pkg/mod.py" then .ok Sample.text
    else .error (.contentNotFound Sample.commit path)
  pathExists _ path := path = " pkg/__init__.py"
  changes _ _ _ _ := .ok [⟨" pkg/mod.py", ["@@ -2,0 +3 @@"]⟩]

/-- What the commit of that repository touches. -/
def blankGoldset : Entities :=
  (aggregateBy Sample.parser blankRepository { contextLines := 0 } [Sample.commit] {}).1

theorem blankGoldset_eq : blankGoldset = ⟨.ofList [], .ofList [" pkg.mod.g"]⟩ := by
  apply eq_ofList
  · decide +kernel
  · decide +kernel

/-- A name that begins with a blank is written and counted again, and not loaded. -/
theorem persist_again_duplicates :
    ∃ fs₀ fs₁ fs₂ loaded,
      openAt emptyDisk "/store" = (.ok (below "/store"), fs₀) ∧
      (below "/store").persist fs₀ "7" blankGoldset = (.ok ⟨0, 1⟩, fs₁) ∧
      (below "/store").persist fs₁ "7" blankGoldset = (.ok ⟨0, 1⟩, fs₂) ∧
      fs₁.readText "/store/method/7.txt" = .ok " pkg.mod.g\n" ∧
      fs₂.readText "/store/method/7.txt" = .ok " pkg.mod.g\n pkg.mod.g\n" ∧
      (below "/store").load fs₁ "7" = .ok loaded ∧
      " pkg.mod.g" ∈ blankGoldset.methods ∧ " pkg.mod.g" ∉ loaded.methods := by
  let fs₀ := (openAt emptyDisk "/store").2
  let fs₁ := ((below "/store").persist fs₀ "7" ⟨.ofList [], .ofList [" pkg.mod.g"]⟩).2
  let fs₂ := ((below "/store").persist fs₁ "7" ⟨.ofList [], .ofList [" pkg.mod.g"]⟩).2
  have hclasses : readNames fs₁ ((below "/store").classPath "7") = .ok [] := by decide +kernel
  have hmethods : readNames fs₁ ((below "/store").methodPath "7") = .ok ["pkg.mod.g"] := by
    decide +kernel
  have hload : (below "/store").load fs₁ "7" = .ok ⟨.ofList [], .ofList ["pkg.mod.g"]⟩ := by
    unfold load
    rw [hclasses, hmethods]
    rfl
  rw [blankGoldset_eq]
  refine ⟨fs₀, fs₁, fs₂, _, ?_, ?_, ?_, ?_, ?_, hload, ?_, ?_⟩
  · decide +kernel
  · decide +kernel
  · decide +kernel
  · decide +kernel
  · decide +kernel
  · rw [NameSet.mem_ofList]
    decide +kernel
  · rw [NameSet.mem_ofList]
    decide +kernel

end GoldsetStore

end IssueTrace
