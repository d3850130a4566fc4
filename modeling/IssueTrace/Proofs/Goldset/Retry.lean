import IssueTrace.Proofs.Goldset.NewFiles
import IssueTrace.Proofs.Storage.Replacement

/-!
# Persisting after a failure

A call that fails has changed nothing, or it has added the classes that were missing and then failed
at the file of the methods.  Names that could be read before are read afterwards, in their order and
before any others.  Once something readable stands in place of the file at which the call failed, or
nothing does, the call can be repeated: it leaves what a first call in that state leaves, because the
classes are not added twice.
-/

namespace IssueTrace.GoldsetStore

open FileSystem (Admits LeadsTo SameEntries)

variable {fs fs' : FileSystem} {place q : List String} {path s issue : String} {names : NameSet}
  {store : GoldsetStore} {e : Entities} {fault : IoFault} {found : Option String}

/-! ## Where a call fails -/

/-- A call fails at the file of the classes, or at that of the methods after the classes were added. -/
theorem persist_eq_error (h : store.persist fs issue e = (.error fault, fs')) :
    appendNew fs (store.classPath issue) e.classes = .error fault ∧ fs' = fs ∨
      ∃ count, appendNew fs (store.classPath issue) e.classes = .ok (count, fs') ∧
        appendNew fs' (store.methodPath issue) e.methods = .error fault := by
  rw [persist] at h
  cases hclasses : appendNew fs (store.classPath issue) e.classes with
  | error own =>
      simp only [hclasses, Prod.mk.injEq, Except.error.injEq] at h
      obtain ⟨rfl, rfl⟩ := h
      exact .inl ⟨rfl, rfl⟩
  | ok added =>
      obtain ⟨count, between⟩ := added
      simp only [hclasses] at h
      cases hmethods : appendNew between (store.methodPath issue) e.methods with
      | ok added => simp [hmethods] at h
      | error own =>
          simp only [hmethods, Prod.mk.injEq, Except.error.injEq] at h
          obtain ⟨rfl, rfl⟩ := h
          exact .inr ⟨count, rfl, hmethods⟩

theorem appendNew_of_isEmpty (h : names.isEmpty = true) : appendNew fs path names = .ok (0, fs) := by
  rw [appendNew, if_pos h]
  rfl

theorem withNames_of_isEmpty (h : names.isEmpty = true) (known : NameSet) :
    withNames fs q s (unknown known names) = fs := by
  rw [unknown_eq_nil_of_isEmpty h known, withNames_nil]

theorem exists_appendNew_eq_withNames (haccepts : names.isEmpty = false → Accepts fs q s names)
    (hpath : names.isEmpty = false → LeadsTo fs path q) :
    ∃ count, appendNew fs path names =
      .ok (count, withNames fs q s (unknown (.ofList (namesIn s)) names)) := by
  cases hempty : names.isEmpty with
  | true => exact ⟨0, by rw [withNames_of_isEmpty hempty, appendNew_of_isEmpty hempty]⟩
  | false => exact ⟨_, (haccepts hempty).appendNew fun _ => hpath hempty⟩

theorem appendNew_eq_ok_withNames {dir name : String} {count : Nat}
    (hdir : fs.locate dir = .ok (.existing place .directory)) (hname : Path.IsEntryName name)
    (h : appendNew fs (Path.join dir name) names = .ok (count, fs')) :
    ∃ s, (names.isEmpty = false → Accepts fs (place ++ [name]) s names) ∧
      fs' = withNames fs (place ++ [name]) s (unknown (.ofList (namesIn s)) names) := by
  have hpath : names.isEmpty = false → LeadsTo fs (Path.join dir name) (place ++ [name]) :=
    fun hempty => FileSystem.leadsTo_join hdir hname (admits_of_appendNew hdir hname h hempty)
  have haccepts : ∃ s, names.isEmpty = false → Accepts fs (place ++ [name]) s names := by
    rcases appendNew_eq_ok_iff.mp h with ⟨hempty, -⟩ | ⟨hempty, known, hknown, -, hadded⟩
    · exact ⟨"", by simp [hempty]⟩
    · obtain ⟨s, hshows, rfl⟩ := showsText_of_readNames (hpath hempty) hknown
      refine ⟨s, fun _ => ⟨hshows, fun hmissing => ?_⟩⟩
      rw [← filter_not_namesIn_eq_unknown] at hmissing
      obtain ⟨-, happend⟩ := hadded.resolve_left fun hnone => hmissing hnone.1
      obtain ⟨before, -, hget, -⟩ := FileSystem.append_join hdir hname happend
      exact hshows.holdsText hget
  obtain ⟨s, haccepts⟩ := haccepts
  obtain ⟨_, hadds⟩ := exists_appendNew_eq_withNames haccepts hpath
  rw [hadds, Except.ok.injEq, Prod.mk.injEq] at h
  exact ⟨s, haccepts, h.2.symm⟩

/-- What is read from a file before names are added behind whole lines is read first afterwards. -/
theorem readNames_withNames {known : List String} (hs : IsWhole s) (haccepts : Accepts fs q s names)
    (hread : readNames fs path = .ok known) (hknown : known ≠ []) :
    ∃ more, readNames (withNames fs q s (unknown (.ofList (namesIn s)) names)) path =
      .ok (known ++ more) := by
  have htext : ∃ t, fs.readText path = .ok t ∧ known = namesIn t := by
    rw [readNames] at hread
    split at hread
    · rename_i t htext
      exact ⟨t, htext, (Except.ok.inj hread).symm⟩
    · exact absurd (Except.ok.inj hread).symm hknown
    · cases hread
  obtain ⟨t, htext, rfl⟩ := htext
  obtain ⟨own, entry, hown, hget, hentry⟩ := FileSystem.readText_eq_ok htext
  have hpath := haccepts.keepsDirectories.leadsTo (withNames_workDir _) hown
  by_cases hq : own = q
  · subst hq
    obtain rfl : s = t := by
      rcases haccepts.shows with ⟨found, hfound, hshown⟩ | ⟨hnone, -⟩
      · obtain rfl : entry = found := Option.some.inj (hget.symm.trans hfound)
        exact Content.text.inj (Option.some.inj (hshown.symm.trans hentry))
      · simp [hget] at hnone
    exact ⟨_, by rw [haccepts.withNames.readNames hpath, hs.namesIn_append]⟩
  · have hsame : (withNames fs q s (unknown (.ofList (namesIn s)) names)).get? own = fs.get? own :=
      withNames_elsewhere (FileSystem.ne_nil_of_get?_ne haccepts.shows.not_directory) hq _
    have hshows : ShowsText fs own t := .inl ⟨entry, hget, hentry⟩
    exact ⟨[], by rw [(hshows.congr hsame).readNames hpath, List.append_nil]⟩

/-! ## The same call in the same state -/

theorem appendNew_of_sameEntries (h : SameEntries fs fs') (path : String) (names : NameSet) :
    (∃ fault, appendNew fs path names = .error fault ∧ appendNew fs' path names = .error fault) ∨
      ∃ count done done', appendNew fs path names = .ok (count, done) ∧
        appendNew fs' path names = .ok (count, done') ∧ SameEntries done done' := by
  have hread : readNames fs' path = readNames fs path := by
    rw [readNames, readNames, h.readText_eq]
  rw [appendNew, appendNew]
  by_cases hempty : names.isEmpty = true
  · rw [if_pos hempty, if_pos hempty]
    exact .inr ⟨0, fs, fs', rfl, rfl, h⟩
  · rw [if_neg hempty, if_neg hempty, hread]
    cases readNames fs path with
    | error fault => exact .inl ⟨fault, rfl, rfl⟩
    | ok known =>
        simp only [bind, Except.bind]
        by_cases hfresh : (names.toList.filter (!known.contains ·)).isEmpty = true
        · rw [if_pos hfresh, if_pos hfresh]
          exact .inr ⟨0, fs, fs', rfl, rfl, h⟩
        · rw [if_neg hfresh, if_neg hfresh]
          rcases h.append_cases path (linesOf (names.toList.filter (!known.contains ·))) with
            ⟨fault, hfault, hfault'⟩ | ⟨done, done', hdone, hdone', hsame⟩
          · rw [hfault, hfault']
            exact .inl ⟨fault, rfl, rfl⟩
          · rw [hdone, hdone']
            exact .inr ⟨_, done, done', rfl, rfl, hsame⟩

/-- Two calls end alike: with the same error or both without one, and with the same entries. -/
structure EndsAlike (r r' : Except IoFault Added × FileSystem) : Prop where
  error_iff : ∀ fault, r'.1 = .error fault ↔ r.1 = .error fault
  entries : SameEntries r.2 r'.2

theorem EndsAlike.exists_ok {r r' : Except IoFault Added × FileSystem} {added : Added}
    (h : EndsAlike r r') (hadded : r.1 = .ok added) : ∃ added', r'.1 = .ok added' := by
  cases hends : r'.1 with
  | ok added' => exact ⟨added', rfl⟩
  | error fault =>
      rw [(h.error_iff fault).mp hends] at hadded
      cases hadded

theorem endsAlike_of_appendNew {count count' : Nat} {between between' : FileSystem}
    (h : appendNew fs (store.classPath issue) e.classes = .ok (count, between))
    (h' : appendNew fs' (store.classPath issue) e.classes = .ok (count', between'))
    (hsame : SameEntries between between') :
    EndsAlike (store.persist fs issue e) (store.persist fs' issue e) := by
  unfold persist
  simp only [h, h']
  rcases appendNew_of_sameEntries hsame (store.methodPath issue) e.methods with
    ⟨fault, hfault, hfault'⟩ | ⟨methods, done, done', hdone, hdone', hends⟩
  · simp only [hfault, hfault']
    exact ⟨fun _ => Iff.rfl, hsame⟩
  · simp only [hdone, hdone']
    exact ⟨fun fault => by simp, hends⟩

theorem persist_of_sameEntries (h : SameEntries fs fs') (issue : String) (e : Entities) :
    EndsAlike (store.persist fs issue e) (store.persist fs' issue e) := by
  rcases appendNew_of_sameEntries h (store.classPath issue) e.classes with
    ⟨fault, hfault, hfault'⟩ | ⟨count, done, done', hdone, hdone', hsame⟩
  · unfold persist
    simp only [hfault, hfault']
    exact ⟨fun _ => Iff.rfl, h⟩
  · exact endsAlike_of_appendNew hdone hdone' hsame

/-! ## The classes a second time -/

/-- The state in which the missing classes stand behind the text of their file. -/
def withClasses (fs : FileSystem) (place : List String) (issue s : String) (e : Entities) :
    FileSystem :=
  withNames fs (filePlace place "class" issue) s (unknown (.ofList (namesIn s)) e.classes)

theorem withClasses_elsewhere (fs : FileSystem) (place : List String) (issue s : String) (e : Entities)
    (hq : q ≠ filePlace place "class" issue) :
    (withClasses fs place issue s e).get? q = fs.get? q :=
  withNames_elsewhere (by simp [filePlace]) hq _

/-- What is needed for the classes to be added: where there are any, the file takes them and has a
name that the file system admits. -/
structure TakesClasses (store : GoldsetStore) (place : List String) (fs : FileSystem)
    (issue s : String) (e : Entities) : Prop where
  stands : store.Stands place fs
  accepts : e.classes.isEmpty = false → Accepts fs (filePlace place "class" issue) s e.classes
  admits : e.classes.isEmpty = false → Admits store.classDir (issue ++ ".txt")

namespace TakesClasses

theorem leadsTo (h : TakesClasses store place fs issue s e) (hissue : '/' ∉ issue.toList)
    (hempty : e.classes.isEmpty = false) :
    LeadsTo fs (store.classPath issue) (filePlace place "class" issue) :=
  FileSystem.leadsTo_join h.stands.classDir (isEntryName_file hissue) (h.admits hempty)

theorem exists_appendNew (h : TakesClasses store place fs issue s e)
    (hissue : '/' ∉ issue.toList) :
    ∃ count, appendNew fs (store.classPath issue) e.classes =
      .ok (count, withClasses fs place issue s e) :=
  exists_appendNew_eq_withNames h.accepts (h.leadsTo hissue)

theorem keepsDirectories (h : TakesClasses store place fs issue s e) :
    fs.KeepsDirectories (withClasses fs place issue s e) := by
  cases hempty : e.classes.isEmpty with
  | true =>
      rw [withClasses, withNames_of_isEmpty hempty]
      exact fun _ => id
  | false => exact (h.accepts hempty).keepsDirectories

/-- The classes that take a line are added once: a second time there is nothing to do. -/
theorem appendNew_again (h : TakesClasses store place fs issue s e) (hissue : '/' ∉ issue.toList)
    (hs : e.classes.isEmpty = false → IsWhole s) (hnames : ∀ x ∈ e.classes, IsName x) :
    appendNew (withClasses fs place issue s e) (store.classPath issue) e.classes =
      .ok (0, withClasses fs place issue s e) := by
  cases hempty : e.classes.isEmpty with
  | true => exact appendNew_of_isEmpty hempty
  | false =>
      by_cases hnone : unknown (.ofList (namesIn s)) e.classes = []
      · have hfirst := (h.accepts hempty).appendNew fun _ => h.leadsTo hissue hempty
        rw [withClasses, hnone, withNames_nil]
        rwa [hnone, withNames_nil] at hfirst
      · have hcovers := covers_withNames ((h.accepts hempty).holds hnone) (hs hempty) e.classes
        have hpath := h.keepsDirectories.leadsTo (withNames_workDir _) (h.leadsTo hissue hempty)
        have hagain := hcovers.appendNew fun _ => hpath
        rw [lost_eq_nil_iff.mpr hnames] at hagain
        exact hagain

/-- A call that finds the classes added ends like one that adds them. -/
theorem endsAlike (h : TakesClasses store place fs issue s e) (hissue : '/' ∉ issue.toList)
    (hs : e.classes.isEmpty = false → IsWhole s) (hnames : ∀ x ∈ e.classes, IsName x)
    (hsame : SameEntries (withClasses fs place issue s e) fs') :
    EndsAlike (store.persist fs issue e) (store.persist fs' issue e) := by
  obtain ⟨_, hfirst⟩ := h.exists_appendNew hissue
  have hagain := h.appendNew_again hissue hs hnames
  rcases appendNew_of_sameEntries hsame (store.classPath issue) e.classes with
    ⟨fault, hfault, -⟩ | ⟨count, done, done', hdone, hdone', hends⟩
  · rw [hagain] at hfault
    cases hfault
  · rw [hagain, Except.ok.injEq, Prod.mk.injEq] at hdone
    obtain ⟨rfl, rfl⟩ := hdone
    exact endsAlike_of_appendNew hfirst hdone' hends

end TakesClasses

/-! ## Retrying -/

/-- How a failed call ends: at which kind of file it failed, and what it has left behind. -/
inductive Halts (store : GoldsetStore) (place : List String) (issue : String) (e : Entities)
    (fault : IoFault) (fs : FileSystem) : String → FileSystem → Prop
  /-- The classes could not be added, and nothing has changed. -/
  | classes (h : appendNew fs (store.classPath issue) e.classes = .error fault) :
      Halts store place issue e fault fs "class" fs
  /-- The missing classes were added behind the text of their file, and the methods could not be. -/
  | methods (s : String) (htakes : TakesClasses store place fs issue s e)
      (h : appendNew (withClasses fs place issue s e) (store.methodPath issue) e.methods =
        .error fault) :
      Halts store place issue e fault fs "method" (withClasses fs place issue s e)

theorem halts_of_persist (hstands : store.Stands place fs) (hissue : '/' ∉ issue.toList)
    (h : store.persist fs issue e = (.error fault, fs')) :
    ∃ kind, Halts store place issue e fault fs kind fs' := by
  rcases persist_eq_error h with ⟨hclasses, rfl⟩ | ⟨count, hclasses, hmethods⟩
  · exact ⟨"class", .classes hclasses⟩
  · have hfile := isEntryName_file hissue
    obtain ⟨s, hholds, rfl⟩ := appendNew_eq_ok_withNames hstands.classDir hfile hclasses
    exact ⟨"method", .methods s
      ⟨hstands, hholds, admits_of_appendNew hstands.classDir hfile hclasses⟩ hmethods⟩

theorem not_prefix_filePlace {kind kind' : String} (hne : kind ≠ kind')
    (place : List String) (issue : String) :
    ¬ filePlace place kind issue <+: filePlace place kind' issue := by
  intro hprefix
  have hsame := hprefix.eq_of_length (by simp [filePlace])
  exact hne (filePlace_inj.mp hsame).1

namespace TakesClasses

/-- A text that was read and goes on with the missing classes is one of whole lines, if what is read
is. -/
theorem isWhole (h : TakesClasses store place fs issue s e) (hissue : '/' ∉ issue.toList)
    (hwhole : ∀ t, fs.readText (store.classPath issue) = .ok t → IsWhole t)
    (hempty : e.classes.isEmpty = false) : IsWhole s := by
  rcases (h.accepts hempty).shows with ⟨entry, hget, hread⟩ | ⟨-, rfl⟩
  · exact hwhole s ((h.leadsTo hissue hempty).readText_of_readable hget hread)
  · exact .inl rfl

/-- Names that could be read are read first after the missing classes were added. -/
theorem readNames {known : List String} (h : TakesClasses store place fs issue s e)
    (hs : e.classes.isEmpty = false → IsWhole s) (hread : readNames fs path = .ok known)
    (hknown : known ≠ []) :
    ∃ more, GoldsetStore.readNames (withClasses fs place issue s e) path = .ok (known ++ more) := by
  cases hempty : e.classes.isEmpty with
  | true => exact ⟨[], by rw [withClasses, withNames_of_isEmpty hempty, hread, List.append_nil]⟩
  | false => exact readNames_withNames (hs hempty) (h.accepts hempty) hread hknown

theorem replaced (h : TakesClasses store place fs issue s e)
    (hstands : store.Stands place (fs.replaced (filePlace place "method" issue) found)) :
    TakesClasses store place (fs.replaced (filePlace place "method" issue) found) issue s e where
  stands := hstands
  accepts hempty := (h.accepts hempty).congr
    (FileSystem.get?_replaced_of_not_prefix (by simp [filePlace])
      (not_prefix_filePlace (by decide) place issue))
  admits := h.admits

/-- The file of the methods may be replaced before or after the classes are added. -/
theorem withClasses_replaced (fs : FileSystem) (place : List String) (issue s : String)
    (e : Entities) (found : Option String) :
    SameEntries
      (withClasses (fs.replaced (filePlace place "method" issue) found) place issue s e)
      ((withClasses fs place issue s e).replaced (filePlace place "method" issue) found) := by
  rw [withClasses, withClasses]
  by_cases hnone : unknown (.ofList (namesIn s)) e.classes = []
  · rw [hnone, withNames_nil, withNames_nil]
    exact .refl _
  · rw [withNames_of_ne_nil hnone, withNames_of_ne_nil hnone]
    exact FileSystem.replaced_put (by simp [filePlace]) (by simp [filePlace])
      (not_prefix_filePlace (by decide) place issue) _

/-- Where the classes can be added and the file of the methods holds a text, or none, a call
succeeds. -/
theorem exists_persist {t : String} (h : TakesClasses store place fs issue s e)
    (hissue : '/' ∉ issue.toList) (hmethods : HoldsText fs (filePlace place "method" issue) t)
    (hadmits : Admits store.methodDir (issue ++ ".txt")) :
    ∃ added, (store.persist fs issue e).1 = .ok added := by
  obtain ⟨count, hclasses⟩ := h.exists_appendNew hissue
  have hdir := h.keepsDirectories.locate (withNames_workDir _) h.stands.methodDir
  have hpath := FileSystem.leadsTo_join hdir (isEntryName_file hissue) hadmits
  have hsame := withClasses_elsewhere fs place issue s e (q := filePlace place "method" issue)
    (by simp [filePlace_inj])
  have hadds : appendNew (withClasses fs place issue s e) (store.methodPath issue) e.methods = _ :=
    ((hmethods.congr hsame).accepts _).appendNew fun _ => hpath
  unfold persist
  simp only [hclasses, hadds]
  exact ⟨_, rfl⟩

end TakesClasses

/-- A call that fails for an issue with whole lines in its file of classes, if that can be read, is
safe and can be repeated.  If it failed at the classes nothing has changed; if it failed at the
methods the classes that were missing have been added, and nothing else has changed.  Any names that
could be read are read first afterwards.  When the file at which it failed is replaced by any text or
taken away, and the directories of the store are there, the call ends like a first call in that
state; so it succeeds if it had failed at the methods, unless their file has a name that the file
system refuses. -/
theorem persist_retried (hstands : store.Stands place fs) (hissue : '/' ∉ issue.toList)
    (hnamed : IsNamed e) (hwhole : ∀ t, fs.readText (store.classPath issue) = .ok t → IsWhole t)
    (h : store.persist fs issue e = (.error fault, fs')) :
    ∃ kind,
      Halts store place issue e fault fs kind fs' ∧
      (∀ q, q ≠ filePlace place "class" issue → fs'.get? q = fs.get? q) ∧
      (∀ path known, readNames fs path = .ok known → known ≠ [] →
        ∃ more, readNames fs' path = .ok (known ++ more)) ∧
      ∀ found, store.Stands place (fs.replaced (filePlace place kind issue) found) →
        EndsAlike (store.persist (fs.replaced (filePlace place kind issue) found) issue e)
          (store.persist (fs'.replaced (filePlace place kind issue) found) issue e) ∧
        (kind = "method" → Admits store.methodDir (issue ++ ".txt") →
          ∃ added, (store.persist (fs'.replaced (filePlace place kind issue) found) issue e).1 =
            .ok added) := by
  obtain ⟨kind, hhalts⟩ := halts_of_persist hstands hissue h
  refine ⟨kind, hhalts, ?_⟩
  cases hhalts with
  | classes hfails =>
      refine ⟨fun _ _ => rfl, ?_, ?_⟩
      · intro path known hread _
        exact ⟨[], by rw [hread, List.append_nil]⟩
      · intro found _
        exact ⟨persist_of_sameEntries (.refl _) issue e, fun hkind => absurd hkind (by decide)⟩
  | methods s htakes hfails =>
      have hs := htakes.isWhole hissue hwhole
      refine ⟨fun q hq => withClasses_elsewhere fs place issue s e hq, ?_, ?_⟩
      · intro path known hread hknown
        exact htakes.readNames hs hread hknown
      · intro found hstands'
        have htakes' := htakes.replaced hstands'
        have hends := htakes'.endsAlike hissue hs hnamed.classes
          (TakesClasses.withClasses_replaced fs place issue s e found)
        refine ⟨hends, fun _ hadmits => ?_⟩
        have htext : HoldsText (fs.replaced (filePlace place "method" issue) found)
            (filePlace place "method" issue) (found.getD "") := by
          have hget : (fs.replaced (filePlace place "method" issue) found).get?
              (filePlace place "method" issue) = found.map fun t => .file (.text t) :=
            FileSystem.get?_replaced_self (by simp [filePlace])
          cases found with
          | none => exact .inr ⟨hget, rfl⟩
          | some t => exact .inl hget
        obtain ⟨added, hadded⟩ := htakes'.exists_persist hissue htext hadmits
        exact hends.exists_ok hadded

/-- A store in which the methods of an issue are in a file that may be read but not written. -/
def readOnlyDisk : FileSystem :=
  { entries := [(["store"], .directory), (["store", "class"], .directory),
      (["store", "class", "7.txt"], .file (.text "m.A\n")), (["store", "method"], .directory),
      (["store", "method", "7.txt"], .readOnly (.text "m.f\n"))] }

/-- A call that reads the methods and then cannot open their file for writing adds one class of two,
and nothing more is added to the classes when it is repeated with another file of methods. -/
theorem persist_retried_of_readOnly :
    ∃ fs' added,
      (below "/store").persist readOnlyDisk "7" ⟨.ofList ["m.A", "m.B"], .ofList ["m.f", "m.g"]⟩ =
        (.error .denied, fs') ∧
      fs'.readText "/store/class/7.txt" = .ok "m.A\nm.B\n" ∧
      ((below "/store").persist (fs'.replaced ["store", "method", "7.txt"] (some "m.g\n")) "7"
        ⟨.ofList ["m.A", "m.B"], .ofList ["m.f", "m.g"]⟩).1 = .ok added ∧
      SameEntries
        ((below "/store").persist (readOnlyDisk.replaced ["store", "method", "7.txt"] (some "m.g\n"))
          "7" ⟨.ofList ["m.A", "m.B"], .ofList ["m.f", "m.g"]⟩).2
        ((below "/store").persist (fs'.replaced ["store", "method", "7.txt"] (some "m.g\n"))
          "7" ⟨.ofList ["m.A", "m.B"], .ofList ["m.f", "m.g"]⟩).2 := by
  let e : Entities := ⟨.ofList ["m.A", "m.B"], .ofList ["m.f", "m.g"]⟩
  have hstands : ∀ fs : FileSystem,
      fs.locate "/store/class" = .ok (.existing ["store", "class"] .directory) →
      fs.locate "/store/method" = .ok (.existing ["store", "method"] .directory) →
      (below "/store").Stands ["store"] fs := fun _ hclass hmethod => ⟨hclass, hmethod⟩
  have hnamed : IsNamed e := isNamed_ofList (by decide +kernel) (by decide +kernel)
  have hwhole : ∀ t, readOnlyDisk.readText ((below "/store").classPath "7") = .ok t → IsWhole t := by
    intro t ht
    have hread : readOnlyDisk.readText ((below "/store").classPath "7") = .ok "m.A\n" := by
      decide +kernel
    rw [hread, Except.ok.injEq] at ht
    rw [← ht]
    exact .inr (by decide)
  obtain ⟨fs', hfails⟩ : ∃ fs', (below "/store").persist readOnlyDisk "7" e = (.error .denied, fs') :=
    ⟨((below "/store").persist readOnlyDisk "7" e).2, by decide +kernel⟩
  have hclasses : fs'.readText "/store/class/7.txt" = .ok "m.A\nm.B\n" := by
    have hends : (((below "/store").persist readOnlyDisk "7" e).2).readText "/store/class/7.txt" =
        .ok "m.A\nm.B\n" := by decide +kernel
    rwa [hfails] at hends
  obtain ⟨kind, hhalts, -, -, hretry⟩ := persist_retried
    (hstands readOnlyDisk (by decide +kernel) (by decide +kernel)) (by decide) hnamed hwhole hfails
  have hkind : kind = "method" := by
    cases hhalts with
    | classes hnot =>
        have hadds : appendNew readOnlyDisk ((below "/store").classPath "7") e.classes ≠
            .error .denied := by decide +kernel
        exact absurd hnot hadds
    | methods s htakes hnot => rfl
  subst hkind
  obtain ⟨hends, hsucceeds⟩ := hretry (some "m.g\n")
    (hstands _ (by decide +kernel) (by decide +kernel))
  obtain ⟨added, hadded⟩ := hsucceeds rfl ⟨by decide, by decide, by decide +kernel⟩
  exact ⟨fs', added, hfails, hclasses, hadded, hends.entries⟩

end IssueTrace.GoldsetStore
