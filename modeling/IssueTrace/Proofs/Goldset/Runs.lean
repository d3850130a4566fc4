import IssueTrace.Proofs.Goldset.Record

/-!
# Runs of a store

A store that was opened in an empty directory goes through any number of successful calls.  The
invariant is that the files of each issue record what the calls so far have brought for it: it holds
of the empty directory, and every call carries it over from one state to the next.
-/

namespace IssueTrace

open FileSystem (Admits LeadsTo)

theorem GoldsetStore.Adds.keepsDirectories {fs fs' : FileSystem} {place : List String}
    {known names : NameSet} {count : Nat} (h : Adds fs fs' place known names count)
    (hrecords : Records fs place known) : fs.KeepsDirectories fs' := by
  intro q hq
  have hne : q ≠ place := by
    rintro rfl
    exact hrecords.not_directory hq
  rw [h.elsewhere q hne]
  exact hq

namespace GoldsetStore

/-- Entities whose names each take a line. -/
structure IsNamed (e : Entities) : Prop where
  classes : ∀ x ∈ e.classes, IsName x
  methods : ∀ x ∈ e.methods, IsName x

theorem isNamed_ofList {xs ys : List String} (hxs : ∀ x ∈ xs, IsName x)
    (hys : ∀ y ∈ ys, IsName y) : IsNamed ⟨.ofList xs, .ofList ys⟩ := by
  constructor
  · intro x hx
    exact hxs x (NameSet.mem_ofList.mp hx)
  · intro y hy
    exact hys y (NameSet.mem_ofList.mp hy)

/-- Both files of an issue have names and paths that the file system admits. -/
structure AdmitsIssue (store : GoldsetStore) (issue : String) : Prop where
  class_file : Admits store.classDir (issue ++ ".txt")
  method_file : Admits store.methodDir (issue ++ ".txt")

/-- The place of a file of an issue, in the directory of that kind below a place. -/
def filePlace (place : List String) (kind issue : String) : List String :=
  place ++ [kind] ++ [issue ++ ".txt"]

theorem filePlace_inj {place : List String} {kind kind' issue issue' : String} :
    filePlace place kind issue = filePlace place kind' issue' ↔
      kind = kind' ∧ issue = issue' := by
  unfold filePlace
  simp

theorem isEntryName_file {issue : String} (h : '/' ∉ issue.toList) :
    Path.IsEntryName (issue ++ ".txt") := by
  have hlength : ∀ name : String, name.length < 4 → issue ++ ".txt" ≠ name := by
    rintro name hshort rfl
    rw [String.length_append] at hshort
    have hending : ".txt".length = 4 := rfl
    omega
  refine ⟨?_, hlength _ (by decide), hlength _ (by decide), hlength _ (by decide)⟩
  simpa using h

/-! ## The invariant -/

/-- The directories of a store are there, and the files of each issue record its entities. -/
structure Holds (store : GoldsetStore) (place : List String) (fs : FileSystem)
    (record : String → Entities) : Prop where
  classDir : fs.locate store.classDir = .ok (.existing (place ++ ["class"]) .directory)
  methodDir : fs.locate store.methodDir = .ok (.existing (place ++ ["method"]) .directory)
  classes : ∀ issue, '/' ∉ issue.toList →
    Records fs (filePlace place "class" issue) (record issue).classes
  methods : ∀ issue, '/' ∉ issue.toList →
    Records fs (filePlace place "method" issue) (record issue).methods

variable {store : GoldsetStore} {place : List String} {fs fs₁ fs₂ : FileSystem}
  {record : String → Entities} {issue : String} {e : Entities} {added : Added}

theorem persist_eq_ok (h : store.persist fs issue e = (.ok added, fs₂)) :
    ∃ fs₁, appendNew fs (store.classPath issue) e.classes = .ok (added.classes, fs₁) ∧
      appendNew fs₁ (store.methodPath issue) e.methods = .ok (added.methods, fs₂) := by
  unfold persist at h
  cases hclasses : appendNew fs (store.classPath issue) e.classes with
  | error fault => simp [hclasses] at h
  | ok found =>
      obtain ⟨classes, fs₁⟩ := found
      simp only [hclasses] at h
      cases hmethods : appendNew fs₁ (store.methodPath issue) e.methods with
      | error fault => simp [hmethods] at h
      | ok found =>
          obtain ⟨methods, fs'⟩ := found
          simp only [hmethods, Prod.mk.injEq, Except.ok.injEq] at h
          obtain ⟨rfl, rfl⟩ := h
          exact ⟨fs₁, rfl, hmethods⟩

/-- A successful call adds the classes to the one file and then the methods to the other. -/
theorem Holds.adds (hholds : Holds store place fs record) (hissue : '/' ∉ issue.toList)
    (hnamed : IsNamed e) (h : store.persist fs issue e = (.ok added, fs₂)) :
    ∃ fs₁,
      Adds fs fs₁ (filePlace place "class" issue) (record issue).classes e.classes added.classes ∧
      Adds fs₁ fs₂ (filePlace place "method" issue) (record issue).methods e.methods
        added.methods ∧
      fs.KeepsDirectories fs₂ := by
  obtain ⟨fs₁, hclasses, hmethods⟩ := persist_eq_ok h
  have hfile := isEntryName_file hissue
  have hfirst : Adds fs fs₁ (filePlace place "class" issue) (record issue).classes e.classes
      added.classes :=
    appendNew_adds hholds.classDir hfile (hholds.classes issue hissue) hnamed.classes hclasses
  have hkeeps₁ := hfirst.keepsDirectories (hholds.classes issue hissue)
  have hmethodDir := hkeeps₁.locate hfirst.workDir_eq hholds.methodDir
  have hrecords : Records fs₁ (filePlace place "method" issue) (record issue).methods := by
    refine (hholds.methods issue hissue).congr (hfirst.elsewhere _ ?_) fun _ => Iff.rfl
    simp [filePlace_inj]
  have hsecond : Adds fs₁ fs₂ (filePlace place "method" issue) (record issue).methods e.methods
      added.methods :=
    appendNew_adds hmethodDir hfile hrecords hnamed.methods hmethods
  refine ⟨fs₁, hfirst, hsecond, ?_⟩
  intro q hq
  exact hsecond.keepsDirectories hrecords q (hkeeps₁ q hq)

/-- The invariant after a call. -/
theorem Holds.persist (hholds : Holds store place fs record) (hissue : '/' ∉ issue.toList)
    (hnamed : IsNamed e) (h : store.persist fs issue e = (.ok added, fs₂)) :
    Holds store place fs₂ fun i => if i = issue then (record i).union e else record i := by
  obtain ⟨fs₁, hclasses, hmethods, hkeeps⟩ := hholds.adds hissue hnamed h
  have hworkDir := hmethods.workDir_eq.trans hclasses.workDir_eq
  constructor
  · exact hkeeps.locate hworkDir hholds.classDir
  · exact hkeeps.locate hworkDir hholds.methodDir
  · intro i hi
    have hsame := hmethods.elsewhere (filePlace place "class" i) (by simp [filePlace_inj])
    by_cases hown : i = issue
    · subst hown
      rw [if_pos rfl]
      exact hclasses.records.congr hsame fun _ => Iff.rfl
    · rw [if_neg hown]
      have hbefore := hclasses.elsewhere (filePlace place "class" i) (by simp [filePlace_inj, hown])
      exact (hholds.classes i hi).congr (hsame.trans hbefore) fun _ => Iff.rfl
  · intro i hi
    by_cases hown : i = issue
    · subst hown
      rw [if_pos rfl]
      exact hmethods.records
    · rw [if_neg hown]
      have hsame := hmethods.elsewhere (filePlace place "method" i) (by simp [filePlace_inj, hown])
      have hbefore := hclasses.elsewhere (filePlace place "method" i) (by simp [filePlace_inj])
      exact (hholds.methods i hi).congr (hsame.trans hbefore) fun _ => Iff.rfl

/-! ## Opening -/

theorem openAt_eq_ok {root : String} (h : openAt fs root = (.ok store, fs₂)) :
    store = below root ∧ ∃ fs₁, fs.makeDirectories (below root).classDir = (.ok (), fs₁) ∧
      fs₁.makeDirectories (below root).methodDir = (.ok (), fs₂) := by
  unfold openAt at h
  dsimp only at h
  split at h
  · cases (Prod.mk.inj h).1
  · rename_i fs₁ hclass
    split at h
    · cases (Prod.mk.inj h).1
    · rename_i fs' hmethod
      obtain ⟨rfl, rfl⟩ : below root = store ∧ fs' = fs₂ := by simpa using h
      exact ⟨rfl, fs₁, hclass, hmethod⟩

/-- A store that was opened in an empty directory holds nothing. -/
theorem Holds.of_openAt {root : String} (hroot : fs.locate root = .ok (.existing place .directory))
    (hempty : ∀ names, names ≠ [] → fs.get? (place ++ names) = none)
    (h : openAt fs root = (.ok store, fs₂)) :
    Holds store place fs₂ fun _ => {} := by
  obtain ⟨rfl, fs₁, hclass, hmethod⟩ := openAt_eq_ok h
  have hclassPlace : place ++ ["class"] ≠ [] := by simp
  have hmethodPlace : place ++ ["method"] ≠ [] := by simp
  obtain ⟨rfl, hclassDir⟩ := FileSystem.makeDirectories_join hroot (by decide)
    (hempty ["class"] (by simp)) hclass
  have hroot₁ := (FileSystem.keepsDirectories_put hclassPlace).locate rfl hroot
  have hvacant : (fs.put (place ++ ["class"]) .directory).get? (place ++ ["method"]) = none := by
    rw [FileSystem.get?_put_of_ne hclassPlace (by simp)]
    exact hempty ["method"] (by simp)
  obtain ⟨rfl, hmethodDir⟩ := FileSystem.makeDirectories_join hroot₁ (by decide)
    hvacant hmethod
  have hnone : ∀ kind issue, ((fs.put (place ++ ["class"]) .directory).put (place ++ ["method"])
      .directory).get? (filePlace place kind issue) = none := by
    intro kind issue
    unfold filePlace
    rw [FileSystem.get?_put_of_ne hmethodPlace (by simp),
      FileSystem.get?_put_of_ne hclassPlace (by simp), List.append_assoc]
    exact hempty _ (by simp)
  constructor
  · exact (FileSystem.keepsDirectories_put hmethodPlace).locate rfl hclassDir
  · exact hmethodDir
  · intro issue _
    exact ⟨[], hnone "class" issue, .nil, by simp, by simp⟩
  · intro issue _
    exact ⟨[], hnone "method" issue, .nil, by simp, by simp⟩

/-! ## Runs -/

/-- A run of successful calls, each with an issue and what was persisted for it. -/
inductive Run (store : GoldsetStore) (fs : FileSystem) :
    List (String × Entities) → FileSystem → Prop
  | start : Run store fs [] fs
  | persist {calls : List (String × Entities)} {fs₁ fs₂ : FileSystem} {issue : String}
      {e : Entities} {added : Added} :
      Run store fs calls fs₁ →
      store.persist fs₁ issue e = (.ok added, fs₂) →
      Run store fs (calls ++ [(issue, e)]) fs₂

/-- The union of what calls persisted for an issue. -/
def recorded (calls : List (String × Entities)) (issue : String) : Entities :=
  Entities.unionAll ((calls.filter (·.1 == issue)).map (·.2))

theorem mem_classes_recorded {calls : List (String × Entities)} {x : String} :
    x ∈ (recorded calls issue).classes ↔ ∃ e, (issue, e) ∈ calls ∧ x ∈ e.classes := by
  unfold recorded
  rw [Entities.mem_classes_unionAll]
  simp

theorem mem_methods_recorded {calls : List (String × Entities)} {x : String} :
    x ∈ (recorded calls issue).methods ↔ ∃ e, (issue, e) ∈ calls ∧ x ∈ e.methods := by
  unfold recorded
  rw [Entities.mem_methods_unionAll]
  simp

theorem recorded_concat (calls : List (String × Entities)) (issue : String) (e : Entities) :
    recorded (calls ++ [(issue, e)]) =
      fun i => if i = issue then (recorded calls i).union e else recorded calls i := by
  funext i
  unfold recorded
  rw [List.filter_append, List.map_append, Entities.unionAll_append]
  by_cases hown : i = issue
  · simp [hown]
  · simp [hown, Ne.symm hown]

/-- The invariant after a whole run. -/
theorem Run.holds {calls : List (String × Entities)} (h : Run store fs calls fs₁)
    (hstart : Holds store place fs fun _ => {})
    (hcalls : ∀ call ∈ calls, '/' ∉ call.1.toList ∧ IsNamed call.2) :
    Holds store place fs₁ (recorded calls) := by
  induction h with
  | start => exact hstart
  | @persist calls fs₁ fs₂ issue e added _ hpersist ih =>
      have hbefore := ih fun call hcall => hcalls call (List.mem_append_left _ hcall)
      obtain ⟨hissue, hnamed⟩ := hcalls (issue, e) (by simp)
      rw [recorded_concat]
      exact hbefore.persist hissue hnamed hpersist

/-! ## What is read and what stands in the files -/

theorem Holds.load (hholds : Holds store place fs record) (hissue : '/' ∉ issue.toList)
    (hadmits : store.AdmitsIssue issue) : store.load fs issue = .ok (record issue) := by
  have hfile := isEntryName_file hissue
  obtain ⟨classes, hclasses, hclassSet⟩ := (hholds.classes issue hissue).readNames
    (FileSystem.leadsTo_join hholds.classDir hfile hadmits.class_file)
  obtain ⟨methods, hmethods, hmethodSet⟩ := (hholds.methods issue hissue).readNames
    (FileSystem.leadsTo_join hholds.methodDir hfile hadmits.method_file)
  unfold GoldsetStore.load classPath methodPath
  rw [hclasses, hmethods]
  simp only [bind, Except.bind, hclassSet, hmethodSet]
  rfl

theorem Holds.load_error (hholds : Holds store place fs record) (hissue : '/' ∉ issue.toList)
    (hadmits : ¬ store.AdmitsIssue issue) : ∃ fault, store.load fs issue = .error fault := by
  have hfile := isEntryName_file hissue
  unfold GoldsetStore.load classPath methodPath
  by_cases hclass : Admits store.classDir (issue ++ ".txt")
  · have hmethod : ¬ Admits store.methodDir (issue ++ ".txt") := fun h => hadmits ⟨hclass, h⟩
    obtain ⟨classes, hclasses, -⟩ := (hholds.classes issue hissue).readNames
      (FileSystem.leadsTo_join hholds.classDir hfile hclass)
    obtain ⟨fault, hlocate, hfault⟩ :=
      FileSystem.locate_join_of_not_admits hholds.methodDir hfile hmethod
    rw [hclasses, readNames_of_error hlocate hfault]
    exact ⟨fault, rfl⟩
  · obtain ⟨fault, hlocate, hfault⟩ :=
      FileSystem.locate_join_of_not_admits hholds.classDir hfile hclass
    rw [readNames_of_error hlocate hfault]
    exact ⟨fault, rfl⟩

/-- What is at the place, if anything, is a text that ends with a line feed and has each of the
names on exactly one line. -/
def HasLineForEach (fs : FileSystem) (place : List String) (names : NameSet) : Prop :=
  ∀ entry, fs.get? place = some entry →
    ∃ s, entry = .file (.text s) ∧ s.toList.getLast? = some '\n' ∧
      ∀ x ∈ names, (Text.lines s.toList).count x.toList = 1

theorem Records.hasLineForEach {names : NameSet} (h : Records fs place names) :
    HasLineForEach fs place names := by
  intro entry hentry
  obtain ⟨xs, hholds, hnodup, hnames, hmem⟩ := h
  unfold HoldsLines at hholds
  rw [hentry] at hholds
  by_cases hnil : xs = []
  · rw [if_pos hnil] at hholds
    cases hholds
  · rw [if_neg hnil] at hholds
    obtain rfl := Option.some.inj hholds
    refine ⟨linesOf xs, rfl, linesOf_getLast? hnil, ?_⟩
    intro x hx
    exact count_lines_linesOf hnames hnodup ((hmem x).mpr hx)

theorem Records.isSome_iff {names : NameSet} (h : Records fs place names) :
    (fs.get? place).isSome = true ↔ ∃ x, x ∈ names := by
  obtain ⟨xs, hholds, -, -, hmem⟩ := h
  rw [hholds]
  simp only [← hmem]
  cases xs with
  | nil => simp
  | cons x xs => simp

/-- Wherever names are added, files go on as they were. -/
theorem Adds.continues_everywhere {known names : NameSet} {count : Nat}
    (h : Adds fs fs₁ place known names count) (q : List String) : Continues fs fs₁ q := by
  by_cases hq : q = place
  · subst hq
    exact h.continues
  · exact Continues.of_eq (h.elsewhere q hq)

/-- A run of successful calls on a store that was opened in an empty directory.  For every issue
the union of what was persisted is loaded, unless the file system takes no file of that name; either
file is there if some call had names for it, ends with a line feed and has each recorded name on one
line.  A further call continues the files of its issue, touches nothing else, and counts the names
that were not recorded before. -/
theorem run_records {root : String} {fs₀ : FileSystem} {calls : List (String × Entities)}
    (hroot : fs.locate root = .ok (.existing place .directory))
    (hempty : ∀ names, names ≠ [] → fs.get? (place ++ names) = none)
    (hopen : openAt fs root = (.ok store, fs₀))
    (hrun : Run store fs₀ calls fs₁)
    (hcalls : ∀ call ∈ calls, '/' ∉ call.1.toList ∧ IsNamed call.2) :
    (∀ issue, '/' ∉ issue.toList →
      (store.AdmitsIssue issue →
        store.load fs₁ issue = .ok (recorded calls issue) ∧
        LeadsTo fs₁ (store.classPath issue) (filePlace place "class" issue) ∧
        LeadsTo fs₁ (store.methodPath issue) (filePlace place "method" issue)) ∧
      (¬ store.AdmitsIssue issue → ∃ fault, store.load fs₁ issue = .error fault)) ∧
    (∀ issue, '/' ∉ issue.toList →
      ((fs₁.get? (filePlace place "class" issue)).isSome = true ↔
        ∃ e, (issue, e) ∈ calls ∧ e.classes.isEmpty = false) ∧
      ((fs₁.get? (filePlace place "method" issue)).isSome = true ↔
        ∃ e, (issue, e) ∈ calls ∧ e.methods.isEmpty = false) ∧
      HasLineForEach fs₁ (filePlace place "class" issue) (recorded calls issue).classes ∧
      HasLineForEach fs₁ (filePlace place "method" issue) (recorded calls issue).methods) ∧
    ∀ issue e added fs₂, '/' ∉ issue.toList → IsNamed e →
      store.persist fs₁ issue e = (.ok added, fs₂) →
      (∀ q, Continues fs₁ fs₂ q) ∧
      (∀ q, q ≠ filePlace place "class" issue → q ≠ filePlace place "method" issue →
        fs₂.get? q = fs₁.get? q) ∧
      added.classes = (unknown (recorded calls issue).classes e.classes).length ∧
      added.methods = (unknown (recorded calls issue).methods e.methods).length := by
  have hholds := hrun.holds (Holds.of_openAt hroot hempty hopen) hcalls
  refine ⟨?_, ?_, ?_⟩
  · intro issue hissue
    refine ⟨?_, hholds.load_error hissue⟩
    intro hadmits
    have hfile := isEntryName_file hissue
    refine ⟨hholds.load hissue hadmits, ?_, ?_⟩
    · exact FileSystem.leadsTo_join hholds.classDir hfile hadmits.class_file
    · exact FileSystem.leadsTo_join hholds.methodDir hfile hadmits.method_file
  · intro issue hissue
    have hclasses := hholds.classes issue hissue
    have hmethods := hholds.methods issue hissue
    refine ⟨?_, ?_, hclasses.hasLineForEach, hmethods.hasLineForEach⟩
    · simp only [hclasses.isSome_iff, mem_classes_recorded, NameSet.isEmpty_eq_false_iff,
        ← exists_and_left]
      exact exists_comm
    · simp only [hmethods.isSome_iff, mem_methods_recorded, NameSet.isEmpty_eq_false_iff,
        ← exists_and_left]
      exact exists_comm
  · intro issue e added fs₂ hissue hnamed hpersist
    obtain ⟨fs', hclasses, hmethods, -⟩ := hholds.adds hissue hnamed hpersist
    refine ⟨?_, ?_, hclasses.count_eq, hmethods.count_eq⟩
    · intro q
      exact (hclasses.continues_everywhere q).trans (hmethods.continues_everywhere q)
    · intro q hclass hmethod
      exact (hmethods.elsewhere q hmethod).trans (hclasses.elsewhere q hclass)

/-- A disk with an empty directory. -/
def emptyDisk : FileSystem := { entries := [(["store"], .directory)] }

/-- After a call for an issue its entities are loaded, and a second call goes on behind them. -/
theorem run_records_of_two_calls :
    ∃ fs₀ fs₁ fs₂,
      openAt emptyDisk "/store" = (.ok (below "/store"), fs₀) ∧
      Run (below "/store") fs₀ [("7", ⟨.ofList ["m.A"], .ofList ["m.A.f"]⟩)] fs₁ ∧
      (below "/store").load fs₁ "7" = .ok ⟨.ofList ["m.A"], .ofList ["m.A.f"]⟩ ∧
      (below "/store").persist fs₁ "7" ⟨.ofList ["m.A", "m.B"], .ofList []⟩ = (.ok ⟨1, 0⟩, fs₂) ∧
      Continues fs₁ fs₂ ["store", "class", "7.txt"] := by
  let first : Entities := ⟨.ofList ["m.A"], .ofList ["m.A.f"]⟩
  let second : Entities := ⟨.ofList ["m.A", "m.B"], .ofList []⟩
  let fs₀ := (openAt emptyDisk "/store").2
  let fs₁ := ((below "/store").persist fs₀ "7" first).2
  let fs₂ := ((below "/store").persist fs₁ "7" second).2
  have hroot : emptyDisk.locate "/store" = .ok (.existing ["store"] .directory) := by
    decide +kernel
  have hempty : ∀ names, names ≠ [] → emptyDisk.get? (["store"] ++ names) = none := by
    intro names hnames
    cases names with
    | nil => exact absurd rfl hnames
    | cons name names => simp [emptyDisk, FileSystem.get?]
  have hopen : openAt emptyDisk "/store" = (.ok (below "/store"), fs₀) := by
    decide +kernel
  have hfirst : (below "/store").persist fs₀ "7" first = (.ok ⟨1, 1⟩, fs₁) := by
    decide +kernel
  have hsecond : (below "/store").persist fs₁ "7" second = (.ok ⟨1, 0⟩, fs₂) := by
    decide +kernel
  have hnamedFirst : IsNamed first := isNamed_ofList (by decide +kernel) (by decide +kernel)
  have hnamedSecond : IsNamed second := isNamed_ofList (by decide +kernel) (by decide +kernel)
  have hrun : Run (below "/store") fs₀ [("7", first)] fs₁ := .persist .start hfirst
  have hcalls : ∀ call ∈ [("7", first)], '/' ∉ call.1.toList ∧ IsNamed call.2 := by
    intro call hcall
    obtain rfl := List.mem_singleton.mp hcall
    exact ⟨by decide, hnamedFirst⟩
  have hadmits : (below "/store").AdmitsIssue "7" := by
    constructor
    · exact ⟨by decide, by decide +kernel, by decide +kernel⟩
    · exact ⟨by decide, by decide +kernel, by decide +kernel⟩
  obtain ⟨hload, -, hnext⟩ := run_records hroot hempty hopen hrun hcalls
  have hown : recorded [("7", first)] "7" = first := Entities.union_empty first
  refine ⟨fs₀, fs₁, fs₂, hopen, hrun, ?_, hsecond, ?_⟩
  · rw [((hload "7" (by decide)).1 hadmits).1, hown]
  · exact (hnext "7" second _ fs₂ (by decide) hnamedSecond hsecond).1 _

end GoldsetStore

end IssueTrace
