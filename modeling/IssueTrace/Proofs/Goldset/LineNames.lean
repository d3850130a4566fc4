import IssueTrace.Proofs.Goldset.Aggregation
import IssueTrace.Proofs.Goldset.Runs

/-!
# Goldsets whose names take a line

A qualified name takes a line when what is declared does, and the module neither begins with a blank
nor holds a line feed.  The module is read off the path, so this is a matter of what directories and
files are called.
-/

namespace IssueTrace

/-! ## Modules -/

namespace Package

theorem isPrefix_dropEnding (ending text : List Char) : dropEnding ending text <+: text := by
  unfold dropEnding
  split
  · exact List.take_prefix _ _
  · exact List.prefix_rfl

/-- A dotted name is the beginning of what follows the last segment of the directory, with dots for
slashes. -/
theorem moduleName?_eq_some {path directory extension name : String}
    (h : moduleName? path directory extension = some name) :
    ∃ rest kept, path.toList = directory.toList ++ '/' :: rest ∧
      kept <+: lastSegment directory.toList ++ '/' :: rest ∧
      name.toList = kept.map fun c => if c = '/' then '.' else c := by
  obtain ⟨rest, hpath⟩ := mem_ancestors.mp (moduleName?_isSome_iff.mp (Option.isSome_of_eq_some h))
  rw [moduleName?_of_slash hpath] at h
  refine ⟨rest, _, hpath, isPrefix_dropEnding extension.toList _, ?_⟩
  rw [← Option.some.inj h, String.toList_ofList]

/-- A module does not begin with a blank unless its package does, and holds no line feed unless its
path does. -/
theorem plain_of_moduleName {path directory extension name : String}
    (h : moduleName? path directory extension = some name) (hpath : '\n' ∉ path.toList)
    (hdirectory : (lastSegment directory.toList).head?.any Text.isBlank = false) :
    '\n' ∉ name.toList ∧ name.toList.head?.any Text.isBlank = false := by
  obtain ⟨rest, kept, hfile, ⟨dropped, hkept⟩, hname⟩ := moduleName?_eq_some h
  constructor
  · intro hfeed
    rw [hname] at hfeed
    obtain ⟨c, hc, hdot⟩ := List.mem_map.mp hfeed
    have hcfeed : c = '\n' := by
      split at hdot
      · cases hdot
      · exact hdot
    have hmem : c ∈ lastSegment directory.toList ++ '/' :: rest := by
      rw [← hkept]
      exact List.mem_append_left _ hc
    apply hpath
    rw [hfile, ← hcfeed]
    rcases List.mem_append.mp hmem with hmem | hmem
    · exact List.mem_append_left _ ((isSuffix_lastSegment _).subset hmem)
    · exact List.mem_append_right _ hmem
  · rw [hname]
    cases kept with
    | nil => rfl
    | cons c kept =>
        have hdot : Text.isBlank '.' = false := by decide
        have hfirst : (lastSegment directory.toList ++ '/' :: rest).head? = some c := by
          rw [← hkept]
          rfl
        cases hsegment : lastSegment directory.toList with
        | nil =>
            rw [hsegment] at hfirst
            obtain rfl : '/' = c := by simpa using hfirst
            exact hdot
        | cons d segment =>
            rw [hsegment] at hfirst hdirectory
            obtain rfl : d = c := by simpa using hfirst
            by_cases hd : d = '/'
            · subst hd
              exact hdot
            · simpa [hd] using hdirectory

theorem name_eq_lastSegment {repo : Repository} {commit : CommitId} {path marker : String}
    {search : PackageSearch} {root : PackageRoot}
    (h : find? repo commit path marker search = some root) :
    root.name = String.ofList (lastSegment root.directory.toList) := by
  unfold find? at h
  obtain ⟨dir, -, rfl⟩ := Option.map_eq_some_iff.mp h
  rfl

end Package

open GoldsetStore (IsName IsNamed)
open Source (Declaration Outline Parser readOutlineBy)

/-! ## Qualified names -/

/-- What is declared takes a line inside a module exactly if the module does not break it. -/
theorem isName_qualified_iff {name own : String} (hown : IsName own) :
    IsName (name ++ "." ++ own) ↔
      '\n' ∉ name.toList ∧ name.toList.head?.any Text.isBlank = false := by
  have hletters : (name ++ "." ++ own).toList = name.toList ++ '.' :: own.toList := by simp
  have hfirst : (name ++ "." ++ own).toList.head?.any Text.isBlank =
      name.toList.head?.any Text.isBlank := by
    rw [hletters]
    cases name.toList with
    | nil => rfl
    | cons c rest => rfl
  have hlast : (name ++ "." ++ own).toList.getLast? = own.toList.getLast? := by
    obtain ⟨init, c, hinit⟩ : ∃ init c, own.toList = init ++ [c] := by
      have hne : own.toList ≠ [] := by simpa using hown.ne_empty
      exact ⟨_, _, (List.dropLast_concat_getLast hne).symm⟩
    rw [hletters, hinit, ← List.cons_append, ← List.append_assoc, List.getLast?_concat,
      List.getLast?_concat]
  constructor
  · intro h
    refine ⟨?_, hfirst ▸ h.first⟩
    intro hfeed
    apply h.no_lineFeed
    rw [hletters]
    exact List.mem_append_left _ hfeed
  · rintro ⟨hfeed, hblank⟩
    constructor
    · intro hempty
      have hnil : name.toList ++ '.' :: own.toList = [] := by
        rw [← hletters, hempty]
        rfl
      simp at hnil
    · rw [hletters]
      simp [hfeed, hown.no_lineFeed]
    · rw [hfirst]
      exact hblank
    · rw [hlast]
      exact hown.last

/-! ## Declared names -/

/-- What the declarations of a file, and those inside them, are called takes a line. -/
structure DeclareNames (ds : List Declaration) : Prop where
  own : ∀ d ∈ ds, IsName d.name
  inner : ∀ d ∈ ds, ∀ member ∈ d.body, IsName member.name

theorem mem_of_mem_covered {ds : List Declaration} {span : LineSpan} {d : Declaration}
    (h : d ∈ Change.covered ds span) : d ∈ ds := by
  unfold Change.covered at h
  split at h
  · cases h
  · exact List.mem_of_mem_take (List.mem_of_mem_drop h)

theorem isNamed_empty : IsNamed {} := by
  constructor
  · intro x hx
    exact absurd hx Entities.not_mem_classes_empty
  · intro x hx
    exact absurd hx Entities.not_mem_methods_empty

theorem isNamed_addDeclaration {ds : List Declaration} (hds : DeclareNames ds) {d : Declaration}
    (hd : d ∈ ds) {e : Entities} (he : IsNamed e) (span : LineSpan) :
    IsNamed (Entities.addDeclaration span e d) := by
  constructor
  · intro x hx
    rcases (Entities.mem_classes_addDeclaration e d).mp hx with hold | ⟨line, body, rfl⟩
    · exact he.classes x hold
    · exact hds.own _ hd
  · intro x hx
    rcases (Entities.mem_methods_addDeclaration e d).mp hx with hold | ⟨line, rfl⟩ |
      ⟨owner, line, body, member, memberLine, rfl, hmember, rfl⟩
    · exact he.methods x hold
    · exact hds.own _ hd
    · have howner : IsName owner := hds.own _ hd
      have hown : IsName member := hds.inner _ hd _ (mem_of_mem_covered hmember)
      exact (isName_qualified_iff hown).mpr ⟨howner.no_lineFeed, howner.first⟩

theorem isNamed_addSpan {ds : List Declaration} (hds : DeclareNames ds) {e : Entities}
    (he : IsNamed e) (span : LineSpan) : IsNamed (Entities.addSpan ds e span) := by
  unfold Entities.addSpan
  apply List.foldlRecOn (motive := IsNamed)
  · exact he
  · intro e he d hd
    exact isNamed_addDeclaration hds (mem_of_mem_covered hd) he span

theorem isNamed_inModule {e : Entities} (he : IsNamed e) {name : String}
    (hname : '\n' ∉ name.toList ∧ name.toList.head?.any Text.isBlank = false) :
    IsNamed (e.inModule name) := by
  constructor
  · intro x hx
    obtain ⟨own, hown, rfl⟩ := Entities.mem_classes_inModule.mp hx
    exact (isName_qualified_iff (he.classes own hown)).mpr hname
  · intro x hx
    obtain ⟨own, hown, rfl⟩ := Entities.mem_methods_inModule.mp hx
    exact (isName_qualified_iff (he.methods own hown)).mpr hname

theorem isNamed_unionAll {es : List Entities} (h : ∀ e ∈ es, IsNamed e) :
    IsNamed (Entities.unionAll es) := by
  constructor
  · intro x hx
    obtain ⟨e, he, hxe⟩ := Entities.mem_classes_unionAll.mp hx
    exact (h e he).classes x hxe
  · intro x hx
    obtain ⟨e, he, hxe⟩ := Entities.mem_methods_unionAll.mp hx
    exact (h e he).methods x hxe

section

variable {parser : Parser} {repo : Repository} {options : ResolverOptions} {id : CommitId}

/-- A file whose names take a line: its path holds no line feed, its package does not begin with a
blank, and what it declares takes a line. -/
def NamesLines (parser : Parser) (repo : Repository) (options : ResolverOptions) (id : CommitId)
    (path : String) : Prop :=
  ∀ root text outline,
    Package.find? repo id path options.packageMarker options.packageSearch = some root →
    repo.content id path = .ok text →
    readOutlineBy parser text (originOf id path) = .ok outline →
    '\n' ∉ path.toList ∧ root.name.toList.head?.any Text.isBlank = false ∧
      DeclareNames outline.declarations

theorem isNamed_addHunk {path : String} {outline : Outline}
    (houtline : DeclareNames outline.declarations) {state : Entities × Journal}
    (hstate : IsNamed state.1) (header : String) :
    IsNamed (addHunk options id path outline state header).1 := by
  unfold addHunk
  cases Hunk.parse? header with
  | none => exact hstate
  | some hunk => exact isNamed_addSpan houtline hstate _

theorem isNamed_resolveBy {path : String} (h : NamesLines parser repo options id path)
    (headers : List String) (journal : Journal) :
    IsNamed (resolveBy parser repo options id path headers journal).1 := by
  unfold resolveBy
  cases hread : readFile parser repo options id path with
  | error failure => exact isNamed_empty
  | ok found =>
      obtain ⟨name, outline⟩ := found
      obtain ⟨root, text, hroot, hname, htext, houtline⟩ := readFile_eq_ok_iff.mp hread
      obtain ⟨hpath, hblank, hdeclares⟩ := h root text outline hroot htext houtline
      have hplain := Package.plain_of_moduleName hname hpath
        (by simpa [Package.name_eq_lastSegment hroot] using hblank)
      apply isNamed_inModule _ hplain
      apply List.foldlRecOn (motive := fun state : Entities × Journal => IsNamed state.1)
      · exact isNamed_empty
      · intro state hstate header _
        exact isNamed_addHunk hdeclares hstate header

/-- The names of a goldset take a line if those of every changed file do. -/
theorem isNamed_aggregateBy {ids : List CommitId}
    (h : ∀ id ∈ ids, ∀ files, changesOf repo options id = .ok files →
      ∀ file ∈ files, NamesLines parser repo options id file.path) (journal : Journal) :
    IsNamed (aggregateBy parser repo options ids journal).1 := by
  rw [aggregateBy_fst]
  apply isNamed_unionAll
  intro e he
  obtain ⟨id, hid, rfl⟩ := List.mem_map.mp he
  unfold commitEntities
  cases hfiles : changesOf repo options id with
  | error failure => exact isNamed_empty
  | ok files =>
      apply isNamed_unionAll
      intro e he
      obtain ⟨file, hfile, rfl⟩ := List.mem_map.mp he
      exact isNamed_resolveBy (h id hid files hfiles file hfile) file.hunks {}

end

end IssueTrace
