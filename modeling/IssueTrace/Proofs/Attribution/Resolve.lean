import IssueTrace.Change.Resolve
import IssueTrace.Proofs.Attribution.Entities
import IssueTrace.Proofs.Attribution.Hits
import IssueTrace.Proofs.Package.Ancestors

/-!
# What a change to a file resolves to

The entities of a changed file are those that the trimmed spans of its hunks hit, inside the module
of the file.  Only the set of the headers that can be read matters, and nothing is found in a file
that has no package, cannot be looked up or is refused by every dialect.
-/

namespace IssueTrace

open Source (Outline Parser readOutlineBy)

namespace Change

/-- Some hunk of a change touches a name, in a file with that outline: its trimmed span hits it. -/
def Touches (Hits : List Source.Declaration → LineSpan → String → Prop) (outline : Outline)
    (context : Nat) (headers : List String) (name : String) : Prop :=
  ∃ header ∈ headers, ∃ hunk, Hunk.parse? header = some hunk ∧
    Hits outline.declarations (LineSpan.trimmed hunk outline.lineCount context) name

/-- Only the set of the headers that can be read matters. -/
theorem Touches.congr {Hits : List Source.Declaration → LineSpan → String → Prop}
    {outline : Outline} {context : Nat} {headers headers' : List String}
    (h : ∀ header, (Hunk.parse? header).isSome → (header ∈ headers ↔ header ∈ headers'))
    {name : String} :
    Touches Hits outline context headers name ↔ Touches Hits outline context headers' name := by
  constructor
  · rintro ⟨header, hmem, hunk, hparse, hhit⟩
    exact ⟨header, (h header (by simp [hparse])).mp hmem, hunk, hparse, hhit⟩
  · rintro ⟨header, hmem, hunk, hparse, hhit⟩
    exact ⟨header, (h header (by simp [hparse])).mpr hmem, hunk, hparse, hhit⟩

theorem touches_singleton {Hits : List Source.Declaration → LineSpan → String → Prop}
    {outline : Outline} {context : Nat} {header : String} {hunk : Hunk}
    (hparse : Hunk.parse? header = some hunk) {name : String} :
    Touches Hits outline context [header] name ↔
      Hits outline.declarations (LineSpan.trimmed hunk outline.lineCount context) name := by
  unfold Touches
  simp [hparse]

end Change

open Change

section

variable {parser : Parser} {repo : Repository} {options : ResolverOptions} {commit : CommitId}
  {path : String}

/-! ## Reading the file -/

theorem qualify_eq_ok_iff {name : String} :
    qualify repo options commit path = .ok name ↔
      ∃ root,
        Package.find? repo commit path options.packageMarker options.packageSearch = some root ∧
        Package.moduleName? path root.directory options.sourceExtension = some name := by
  unfold qualify
  cases hroot : Package.find? repo commit path options.packageMarker options.packageSearch with
  | none => simp
  | some root =>
      obtain ⟨own, hown⟩ := Package.exists_moduleName hroot options.sourceExtension
      simp [hown]

/-- A file is read when it has a package and a text, and some dialect accepts the text. -/
theorem readFile_eq_ok_iff {name : String} {outline : Outline} :
    readFile parser repo options commit path = .ok (name, outline) ↔
      ∃ root text,
        Package.find? repo commit path options.packageMarker options.packageSearch = some root ∧
        Package.moduleName? path root.directory options.sourceExtension = some name ∧
        repo.content commit path = .ok text ∧
        readOutlineBy parser text (originOf commit path) = .ok outline := by
  unfold readFile
  constructor
  · intro h
    cases hname : qualify repo options commit path with
    | error f => simp [hname, bind, Except.bind] at h
    | ok own =>
        cases htext : repo.content commit path with
        | error f => simp [hname, htext, bind, Except.bind] at h
        | ok text =>
            cases houtline : readOutlineBy parser text (originOf commit path) with
            | error f => simp [hname, htext, houtline, bind, Except.bind] at h
            | ok found =>
                simp only [hname, htext, houtline, bind, Except.bind, pure, Except.pure,
                  Except.ok.injEq, Prod.mk.injEq] at h
                obtain ⟨rfl, rfl⟩ := h
                obtain ⟨root, hroot, hmodule⟩ := qualify_eq_ok_iff.mp hname
                exact ⟨root, text, hroot, hmodule, rfl, houtline⟩
  · rintro ⟨root, text, hroot, hmodule, htext, houtline⟩
    rw [qualify_eq_ok_iff.mpr ⟨root, hroot, hmodule⟩, htext]
    simp only [bind, Except.bind, houtline]
    rfl

/-- A file that has no package, cannot be looked up, or is refused by every dialect. -/
def Unreadable (parser : Parser) (repo : Repository) (options : ResolverOptions)
    (commit : CommitId) (path : String) : Prop :=
  Package.find? repo commit path options.packageMarker options.packageSearch = none ∨
    (∃ failure, repo.content commit path = .error failure) ∨
      ∃ text failure, repo.content commit path = .ok text ∧
        readOutlineBy parser text (originOf commit path) = .error failure

theorem Unreadable.not_read (h : Unreadable parser repo options commit path) (name : String)
    (outline : Outline) : readFile parser repo options commit path ≠ .ok (name, outline) := by
  intro hread
  obtain ⟨root, text, hroot, -, htext, houtline⟩ := readFile_eq_ok_iff.mp hread
  rcases h with hnone | ⟨failure, hcontent⟩ | ⟨text', failure, htext', hrefused⟩
  · simp [hnone] at hroot
  · simp [hcontent] at htext
  · obtain rfl : text' = text := by simpa [htext'] using htext
    simp [hrefused] at houtline

/-! ## The loop over the headers -/

theorem addHunk_adds_iff {outline : Outline} (Known : Entities → Prop) {Adds : LineSpan → Prop}
    (hspan : ∀ e span, Known (Entities.addSpan outline.declarations e span) ↔ Known e ∨ Adds span)
    (state : Entities × Journal) (header : String) :
    Known (addHunk options commit path outline state header).1 ↔
      Known state.1 ∨ ∃ hunk, Hunk.parse? header = some hunk ∧
        Adds (LineSpan.trimmed hunk outline.lineCount options.contextLines) := by
  cases hparse : Hunk.parse? header with
  | none => simp [addHunk, hparse]
  | some hunk => simp [addHunk, hparse, hspan]

theorem foldl_addHunk_adds_iff {outline : Outline} (Known : Entities → Prop)
    {Adds : LineSpan → Prop}
    (hspan : ∀ e span, Known (Entities.addSpan outline.declarations e span) ↔ Known e ∨ Adds span)
    (headers : List String) (state : Entities × Journal) :
    Known (headers.foldl (addHunk options commit path outline) state).1 ↔
      Known state.1 ∨ ∃ header ∈ headers, ∃ hunk, Hunk.parse? header = some hunk ∧
        Adds (LineSpan.trimmed hunk outline.lineCount options.contextLines) :=
  foldl_adds_iff (fun state : Entities × Journal => Known state.1) (addHunk_adds_iff Known hspan)
    headers state

/-! ## The entities found -/

theorem resolveBy_of_not_read
    (h : ∀ name outline, readFile parser repo options commit path ≠ .ok (name, outline))
    (headers : List String) (journal : Journal) :
    (resolveBy parser repo options commit path headers journal).1 = {} := by
  unfold resolveBy
  cases hread : readFile parser repo options commit path with
  | error failure => rfl
  | ok found => exact absurd hread (h found.1 found.2)

/-- The classes found are those that the hunks touch, if the outline is in ascending order. -/
theorem mem_classes_resolveBy_of_ascending {name : String} {outline : Outline}
    (hascending : Source.Ascending outline.declarations)
    (h : readFile parser repo options commit path = .ok (name, outline)) {headers : List String}
    {journal : Journal} {x : String} :
    x ∈ (resolveBy parser repo options commit path headers journal).1.classes ↔
      ∃ own, Touches HitsClass outline options.contextLines headers own ∧
        x = name ++ "." ++ own := by
  unfold resolveBy
  rw [h]
  refine Entities.mem_classes_inModule.trans (exists_congr fun own => and_congr_left fun _ => ?_)
  refine (foldl_addHunk_adds_iff (own ∈ ·.classes)
    (Entities.mem_classes_addSpan hascending) headers _).trans ?_
  exact or_iff_right Entities.not_mem_classes_empty

/-- The methods found are those that the hunks touch, if the outline is in ascending order. -/
theorem mem_methods_resolveBy_of_ascending {name : String} {outline : Outline}
    (hascending : Source.Ascending outline.declarations)
    (h : readFile parser repo options commit path = .ok (name, outline)) {headers : List String}
    {journal : Journal} {x : String} :
    x ∈ (resolveBy parser repo options commit path headers journal).1.methods ↔
      ∃ own, Touches HitsMethod outline options.contextLines headers own ∧
        x = name ++ "." ++ own := by
  unfold resolveBy
  rw [h]
  refine Entities.mem_methods_inModule.trans (exists_congr fun own => and_congr_left fun _ => ?_)
  refine (foldl_addHunk_adds_iff (own ∈ ·.methods)
    (Entities.mem_methods_addSpan hascending) headers _).trans ?_
  exact or_iff_right Entities.not_mem_methods_empty

theorem ascending_of_readFile (hparser : parser.KeepsOrder) {name : String} {outline : Outline}
    (h : readFile parser repo options commit path = .ok (name, outline)) :
    Source.Ascending outline.declarations := by
  obtain ⟨_, _, _, _, _, houtline⟩ := readFile_eq_ok_iff.mp h
  exact hparser.ascending houtline

theorem mem_classes_resolveBy (hparser : parser.KeepsOrder) {name : String} {outline : Outline}
    (h : readFile parser repo options commit path = .ok (name, outline)) {headers : List String}
    {journal : Journal} {x : String} :
    x ∈ (resolveBy parser repo options commit path headers journal).1.classes ↔
      ∃ own, Touches HitsClass outline options.contextLines headers own ∧
        x = name ++ "." ++ own :=
  mem_classes_resolveBy_of_ascending (ascending_of_readFile hparser h) h

theorem mem_methods_resolveBy (hparser : parser.KeepsOrder) {name : String} {outline : Outline}
    (h : readFile parser repo options commit path = .ok (name, outline)) {headers : List String}
    {journal : Journal} {x : String} :
    x ∈ (resolveBy parser repo options commit path headers journal).1.methods ↔
      ∃ own, Touches HitsMethod outline options.contextLines headers own ∧
        x = name ++ "." ++ own :=
  mem_methods_resolveBy_of_ascending (ascending_of_readFile hparser h) h

theorem resolveBy_congr (hparser : parser.KeepsOrder) {headers headers' : List String}
    (h : ∀ header, (Hunk.parse? header).isSome → (header ∈ headers ↔ header ∈ headers'))
    (journal journal' : Journal) :
    (resolveBy parser repo options commit path headers journal).1 =
      (resolveBy parser repo options commit path headers' journal').1 := by
  by_cases hread : ∃ name outline, readFile parser repo options commit path = .ok (name, outline)
  · obtain ⟨name, outline, hread⟩ := hread
    apply Entities.ext_mem
    · intro x
      rw [mem_classes_resolveBy hparser hread, mem_classes_resolveBy hparser hread]
      simp only [Touches.congr h]
    · intro x
      rw [mem_methods_resolveBy hparser hread, mem_methods_resolveBy hparser hread]
      simp only [Touches.congr h]
  · have hnot : ∀ name outline,
        readFile parser repo options commit path ≠ .ok (name, outline) := by
      intro name outline heq
      exact hread ⟨name, outline, heq⟩
    rw [resolveBy_of_not_read hnot, resolveBy_of_not_read hnot]

/-- A change to a file resolves to the classes and methods that its hunks touch, each inside the
module of the file, and to nothing where the file has no package, no text or no accepted outline.
The order and the number of the headers do not matter, nor do headers that cannot be read. -/
theorem resolveBy_eq_touched (hparser : parser.KeepsOrder) (repo : Repository)
    (options : ResolverOptions) (commit : CommitId) (path : String) (headers : List String)
    (journal : Journal) :
    (∀ root text outline,
      Package.find? repo commit path options.packageMarker options.packageSearch = some root →
      repo.content commit path = .ok text →
      readOutlineBy parser text (originOf commit path) = .ok outline →
      ∃ name, Package.moduleName? path root.directory options.sourceExtension = some name ∧
        (∀ x, x ∈ (resolveBy parser repo options commit path headers journal).1.classes ↔
          ∃ own, Touches HitsClass outline options.contextLines headers own ∧
            x = name ++ "." ++ own) ∧
        ∀ x, x ∈ (resolveBy parser repo options commit path headers journal).1.methods ↔
          ∃ own, Touches HitsMethod outline options.contextLines headers own ∧
            x = name ++ "." ++ own) ∧
    (Package.find? repo commit path options.packageMarker options.packageSearch = none →
      (resolveBy parser repo options commit path headers journal).1 = {}) ∧
    (∀ failure, repo.content commit path = .error failure →
      (resolveBy parser repo options commit path headers journal).1 = {}) ∧
    (∀ text failure, repo.content commit path = .ok text →
      readOutlineBy parser text (originOf commit path) = .error failure →
      (resolveBy parser repo options commit path headers journal).1 = {}) ∧
    ∀ headers' journal',
      (∀ header, (Hunk.parse? header).isSome → (header ∈ headers ↔ header ∈ headers')) →
      (resolveBy parser repo options commit path headers' journal').1 =
        (resolveBy parser repo options commit path headers journal).1 := by
  refine ⟨?_, ?_, ?_, ?_, ?_⟩
  · intro root text outline hroot htext houtline
    obtain ⟨name, hname⟩ := Package.exists_moduleName hroot options.sourceExtension
    have hread := readFile_eq_ok_iff.mpr ⟨root, text, hroot, hname, htext, houtline⟩
    refine ⟨name, hname, ?_, ?_⟩
    · intro x
      exact mem_classes_resolveBy hparser hread
    · intro x
      exact mem_methods_resolveBy hparser hread
  · intro hnone
    have hunread : Unreadable parser repo options commit path := .inl hnone
    exact resolveBy_of_not_read hunread.not_read headers journal
  · intro failure hcontent
    have hunread : Unreadable parser repo options commit path := .inr (.inl ⟨failure, hcontent⟩)
    exact resolveBy_of_not_read hunread.not_read headers journal
  · intro text failure htext hrefused
    have hunread : Unreadable parser repo options commit path :=
      .inr (.inr ⟨text, failure, htext, hrefused⟩)
    exact resolveBy_of_not_read hunread.not_read headers journal
  · intro headers' journal' hheaders
    exact (resolveBy_congr hparser hheaders journal journal').symm

end

/-! ## A sample

A package of one module, with the tree that its text has. -/

namespace Sample

open Source (Tree Point)

/-- A token on one line. -/
def word (kind text : String) (isNamed : Bool) (field : Option String) (row column : Nat) : Tree :=
  Tree.make
    { kind, isNamed, field, text, start := ⟨row, column⟩, stop := ⟨row, column + text.length⟩ } []

/-- A node with parts. -/
def phrase (kind : String) (field : Option String) (start stop : Point) (parts : List Tree) :
    Tree :=
  Tree.make { kind, isNamed := true, field, start, stop } parts

/-- A function on one line that does nothing, with a name of one letter. -/
def function (name : String) (row column : Nat) : Tree :=
  phrase "function_definition" none ⟨row, column⟩ ⟨row, column + 13⟩
    [word "def" "def" false none row column,
      word "identifier" name true (some "name") row (column + 4),
      phrase "parameters" (some "parameters") ⟨row, column + 5⟩ ⟨row, column + 7⟩
        [word "(" "(" false none row (column + 5), word ")" ")" false none row (column + 6)],
      word ":" ":" false none row (column + 7),
      phrase "block" (some "body") ⟨row, column + 9⟩ ⟨row, column + 13⟩
        [phrase "pass_statement" none ⟨row, column + 9⟩ ⟨row, column + 13⟩
          [word "pass" "pass" false none row (column + 9)]]]

def text : String := "class A:\n    def f(): pass\ndef g(): pass\n"

/-- The tree of the text. -/
def tree : Tree :=
  phrase "module" none ⟨0, 0⟩ ⟨3, 0⟩
    [phrase "class_definition" none ⟨0, 0⟩ ⟨1, 17⟩
      [word "class" "class" false none 0 0,
        word "identifier" "A" true (some "name") 0 6,
        word ":" ":" false none 0 7,
        phrase "block" (some "body") ⟨1, 4⟩ ⟨1, 17⟩ [function "f" 1 4]],
      function "g" 2 0]

/-- A parser that knows this text only. -/
def parser : Parser := fun _ => tree

def commit : CommitId := ⟨"1111111111111111111111111111111111111111"⟩

/-- The repository of the sample, with one commit that changes the module and a file outside. -/
def repository : Repository where
  commit id := if id = commit then .ok ⟨id, "", [id]⟩ else .error (.git (.unknownCommit id))
  content _ path := if path = "pkg/mod.py" then .ok text else .error (.contentNotFound commit path)
  pathExists _ path := path = "pkg/__init__.py"
  changes _ _ _ _ := .ok [⟨"pkg/mod.py", ["@@ -2,0 +3 @@"]⟩, ⟨"mod.py", ["@@ -0,0 +1 @@"]⟩]

theorem parser_keepsOrder : parser.KeepsOrder := by
  intro _
  simp [parser, tree, function, phrase, word]

theorem readOutlineBy_text (origin : String) :
    readOutlineBy parser text origin =
      .ok ⟨.legacy, [.classDef "A" 1 [.function "f" 2], .function "g" 3], 3⟩ := by
  have hselect : Source.Outline.select tree Source.Dialect.order = .ok .legacy := by
    decide +kernel
  have hdeclarations :
      tree.declarations = [.classDef "A" 1 [.function "f" 2], .function "g" 3] := rfl
  have hcount : (text.toList.filter (· == '\n')).length = 3 := by decide +kernel
  unfold readOutlineBy Source.Outline.ofTree
  rw [show parser text = tree from rfl, hselect, hdeclarations, hcount]
  rfl

end Sample

/-- A change of the second line of the sample touches the method there. -/
theorem resolveBy_eq_touched_second_line :
    Sample.parser.KeepsOrder ∧
      "pkg.mod.A.f" ∈
        (resolveBy Sample.parser Sample.repository { contextLines := 0 } Sample.commit "pkg/mod.py"
          ["@@ nothing @@", "@@ -2 +2 @@ class A:"] {}).1.methods := by
  refine ⟨Sample.parser_keepsOrder, ?_⟩
  obtain ⟨hfound, -⟩ := resolveBy_eq_touched Sample.parser_keepsOrder Sample.repository
    { contextLines := 0 } Sample.commit "pkg/mod.py" ["@@ nothing @@", "@@ -2 +2 @@ class A:"] {}
  obtain ⟨name, hname, -, hmethods⟩ := hfound ⟨"pkg", "pkg"⟩ Sample.text _ (by decide +kernel) rfl
    (Sample.readOutlineBy_text _)
  obtain rfl : "pkg.mod" = name := by
    apply Option.some.inj
    rw [← hname]
    decide +kernel
  have hspan : LineSpan.trimmed ⟨2, 1⟩ 3 0 = ⟨2, 2⟩ := by decide
  refine (hmethods "pkg.mod.A.f").mpr ⟨"A.f", ?_, by decide +kernel⟩
  refine ⟨"@@ -2 +2 @@ class A:", by simp, ⟨2, 1⟩, by decide +kernel, .inr ?_⟩
  rw [hspan]
  refine ⟨"A", 1, [.function "f" 2], "f", 2, ⟨0, rfl, by decide, ?_⟩, ⟨0, rfl, by decide, ?_⟩,
    by decide +kernel⟩
  · simp [Source.Declaration.line]
  · simp

end IssueTrace
