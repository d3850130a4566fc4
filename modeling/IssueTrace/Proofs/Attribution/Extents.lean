import IssueTrace.Proofs.Attribution.Resolve
import IssueTrace.Proofs.Attribution.Trimming
import IssueTrace.Proofs.Diff.LineFeeds
import IssueTrace.Proofs.Source.Siblings

/-!
# Context attracts no declaration

What a span hits has a line of its own in the span: the first line of the declaration or that of the
span, whichever comes later.  For this the next sibling must come behind both, and for the last
member of a class the next sibling of the class.  Inside a file the span of a hunk holds the lines
between its changes only, so a declaration that has none of them is not reported.
-/

namespace IssueTrace

open Source (Declaration Outline Parser Separate InExtent endOf?)
open Diff (Script)

namespace Change

/-- The line lies in the extent of a class of that name. -/
def ClassAt (ds : List Declaration) (name : String) (line : Nat) : Prop :=
  ∃ i start body, ds[i]? = some (.classDef name start body) ∧ InExtent ds none i line

/-- The line lies in the extent of a function of that name, at the top or in a class. -/
def MethodAt (ds : List Declaration) (name : String) (line : Nat) : Prop :=
  (∃ i start, ds[i]? = some (.function name start) ∧ InExtent ds none i line) ∨
    ∃ i owner start body j member memberStart,
      ds[i]? = some (.classDef owner start body) ∧
        body[j]? = some (.function member memberStart) ∧
        name = owner ++ "." ++ member ∧ InExtent body (endOf? ds none i) j line

variable {ds : List Declaration} {span : LineSpan}

/-- What a span hits has in it the later one of the first lines of both. -/
theorem inExtent_of_hit (hds : Separate ds) {outer : Option Nat} {i : Nat} {d : Declaration}
    (hd : ds[i]? = some d) (hdef : d.isDefinition = true)
    (hnext : ∀ next, ds[i + 1]? = some next → span.start < next.line)
    (houter : ∀ bound ∈ outer, max d.line span.start < bound) :
    InExtent ds outer i (max d.line span.start) := by
  refine ⟨⟨d, hd, Nat.le_max_left _ _⟩, Source.lt_of_mem_endOf? ?_ houter⟩
  intro next hget
  exact Nat.max_lt.mpr ⟨(hds.precedes hd hget).line_lt hdef, hnext next hget⟩

theorem contains_max {line : Nat} (hspan : span.start ≤ span.stop) (hline : line ≤ span.stop) :
    span.Contains (max line span.start) :=
  ⟨Nat.le_max_right _ _, Nat.max_le.mpr ⟨hline, hspan⟩⟩

theorem HitsClass.exists_line (hds : Separate ds) (hspan : span.start ≤ span.stop) {name : String}
    (h : HitsClass ds span name) : ∃ line, span.Contains line ∧ ClassAt ds name line := by
  obtain ⟨start, body, i, hi, hline, hnext⟩ := h
  have hextent : InExtent ds none i (max start span.start) :=
    inExtent_of_hit hds hi rfl hnext (by simp)
  exact ⟨_, contains_max hspan hline, i, start, body, hi, hextent⟩

/-- A function that a span hits has a line in the span, and so has a member of a class that it hits
together with the class. -/
theorem HitsMethod.exists_line (hds : Separate ds) (hspan : span.start ≤ span.stop) {name : String}
    (h : HitsMethod ds span name) : ∃ line, span.Contains line ∧ MethodAt ds name line := by
  rcases h with ⟨start, i, hi, hline, hnext⟩ |
    ⟨owner, start, body, member, memberStart, ⟨i, hi, -, hnext⟩, ⟨j, hj, hline, hnextMember⟩, hname⟩
  · have hextent : InExtent ds none i (max start span.start) :=
      inExtent_of_hit hds hi rfl hnext (by simp)
    exact ⟨_, contains_max hspan hline, .inl ⟨i, start, hi, hextent⟩⟩
  · have hbody : Separate body := hds.body (List.mem_of_getElem? hi)
    have houter : ∀ bound ∈ endOf? ds none i, max memberStart span.start < bound := by
      apply Source.lt_of_mem_endOf?
      · intro next hget
        have hbehind := (hds.precedes hi hget).member_lt _ (List.mem_of_getElem? hj)
        exact Nat.max_lt.mpr ⟨hbehind, hnext next hget⟩
      · simp
    have hextent := inExtent_of_hit hbody hj rfl hnextMember houter
    exact ⟨_, contains_max hspan hline,
      .inr ⟨i, owner, start, body, j, member, memberStart, hi, hj, hname, hextent⟩⟩

end Change

open Change

/-- A hunk inside the file that adds a line is credited to declarations with a line of their own
between its changes: a class or a function found for the header of such a hunk has in its extent a
line behind the unchanged lines at the front of the hunk and before those at its end.  Every header
of a unified diff is that of a hunk. -/
theorem resolveBy_finds_between_changes {parser : Parser} {repo : Repository}
    {options : ResolverOptions} {commit : CommitId} {path name : String} {bytes : List UInt8}
    {outline : Outline}
    (hread : readFile parser repo options commit path = .ok (name, outline))
    (htext : repo.content commit path = .ok (Text.decodeLossy bytes))
    (hends : bytes.getLast? = some Diff.lineFeed)
    (hsize : bytes.length < maxLine)
    (hseparate : Separate outline.declarations)
    {old : List UInt8} {script : Script} {headers : List String}
    (hscript : script.Rewrites old bytes)
    (hheaders : Diff.IsUnified options.contextLines script headers)
    {header : String} (hheader : header ∈ headers) (journal : Journal) :
    (∃ before lead body trail after,
      Diff.Shows options.contextLines script header before lead body trail after) ∧
    ∀ before lead body trail after,
      Diff.Shows options.contextLines script header before lead body trail after →
      (∃ line, Diff.Edit.add line ∈ body) → before.new ≠ [] → after.new ≠ [] →
      (∀ x ∈ (resolveBy parser repo options commit path [header] journal).1.classes,
        ∃ own line, x = name ++ "." ++ own ∧ ClassAt outline.declarations own line ∧
          (Script.new (before ++ lead)).length < line ∧
          line ≤ (Script.new (before ++ lead ++ body)).length) ∧
      ∀ x ∈ (resolveBy parser repo options commit path [header] journal).1.methods,
        ∃ own line, x = name ++ "." ++ own ∧ MethodAt outline.declarations own line ∧
          (Script.new (before ++ lead)).length < line ∧
          line ≤ (Script.new (before ++ lead ++ body)).length := by
  refine ⟨hheaders.exists_shows hheader, ?_⟩
  intro before lead body trail after hshows ⟨added, hadded⟩ hbefore hafter
  obtain ⟨_, text, -, -, htext', houtline⟩ := readFile_eq_ok_iff.mp hread
  obtain rfl : Text.decodeLossy bytes = text := Except.ok.inj (htext.symm.trans htext')
  have hcount : outline.lineCount = script.new.length := by
    rw [(Source.readOutlineBy_eq_ok houtline).2, hscript.length_new hends]
  have hfits : script.new.length < maxLine := hscript.length_new_lt hends hsize
  have hbody : body.new ≠ [] := by
    intro hnone
    have hkept := List.filterMap_eq_nil_iff.mp hnone _ hadded
    cases hkept
  obtain ⟨hunk, hparse⟩ : ∃ hunk, Hunk.parse? header = some hunk :=
    ⟨_, hshows.parse?_header hfits⟩
  have hbetween : ∀ line,
      (LineSpan.trimmed hunk outline.lineCount options.contextLines).Contains line →
        (Script.new (before ++ lead)).length < line ∧
          line ≤ (Script.new (before ++ lead ++ body)).length := by
    intro line hline
    rw [hcount] at hline
    exact (hshows.contains_iff_between hfits hbefore hafter hbody hparse).mp hline
  have hspan := LineSpan.trimmed_start_le_stop hunk outline.lineCount options.contextLines
  constructor
  · intro x hx
    obtain ⟨own, htouches, rfl⟩ :=
      (mem_classes_resolveBy_of_ascending hseparate.ascending hread).mp hx
    obtain ⟨line, hline, hat⟩ := ((touches_singleton hparse).mp htouches).exists_line hseparate hspan
    exact ⟨own, line, rfl, hat, hbetween line hline⟩
  · intro x hx
    obtain ⟨own, htouches, rfl⟩ :=
      (mem_methods_resolveBy_of_ascending hseparate.ascending hread).mp hx
    obtain ⟨line, hline, hat⟩ := ((touches_singleton hparse).mp htouches).exists_line hseparate hspan
    exact ⟨own, line, rfl, hat, hbetween line hline⟩

/-! ## A class of three functions

The second of them is replaced. -/

namespace Sample

open Source (Tree)

def longText : String :=
  "class A:\n    def f(): pass\n    def g(): pass\n    def h(): pass\ndef k(): pass\n"

/-- The tree of the text. -/
def longTree : Tree :=
  phrase "module" none ⟨0, 0⟩ ⟨5, 0⟩
    [phrase "class_definition" none ⟨0, 0⟩ ⟨3, 17⟩
      [word "class" "class" false none 0 0,
        word "identifier" "A" true (some "name") 0 6,
        word ":" ":" false none 0 7,
        phrase "block" (some "body") ⟨1, 4⟩ ⟨3, 17⟩
          [function "f" 1 4, function "g" 2 4, function "h" 3 4]],
      function "k" 4 0]

def longDeclarations : List Declaration :=
  [.classDef "A" 1 [.function "f" 2, .function "g" 3, .function "h" 4], .function "k" 5]

/-- A parser that knows this text only. -/
def longParser : Parser := fun _ => longTree

def longRepository : Repository :=
  { repository with content := fun _ _ => .ok longText }

theorem separate_longDeclarations : Separate longDeclarations := by
  have hbody : Separate [.function "f" 2, .function "g" 3, .function "h" 4] := by
    refine .intro ?_ ?_
    · simp [Source.Declaration.precedes_iff, Declaration.line, Declaration.body]
    · simp [Declaration.body, Separate.nil]
  refine .intro ?_ ?_
  · simp [longDeclarations, Source.Declaration.precedes_iff, Declaration.line, Declaration.body]
  · simp [longDeclarations, Declaration.body, Separate.nil, hbody]

theorem readOutlineBy_longText (origin : String) :
    Source.readOutlineBy longParser longText origin = .ok ⟨.legacy, longDeclarations, 5⟩ := by
  have hselect : Outline.select longTree Source.Dialect.order = .ok .legacy := by
    decide +kernel
  have hdeclarations : longTree.declarations = longDeclarations := rfl
  have hcount : (longText.toList.filter (· == '\n')).length = 5 := by decide +kernel
  unfold Source.readOutlineBy Outline.ofTree
  rw [show longParser longText = longTree from rfl, hselect, hdeclarations, hcount]
  rfl

theorem readFile_longText :
    readFile longParser longRepository { contextLines := 1 } commit "pkg/mod.py" =
      .ok ("pkg.mod", ⟨.legacy, longDeclarations, 5⟩) := by
  refine readFile_eq_ok_iff.mpr ⟨⟨"pkg", "pkg"⟩, longText, ?_, ?_, rfl, readOutlineBy_longText _⟩
  · decide +kernel
  · decide +kernel

end Sample

/-- The second function of the class is replaced, with one unchanged line shown at either side.  What
is found has the third line in its extent, and the function there is found. -/
theorem resolveBy_finds_between_changes_of_sample :
    Separate Sample.longDeclarations ∧
      (∀ x ∈ (resolveBy Sample.longParser Sample.longRepository { contextLines := 1 } Sample.commit
          "pkg/mod.py" ["@@ -2,3 +2,3 @@ class A:"] {}).1.methods,
        ∃ own, x = "pkg.mod" ++ "." ++ own ∧ MethodAt Sample.longDeclarations own 3) ∧
      "pkg.mod.A.g" ∈ (resolveBy Sample.longParser Sample.longRepository { contextLines := 1 }
        Sample.commit "pkg/mod.py" ["@@ -2,3 +2,3 @@ class A:"] {}).1.methods := by
  let first := Text.encode "class A:\n"
  let second := Text.encode "    def f(): pass\n"
  let replaced := Text.encode "    def g(): return\n"
  let third := Text.encode "    def g(): pass\n"
  let fourth := Text.encode "    def h(): pass\n"
  let fifth := Text.encode "def k(): pass\n"
  let body : Script := [.delete replaced, .add third]
  have hends : (Text.encode Sample.longText).getLast? = some Diff.lineFeed := by decide +kernel
  have htext : Sample.longRepository.content Sample.commit "pkg/mod.py" =
      .ok (Text.decodeLossy (Text.encode Sample.longText)) := by
    rw [Text.decodeLossy_encode]
    rfl
  have hscript : Script.Rewrites ([.keep first, .keep second] ++ body ++ [.keep fourth, .keep fifth])
      (first ++ second ++ replaced ++ fourth ++ fifth) (Text.encode Sample.longText) := by
    constructor
    · decide +kernel
    · decide +kernel
  have hhunk : Diff.IsHunk 1 [.keep first] [.keep second] body [.keep fourth] [.keep fifth] := by
    refine ⟨by simp [Diff.Edit.isKept], by simp [Diff.Edit.isKept], ⟨_, rfl, rfl⟩, ⟨_, rfl, rfl⟩,
      .inl rfl, .inl rfl⟩
  have hheader : (Diff.extentOf [.keep first] ([.keep second] ++ body ++ [.keep fourth])).text ++
      " class A:" = "@@ -2,3 +2,3 @@ class A:" := by
    decide +kernel
  have hshows : Diff.Shows 1 ([.keep first, .keep second] ++ body ++ [.keep fourth, .keep fifth])
      "@@ -2,3 +2,3 @@ class A:" [.keep first] [.keep second] body [.keep fourth]
      [.keep fifth] :=
    ⟨rfl, hhunk, " class A:", hheader.symm⟩
  have hheaders : Diff.IsUnified 1
      ([.keep first, .keep second] ++ body ++ [.keep fourth, .keep fifth])
      ["@@ -2,3 +2,3 @@ class A:"] :=
    hshows.isUnified (by simp [Diff.Edit.isKept]) (by simp [Diff.Edit.isKept])
  obtain ⟨-, hfound⟩ := resolveBy_finds_between_changes Sample.readFile_longText htext hends
    (by decide +kernel) Sample.separate_longDeclarations hscript hheaders
    (List.mem_singleton_self _) {}
  obtain ⟨-, hmethods⟩ := hfound _ _ _ _ _ hshows ⟨third, by simp [body]⟩ (by simp) (by simp)
  refine ⟨Sample.separate_longDeclarations, ?_, NameSet.mem_def.mpr (by decide +kernel)⟩
  intro x hx
  obtain ⟨own, line, hname, hat, hafter, hupto⟩ := hmethods x hx
  obtain rfl : line = 3 := by
    have hlow : 2 < line := hafter
    have hhigh : line ≤ 3 := hupto
    omega
  exact ⟨own, hname, hat⟩

end IssueTrace
