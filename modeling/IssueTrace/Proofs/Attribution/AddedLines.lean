import IssueTrace.Proofs.Attribution.Resolve
import IssueTrace.Proofs.Attribution.Trimming

/-!
# No added line is missed

The unchanged lines around a hunk are cut away by their number alone.  In a unified diff this never
cuts away a line that was added: a hunk with fewer unchanged lines at an edge stands at that end of
the file, and there nothing is cut.  So every added line lies in the span of some hunk, and the last
declarations that start at or before it are reported.
-/

namespace IssueTrace

open Source (Outline Parser readOutlineBy)
open Diff (Script)

namespace Diff

/-- An added line lies in the trimmed span of a hunk, if the lines of the new file can be
numbered. -/
theorem IsUnified.exists_span_contains {context : Nat} {script : Script} {headers : List String}
    (h : IsUnified context script headers) (hfits : script.new.length < maxLine)
    {line : Nat} (hadd : script.AddsLine line) :
    ∃ header ∈ headers, ∃ hunk, Hunk.parse? header = some hunk ∧
      (LineSpan.trimmed hunk script.new.length context).Contains line := by
  obtain ⟨front, text, back, hscript, rfl⟩ := hadd
  obtain ⟨header, hheader, before, lead, body, trail, after, heading, hsplit, hhunk, rfl, hlow,
    hhigh⟩ := Cuts.exists_showsChange h hscript
  have hshows : Shows context script _ before lead body trail after :=
    ⟨hsplit, hhunk, heading, rfl⟩
  have hparse := hshows.parse?_header hfits
  exact ⟨_, hheader, _, hparse, hshows.contains_of_between hfits hparse hlow hhigh⟩

end Diff

open Change

/-- What a change to a file touches on account of an added line: the last declaration at the top
that starts at or before it, and in a class the last function there. -/
theorem touches_of_span_contains {outline : Outline} (h : Source.Ascending outline.declarations)
    {context : Nat} {headers : List String} {line : Nat}
    (hspan : ∃ header ∈ headers, ∃ hunk, Hunk.parse? header = some hunk ∧
      (LineSpan.trimmed hunk outline.lineCount context).Contains line) :
    (∀ name start, lastAt? outline.declarations line = some (.function name start) →
      Touches HitsMethod outline context headers name) ∧
    ∀ owner start body, lastAt? outline.declarations line = some (.classDef owner start body) →
      Touches HitsClass outline context headers owner ∧
      ∀ name memberStart, lastAt? body line = some (.function name memberStart) →
        Touches HitsMethod outline context headers (owner ++ "." ++ name) := by
  obtain ⟨header, hheader, hunk, hparse, hstart, hstop⟩ := hspan
  constructor
  · intro name start hlast
    have hhit := isHit_of_lastAt? h.pairwise hstart hstop hlast
    exact ⟨header, hheader, hunk, hparse, .inl ⟨start, hhit⟩⟩
  · intro owner start body hlast
    have hhit := isHit_of_lastAt? h.pairwise hstart hstop hlast
    refine ⟨⟨header, hheader, hunk, hparse, start, body, hhit⟩, ?_⟩
    intro name memberStart hmember
    have hbody := (h.body hhit.mem).pairwise
    have hhit' := isHit_of_lastAt? hbody hstart hstop hmember
    exact ⟨header, hheader, hunk, hparse,
      .inr ⟨owner, start, body, name, memberStart, hhit, hhit', rfl⟩⟩

/-- Every line that a change adds is reported, where the headers are those of a unified diff with
the context of the options: each lies in a trimmed span, and the last function or class at the top
that starts at or before it is found, and in a class the last function there.  The file need not be
a text.  One that fits in memory has fewer bytes than there are line numbers. -/
theorem resolveBy_reports_added_line {parser : Parser} (hparser : parser.KeepsOrder)
    {repo : Repository} {options : ResolverOptions} {commit : CommitId} {path : String}
    {root : PackageRoot} {bytes : List UInt8} {outline : Outline}
    (hroot :
      Package.find? repo commit path options.packageMarker options.packageSearch = some root)
    (htext : repo.content commit path = .ok (Text.decodeLossy bytes))
    (houtline :
      readOutlineBy parser (Text.decodeLossy bytes) (originOf commit path) = .ok outline)
    (hends : bytes.getLast? = some Diff.lineFeed)
    (hsize : bytes.length < maxLine)
    {before : List UInt8} {script : Script} {headers : List String}
    (hscript : script.Rewrites before bytes)
    (hheaders : Diff.IsUnified options.contextLines script headers)
    {line : Nat} (hadd : script.AddsLine line) (journal : Journal) :
    ∃ name, Package.moduleName? path root.directory options.sourceExtension = some name ∧
      (∃ header ∈ headers, ∃ hunk, Hunk.parse? header = some hunk ∧
        (LineSpan.trimmed hunk outline.lineCount options.contextLines).Contains line) ∧
      (∀ own start, lastAt? outline.declarations line = some (.function own start) →
        name ++ "." ++ own ∈
          (resolveBy parser repo options commit path headers journal).1.methods) ∧
      ∀ owner start body, lastAt? outline.declarations line = some (.classDef owner start body) →
        name ++ "." ++ owner ∈
          (resolveBy parser repo options commit path headers journal).1.classes ∧
        ∀ own memberStart, lastAt? body line = some (.function own memberStart) →
          name ++ "." ++ (owner ++ "." ++ own) ∈
            (resolveBy parser repo options commit path headers journal).1.methods := by
  obtain ⟨name, hname⟩ := Package.exists_moduleName hroot options.sourceExtension
  have hread := readFile_eq_ok_iff.mpr ⟨root, _, hroot, hname, htext, houtline⟩
  have hcount : outline.lineCount = script.new.length := by
    rw [(Source.readOutlineBy_eq_ok houtline).2, hscript.length_new hends]
  have hfits : script.new.length < maxLine := hscript.length_new_lt hends hsize
  have hspan := hheaders.exists_span_contains hfits hadd
  rw [← hcount] at hspan
  obtain ⟨hfunction, hclass⟩ := touches_of_span_contains (hparser.ascending houtline) hspan
  refine ⟨name, hname, hspan, ?_, ?_⟩
  · intro own start hlast
    exact (mem_methods_resolveBy hparser hread).mpr ⟨own, hfunction own start hlast, rfl⟩
  · intro owner start body hlast
    obtain ⟨hown, hmembers⟩ := hclass owner start body hlast
    refine ⟨(mem_classes_resolveBy hparser hread).mpr ⟨owner, hown, rfl⟩, ?_⟩
    intro own memberStart hmember
    exact (mem_methods_resolveBy hparser hread).mpr
      ⟨owner ++ "." ++ own, hmembers own memberStart hmember, rfl⟩

/-- The last line of the sample is added behind one unchanged line that the hunk shows. -/
theorem resolveBy_reports_added_line_at_end :
    (Text.encode Sample.text).getLast? = some Diff.lineFeed ∧
      "pkg.mod.g" ∈
        (resolveBy Sample.parser Sample.repository { contextLines := 1 } Sample.commit "pkg/mod.py"
          ["@@ -2 +2,2 @@ class A:"] {}).1.methods := by
  let first := Text.encode "class A:\n"
  let second := Text.encode "    def f(): pass\n"
  let third := Text.encode "def g(): pass\n"
  let options : ResolverOptions := { contextLines := 1 }
  have hends : (Text.encode Sample.text).getLast? = some Diff.lineFeed := by decide +kernel
  have hscript : Script.Rewrites [.keep first, .keep second, .add third] (first ++ second)
      (Text.encode Sample.text) := by
    constructor
    · decide +kernel
    · decide +kernel
  have hhunk : Diff.IsHunk 1 [.keep first] [.keep second] [.add third] [] [] := by
    refine ⟨by simp [Diff.Edit.isKept], by simp, ⟨_, rfl, rfl⟩, ⟨_, rfl, rfl⟩, .inl rfl, ?_⟩
    exact .inr ⟨by decide, rfl⟩
  have hheader : (Diff.extentOf [.keep first] [.keep second, .add third]).text ++ " class A:" =
      "@@ -2 +2,2 @@ class A:" := by
    decide +kernel
  have hheaders : Diff.IsUnified options.contextLines [.keep first, .keep second, .add third]
      ["@@ -2 +2,2 @@ class A:"] := by
    have hgap : ∀ e ∈ [Diff.Edit.keep first], e.isKept = true := by simp [Diff.Edit.isKept]
    have hrest : ∀ e ∈ ([] : Script), e.isKept = true := by simp
    rw [← hheader]
    exact @Diff.Cuts.hunk 1 [] _ _ _ _ _ " class A:" [] hgap hhunk (.done hrest)
  have hadd : Script.AddsLine [.keep first, .keep second, .add third] 3 :=
    ⟨[.keep first, .keep second], third, [], rfl, rfl⟩
  have hroot : Package.find? Sample.repository Sample.commit "pkg/mod.py" options.packageMarker
      options.packageSearch = some ⟨"pkg", "pkg"⟩ := by
    decide +kernel
  have htext : Sample.repository.content Sample.commit "pkg/mod.py" =
      .ok (Text.decodeLossy (Text.encode Sample.text)) := by
    rw [Text.decodeLossy_encode]
    rfl
  have houtline := Sample.readOutlineBy_text (originOf Sample.commit "pkg/mod.py")
  rw [← Text.decodeLossy_encode Sample.text] at houtline
  obtain ⟨name, hname, -, hmethods, -⟩ := resolveBy_reports_added_line Sample.parser_keepsOrder
    hroot htext houtline hends (by decide +kernel) hscript hheaders hadd {}
  obtain rfl : "pkg.mod" = name := by
    apply Option.some.inj
    rw [← hname]
    decide +kernel
  exact ⟨hends, hmethods "g" 3 rfl⟩

end IssueTrace
