import IssueTrace.History.Store
import IssueTrace.Proofs.Attribution.Resolve
import IssueTrace.Proofs.History.Trees
import IssueTrace.Proofs.Text.Decoding
import IssueTrace.Repository.Memory

/-!
# Repositories with the same files

A repository in memory, where files are stated with their paths, and a history, where they stand in
a tree, give the same answers about the files of a commit.  Packages are looked for by such answers
only, and a changed file is resolved by them and its package, so both come out the same.
-/

namespace IssueTrace

open IssueTrace.Path (IsPlain pieces)
open Source (Parser)

/-! ## What a changed file is resolved by -/

namespace Package

theorem find?_congr {repo repo' : Repository} {commit : CommitId} {path marker : String}
    (h : ∀ dir ∈ ancestors path,
      repo.pathExists commit (dir ++ "/" ++ marker) =
        repo'.pathExists commit (dir ++ "/" ++ marker))
    (search : PackageSearch) :
    find? repo commit path marker search = find? repo' commit path marker search := by
  unfold find?
  rw [List.filter_congr h]

theorem isPlain_marker {dir path marker : String} (hpath : IsPlain path)
    (hdir : dir ∈ ancestors path) (hslash : '/' ∉ marker.toList) (hne : marker ≠ "") :
    IsPlain (dir ++ "/" ++ marker) := by
  obtain ⟨rest, hrest⟩ := mem_ancestors.mp hdir
  have hletters : path.toList = dir.toList ++ '/' :: (String.ofList rest).toList := by
    rw [hrest, String.toList_ofList]
  have hfront : IsPlain dir := ((Path.isPlain_of_slash hletters).mp hpath).1
  have hjoined : (dir ++ "/" ++ marker).toList = dir.toList ++ '/' :: marker.toList := by simp
  exact (Path.isPlain_of_slash hjoined).mpr ⟨hfront, Path.isPlain_of_no_slash hslash hne⟩

end Package

/-- A file is resolved by its package and its text. -/
theorem resolveBy_eq_of_same {repo repo' : Repository} {options : ResolverOptions}
    {commit : CommitId} {path : String}
    (hpackage : Package.find? repo commit path options.packageMarker options.packageSearch =
      Package.find? repo' commit path options.packageMarker options.packageSearch)
    (hcontent : repo.content commit path = repo'.content commit path) (parser : Parser)
    (headers : List String) (journal : Journal) :
    resolveBy parser repo options commit path headers journal =
      resolveBy parser repo' options commit path headers journal := by
  have hqualify : qualify repo options commit path = qualify repo' options commit path := by
    unfold qualify
    rw [hpackage]
  have hread : readFile parser repo options commit path =
      readFile parser repo' options commit path := by
    unfold readFile
    rw [hqualify, hcontent]
  unfold resolveBy
  rw [hread]

theorem ResolverOptions.marker_of_fault? {options : ResolverOptions}
    (h : options.fault? = none) :
    '/' ∉ options.packageMarker.toList ∧ options.packageMarker ≠ "" := by
  unfold fault? at h
  split at h
  · cases h
  · rename_i hmarker
    simp only [Bool.or_eq_true, not_or] at hmarker
    exact ⟨by simpa using hmarker.2, by simpa using hmarker.1⟩

/-! ## Files that are stated -/

namespace MemoryRepository

/-- The files stated for an id. -/
def filesAt (r : MemoryRepository) (id : CommitId) : List (String × String) :=
  ((r.find? id).map Revision.files).getD []

theorem isBelow_iff {directory path : String} :
    isBelow directory path = true ↔ ∃ more, more ≠ [] ∧ pieces path = pieces directory ++ more := by
  rw [← Path.exists_slash_iff]
  unfold isBelow
  rw [List.isPrefixOf_iff_prefix]
  constructor
  · rintro ⟨rest, hrest⟩
    exact ⟨rest, by rw [← hrest]; simp⟩
  · rintro ⟨rest, hrest⟩
    exact ⟨rest, by rw [hrest]; simp⟩

theorem pathExists_iff {r : MemoryRepository} {id : CommitId} {path : String} :
    r.toRepository.pathExists id path = true ↔
      ∃ file text more, (r.filesAt id).lookup file = some text ∧
        pieces file = pieces path ++ more := by
  have hstated : r.toRepository.pathExists id path = true ↔
      ∃ f ∈ r.filesAt id, f.1 = path ∨ isBelow path f.1 = true := by
    unfold filesAt
    change (r.find? id).any (hasPath · path) = true ↔ _
    cases r.find? id with
    | none => simp
    | some v => simp [hasPath]
  have hlookup : ∀ f ∈ r.filesAt id, ∃ text, (r.filesAt id).lookup f.1 = some text := by
    intro f hf
    have hsome : ((r.filesAt id).lookup f.1).isSome = true := by
      rw [List.lookup_isSome_iff]
      exact ⟨f, hf, by simp⟩
    exact Option.isSome_iff_exists.mp hsome
  rw [hstated]
  constructor
  · rintro ⟨f, hf, heq | hbelow⟩
    · obtain ⟨text, htext⟩ := hlookup f hf
      exact ⟨f.1, text, [], htext, by rw [heq, List.append_nil]⟩
    · obtain ⟨text, htext⟩ := hlookup f hf
      obtain ⟨more, -, hpieces⟩ := isBelow_iff.mp hbelow
      exact ⟨f.1, text, more, htext, hpieces⟩
  · rintro ⟨file, text, more, hfile, hpieces⟩
    obtain ⟨before, behind, hfiles, -⟩ := List.lookup_eq_some_iff.mp hfile
    refine ⟨(file, text), by simp [hfiles], ?_⟩
    by_cases hmore : more = []
    · left
      rw [hmore, List.append_nil] at hpieces
      exact Path.pieces_inj.mp hpieces
    · exact .inr (isBelow_iff.mpr ⟨more, hmore, hpieces⟩)

theorem content_eq (r : MemoryRepository) (id : CommitId) (path : String) :
    r.toRepository.content id path =
      match (r.filesAt id).lookup path with
      | some text => .ok text
      | none => .error (.contentNotFound id path) := by
  unfold filesAt
  change (match (r.find? id).bind (·.files.lookup path) with
    | some text => Except.ok text
    | none => .error (Failure.contentNotFound id path)) = _
  cases r.find? id with
  | none => rfl
  | some v => rfl

end MemoryRepository

/-! ## Files in a tree -/

namespace History

variable {h : History} {id : CommitId} {r : Record} {files : List (String × String)}
  {path : String}

theorem pathExists_iff (hrecord : h.graph.find? id = some r) (htree : r.snapshot.Holds files)
    (hpath : IsPlain path) :
    h.toRepository.pathExists id path = true ↔
      ∃ file text more, files.lookup file = some text ∧ pieces file = pieces path ++ more := by
  rw [← htree.isSome_find?_iff hpath]
  unfold toRepository
  simp only [hrecord]

theorem content_eq (hrecord : h.graph.find? id = some r) (htree : r.snapshot.Holds files)
    (hpath : IsPlain path) :
    h.toRepository.content id path =
      match files.lookup path with
      | some text => .ok text
      | none => .error (.contentNotFound id path) := by
  have hfound : h.record id = .ok r := by
    unfold record
    rw [hrecord]
  unfold toRepository
  simp only [hfound, htree.file?_eq hpath, bind, Except.bind]
  cases files.lookup path with
  | none => rfl
  | some text => exact congrArg Except.ok (Text.decodeLossy_encode text)

end History

/-! ## The same answers -/

/-- A repository in memory and a history whose tree has the stated files give the same answers at
that commit: whether something is at a plain path, and its text or that there is no such file.  So
the same package is found for a file, and its changes are resolved to the same entities with the
same journal. -/
theorem memory_agrees_with_history (m : MemoryRepository) {h : History} {id : CommitId}
    {r : History.Record} (hrecord : h.graph.find? id = some r)
    (htree : r.snapshot.Holds (m.filesAt id)) :
    (∀ path, IsPlain path →
      m.toRepository.pathExists id path = h.toRepository.pathExists id path ∧
      ((∃ text, m.toRepository.content id path = .ok text ∧
          h.toRepository.content id path = .ok text) ∨
        m.toRepository.content id path = .error (.contentNotFound id path) ∧
          h.toRepository.content id path = .error (.contentNotFound id path))) ∧
    (∀ path marker search, IsPlain path → '/' ∉ marker.toList → marker ≠ "" →
      Package.find? m.toRepository id path marker search =
        Package.find? h.toRepository id path marker search) ∧
    ∀ parser options path headers journal, IsPlain path → options.fault? = none →
      resolveBy parser m.toRepository options id path headers journal =
        resolveBy parser h.toRepository options id path headers journal := by
  have hexists : ∀ path, IsPlain path →
      m.toRepository.pathExists id path = h.toRepository.pathExists id path := by
    intro path hpath
    rw [Bool.eq_iff_iff, MemoryRepository.pathExists_iff,
      History.pathExists_iff hrecord htree hpath]
  have hcontent : ∀ path, IsPlain path →
      m.toRepository.content id path = h.toRepository.content id path := by
    intro path hpath
    rw [MemoryRepository.content_eq, History.content_eq hrecord htree hpath]
  have hpackage : ∀ path marker search, IsPlain path → '/' ∉ marker.toList → marker ≠ "" →
      Package.find? m.toRepository id path marker search =
        Package.find? h.toRepository id path marker search := by
    intro path marker search hpath hslash hne
    apply Package.find?_congr
    intro dir hdir
    exact hexists _ (Package.isPlain_marker hpath hdir hslash hne)
  refine ⟨?_, hpackage, ?_⟩
  · intro path hpath
    refine ⟨hexists path hpath, ?_⟩
    rw [← hcontent path hpath, MemoryRepository.content_eq]
    cases (m.filesAt id).lookup path with
    | some text => exact .inl ⟨text, rfl, rfl⟩
    | none => exact .inr ⟨rfl, rfl⟩
  · intro parser options path headers journal hpath hoptions
    obtain ⟨hslash, hne⟩ := ResolverOptions.marker_of_fault? hoptions
    exact resolveBy_eq_of_same (hpackage path _ _ hpath hslash hne) (hcontent path hpath) parser
      headers journal

namespace Sample

/-- The module of the sample with a marker, and a file in a directory with a similar name. -/
def files : List (String × String) :=
  [("pkg/__init__.py", ""), ("pkg/mod.py", text), ("pkg2/mod.py", "é\n")]

def stated : MemoryRepository := ⟨[(commit, ⟨none, files, []⟩)]⟩

def recorded : History.Record := ⟨commit, [], 0, [], History.Snapshot.ofFiles files⟩

def history : History := { graph := { records := [recorded] } }

end Sample

/-- The tree of the sample answers as the stated files do, and the method that was changed is found
by it. -/
theorem memory_agrees_with_history_of_sample :
    Sample.recorded.snapshot.Holds (Sample.stated.filesAt Sample.commit) ∧
      Sample.history.toRepository.pathExists Sample.commit "pkg" = true ∧
      Sample.history.toRepository.content Sample.commit "pkg2/mod.py" = .ok "é\n" ∧
      "pkg.mod.A.f" ∈ (resolveBy Sample.parser Sample.history.toRepository
        { contextLines := 0 } Sample.commit "pkg/mod.py" ["@@ -2 +2 @@"] {}).1.methods := by
  have hfiles : History.Snapshot.IsFileSet Sample.files := by
    constructor
    · decide +kernel
    · decide +kernel
  have hstated : Sample.stated.filesAt Sample.commit = Sample.files := by decide +kernel
  have htree : Sample.recorded.snapshot.Holds (Sample.stated.filesAt Sample.commit) := by
    rw [hstated]
    exact History.Snapshot.holds_ofFiles hfiles
  have hrecord : Sample.history.graph.find? Sample.commit = some Sample.recorded := by
    rfl
  obtain ⟨hanswers, -, hresolve⟩ := memory_agrees_with_history Sample.stated hrecord htree
  have hdirectory := (hanswers "pkg" (by decide +kernel)).1
  have hcontent := (hanswers "pkg2/mod.py" (by decide +kernel)).2
  have hresolved := hresolve Sample.parser { contextLines := 0 } "pkg/mod.py" ["@@ -2 +2 @@"] {}
    (by decide +kernel) (by decide +kernel)
  have hfound : Sample.stated.toRepository.content Sample.commit "pkg2/mod.py" = .ok "é\n" := by
    decide +kernel
  have hmethod : "pkg.mod.A.f" ∈ (resolveBy Sample.parser Sample.stated.toRepository
      { contextLines := 0 } Sample.commit "pkg/mod.py" ["@@ -2 +2 @@"] {}).1.methods := by
    rw [NameSet.mem_def]
    decide +kernel
  refine ⟨htree, ?_, ?_, ?_⟩
  · rw [← hdirectory]
    decide +kernel
  · rcases hcontent with ⟨text, hown, hother⟩ | ⟨hnone, -⟩
    · rw [hfound] at hown
      rw [hother, ← hown]
    · rw [hfound] at hnone
      cases hnone
  · rw [← hresolved]
    exact hmethod

end IssueTrace
