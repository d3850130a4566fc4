import IssueTrace.History.Store
import IssueTrace.Proofs.History.Deltas
import IssueTrace.Proofs.History.Directory

/-!
# Changed files can be read

The changes between two commits are listed from their snapshots, and the content of a file is looked up
by its path.  The two agree: the changes are listed for the paths that lead to a leaf of the newer tree
that was not there before, and what is listed can be read unless it is a commit of another project.
-/

namespace IssueTrace.History

open IssueTrace.Path (IsPlain pieces)
open StoredNode (leafAt?)

variable {h : History} {id parent : CommitId} {path : String}
  {tree before after : List (List UInt8 × StoredNode)}

/-- The files of a commit are those of a sound tree. -/
structure HasTree (h : History) (id : CommitId) (tree : List (List UInt8 × StoredNode)) : Prop where
  sound : (StoredNode.directory tree).IsSound
  recorded : ∃ r, h.graph.find? id = some r ∧ r.snapshot = Snapshot.ofStored tree

/-- A file can be read at the path of its leaf, a commit of another project cannot. -/
theorem HasTree.content_eq (htree : h.HasTree id tree) {l : Leaf} (hl : leafAt? tree path = some l) :
    h.toRepository.content id path =
      match l with
      | .file _ bytes => .ok (Text.decodeLossy bytes)
      | .subproject _ => .error (.contentNotFound id path) := by
  obtain ⟨r, hr, hsnapshot⟩ := htree.recorded
  have hrecord : h.record id = .ok r := by
    unfold record
    rw [hr]
  have hleaf : r.snapshot.leaf? (pieces path) = some l := by
    rw [hsnapshot, StoredNode.leaf?_ofStored, hl]
  have hplain : IsPlain path := by
    have hsound : r.snapshot.IsSound := hsnapshot ▸ htree.sound.ofStored
    rw [← Path.intercalate_pieces path]
    exact (hsound.pieces_path hleaf).2
  have hfound : r.snapshot.find? path = some (.leaf l) := by
    rw [r.snapshot.find?_eq_at? hplain]
    exact Snapshot.leaf?_eq_some_iff.mp hleaf
  unfold toRepository Snapshot.file?
  simp only [hrecord, hfound, bind, Except.bind]
  cases l with
  | file mode bytes => rfl
  | subproject commit => rfl

/-- The changes between two commits are listed for exactly the paths with the given end at which the
newer tree has a leaf that the older one does not have there, in the order of their bytes and each path
once.  Every listed path can be read at the newer commit, unless a commit of another project stands
there, of which it is told that there is no content. -/
theorem changes_listed_and_read (hbefore : h.HasTree parent before) (hafter : h.HasTree id after)
    (ending : String) (context : Nat) :
    ∃ files, h.toRepository.changes parent id ending context = .ok files ∧
      files.Pairwise (fun f g => Text.encode f.path < Text.encode g.path) ∧
      (∀ path, path ∈ files.map FileChange.path ↔
        ending.toList <:+ path.toList ∧
          ∃ l, leafAt? after path = some l ∧ leafAt? before path ≠ some l) ∧
      ∀ path ∈ files.map FileChange.path,
        (∃ mode bytes, leafAt? after path = some (.file mode bytes) ∧
            h.toRepository.content id path = .ok (Text.decodeLossy bytes)) ∨
          ∃ commit, leafAt? after path = some (.subproject commit) ∧
            h.toRepository.content id path = .error (.contentNotFound id path) := by
  obtain ⟨old, hold, holdSnapshot⟩ := hbefore.recorded
  obtain ⟨new, hnew, hnewSnapshot⟩ := hafter.recorded
  have holdSound : old.snapshot.IsSound := holdSnapshot ▸ hbefore.sound.ofStored
  have hnewSound : new.snapshot.IsSound := hnewSnapshot ▸ hafter.sound.ofStored
  have hlisted : ∀ path, path ∈ (old.snapshot.changes new.snapshot ending context).map
      FileChange.path ↔ ending.toList <:+ path.toList ∧
        ∃ l, leafAt? after path = some l ∧ leafAt? before path ≠ some l := by
    intro path
    rw [Snapshot.mem_changes_iff holdSound hnewSound, holdSnapshot, hnewSnapshot,
      StoredNode.leaf?_ofStored, StoredNode.leaf?_ofStored]
  refine ⟨old.snapshot.changes new.snapshot ending context, ?_, ?_, hlisted, ?_⟩
  · unfold toRepository record
    simp only [hold, hnew]
    rfl
  · exact (Snapshot.changes_pairwise holdSound hnewSound).imp Text.encode_lt_encode
  · intro path hpath
    obtain ⟨-, l, hl, -⟩ := (hlisted path).mp hpath
    have hcontent := hafter.content_eq hl
    cases l with
    | file mode bytes => exact .inl ⟨mode, bytes, hl, hcontent⟩
    | subproject commit => exact .inr ⟨commit, hl, hcontent⟩

/-! ## Two small trees -/

namespace Changes.Sample

def fileOf (name : String) (mode : FileMode) (text : String) : List UInt8 × StoredNode :=
  (Text.encode name, .leaf (.file mode (Text.encode text)))

def older : List (List UInt8 × StoredNode) :=
  [fileOf "a.py" .plain "x", fileOf "b.py" .plain "x",
    (Text.encode "d.py", .directory [fileOf "c.py" .plain ""]), fileOf "gone.py" .plain "",
    fileOf "link.py" .plain "a.py"]

def project : CommitId := ⟨"1111111111111111111111111111111111111111"⟩

/-- One file has another text, one another mode, a directory has become a file, a file a link, and there
is another project and a file whose name is no text. -/
def newer : List (List UInt8 × StoredNode) :=
  [fileOf "a.py" .plain "y", fileOf "b.py" .executable "x", fileOf "d.py" .plain "",
    fileOf "link.py" .link "a.py", (Text.encode "sub.py", .leaf (.subproject project)),
    ([0xFF, 0x2E, 0x70, 0x79], .leaf (.file .plain []))]

def first : CommitId := ⟨"0000000000000000000000000000000000000001"⟩

def second : CommitId := ⟨"0000000000000000000000000000000000000002"⟩

def history : History where
  graph :=
    { records :=
        [⟨second, [first], 2, [], .ofStored newer⟩, ⟨first, [], 1, [], .ofStored older⟩] }

theorem hasTree_older : history.HasTree first older := by
  refine ⟨.directory (by decide +kernel) (by decide +kernel) ?_, _, rfl, rfl⟩
  have hinner : (StoredNode.directory [fileOf "c.py" .plain ""]).IsSound :=
    .directory (by decide +kernel) (by decide +kernel) (by simp [fileOf, StoredNode.IsSound.leaf])
  simpa [older, fileOf, StoredNode.IsSound.leaf] using hinner

theorem hasTree_newer : history.HasTree second newer :=
  ⟨.directory (by decide +kernel) (by decide +kernel)
    (by simp [newer, fileOf, StoredNode.IsSound.leaf]), _, rfl, rfl⟩

end Changes.Sample

open Changes.Sample in
/-- The five paths are listed, and neither the deleted ones nor a path that is no text; the link is read
as its target, the other project cannot be read. -/
theorem changes_listed_and_read_of_sample :
    history.HasTree first older ∧ history.HasTree second newer ∧
      ∃ files, history.toRepository.changes first second ".py" 3 = .ok files ∧
        (∀ path ∈ ["a.py", "b.py", "d.py", "link.py", "sub.py"],
          path ∈ files.map FileChange.path) ∧
        (∀ path ∈ ["d.py/c.py", "gone.py", Text.decodeLossy [0xFF, 0x2E, 0x70, 0x79]],
          path ∉ files.map FileChange.path) ∧
        history.toRepository.content second "link.py" = .ok "a.py" ∧
        history.toRepository.content second "sub.py" =
          .error (.contentNotFound second "sub.py") := by
  refine ⟨hasTree_older, hasTree_newer, ?_⟩
  obtain ⟨files, hfiles, -, hlisted, hread⟩ :=
    changes_listed_and_read hasTree_older hasTree_newer ".py" 3
  have hchanged : ∀ path ∈ ["a.py", "b.py", "d.py", "link.py", "sub.py"],
      path ∈ files.map FileChange.path := by
    have hleaves : ∀ path ∈ ["a.py", "b.py", "d.py", "link.py", "sub.py"],
        ".py".toList <:+ path.toList ∧ (leafAt? newer path).isSome = true ∧
          leafAt? newer path ≠ leafAt? older path := by
      decide +kernel
    intro path hpath
    obtain ⟨hending, hsome, hdiffer⟩ := hleaves path hpath
    obtain ⟨l, hl⟩ := Option.isSome_iff_exists.mp hsome
    exact (hlisted path).mpr ⟨hending, l, hl, fun hold => hdiffer (hl.trans hold.symm)⟩
  refine ⟨files, hfiles, hchanged, ?_, ?_, ?_⟩
  · have hnone : ∀ path ∈ ["d.py/c.py", "gone.py", Text.decodeLossy [0xFF, 0x2E, 0x70, 0x79]],
        leafAt? newer path = none := by
      decide +kernel
    intro path hpath hmem
    obtain ⟨-, l, hl, -⟩ := (hlisted path).mp hmem
    rw [hnone path hpath] at hl
    cases hl
  · have hlink : leafAt? newer "link.py" = some (.file .link (Text.encode "a.py")) := by
      decide +kernel
    rcases hread "link.py" (hchanged _ (by simp)) with ⟨mode, bytes, hl, hcontent⟩ | ⟨commit, hl, -⟩
    · rw [hlink] at hl
      cases hl
      rw [hcontent, Text.decodeLossy_encode]
    · rw [hlink] at hl
      cases hl
  · have hproject : leafAt? newer "sub.py" = some (.subproject project) := by
      decide +kernel
    rcases hread "sub.py" (hchanged _ (by simp)) with ⟨mode, bytes, hl, -⟩ | ⟨commit, -, hcontent⟩
    · rw [hproject] at hl
      cases hl
    · exact hcontent

end IssueTrace.History
