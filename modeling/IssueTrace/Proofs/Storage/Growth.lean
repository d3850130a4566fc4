import IssueTrace.Proofs.Storage.Directories

/-!
# Work below a place

A part of a run that works in a directory writes files below its place only.  Elsewhere nothing
happens but that directories are made, so files there stay as they are, and what lies below any
place apart from it is not touched.
-/

namespace IssueTrace.FileSystem

variable {fs fs' fs'' : FileSystem} {place dir below other : List String} {path name : String}

/-! ## Places apart -/

theorem not_prefix_of_ne {name name' : String} (h : name ≠ name') :
    ¬ place ++ [name] <+: place ++ [name'] := by
  rw [List.prefix_append_right_inj]
  rintro ⟨rest, hrest⟩
  exact h (List.cons.inj hrest).1

theorem not_prefix_of_apart (hbelow : ¬ dir <+: other) (habove : ¬ other <+: dir)
    (hplace : dir <+: place) : ¬ other <+: place := by
  intro hother
  rcases List.prefix_or_prefix_of_prefix hother hplace with h | h
  · exact habove h
  · exact hbelow h

/-! ## More than there was -/

/-- Everything there is in the one file system is there in the other: directories as directories, and
files as files, whatever they hold. -/
structure KeepsEntries (fs fs' : FileSystem) : Prop where
  workDir_eq : fs'.workDir = fs.workDir
  directories : fs.KeepsDirectories fs'
  files : ∀ place entry, fs.get? place = some entry → entry ≠ .directory →
    ∃ entry', fs'.get? place = some entry' ∧ entry' ≠ .directory

namespace KeepsEntries

theorem refl (fs : FileSystem) : KeepsEntries fs fs :=
  ⟨rfl, fun _ => id, fun _ entry h hentry => ⟨entry, h, hentry⟩⟩

theorem trans (h : KeepsEntries fs fs') (h' : KeepsEntries fs' fs'') :
    KeepsEntries fs fs'' where
  workDir_eq := h'.workDir_eq.trans h.workDir_eq
  directories place hplace := h'.directories place (h.directories place hplace)
  files place entry hget hentry := by
    obtain ⟨entry', hget', hentry'⟩ := h.files place entry hget hentry
    exact h'.files place entry' hget' hentry'

end KeepsEntries

/-- Files were written below a place only.  Directories may have been made anywhere, and nothing was
taken away. -/
structure GrowsBelow (dir : List String) (fs fs' : FileSystem) : Prop
    extends KeepsEntries fs fs' where
  elsewhere : ∀ place, ¬ dir <+: place →
    fs'.get? place = fs.get? place ∨ fs.get? place = none ∧ fs'.get? place = some .directory
  listing : ∀ other, ¬ dir <+: other → ¬ other <+: dir → fs'.filesBelow other = fs.filesBelow other

namespace GrowsBelow

theorem refl (dir : List String) (fs : FileSystem) : GrowsBelow dir fs fs where
  toKeepsEntries := .refl fs
  elsewhere _ _ := .inl rfl
  listing _ _ _ := rfl

theorem trans (h : GrowsBelow dir fs fs') (h' : GrowsBelow dir fs' fs'') :
    GrowsBelow dir fs fs'' where
  toKeepsEntries := h.toKeepsEntries.trans h'.toKeepsEntries
  elsewhere place hplace :=
    same_or_made_trans (h.elsewhere place hplace) (h'.elsewhere place hplace)
  listing other hbelow habove :=
    (h'.listing other hbelow habove).trans (h.listing other hbelow habove)

theorem mono (h : GrowsBelow below fs fs') (hdir : dir <+: below) : GrowsBelow dir fs fs' where
  toKeepsEntries := h.toKeepsEntries
  elsewhere place hplace := h.elsewhere place fun hbelow => hplace (hdir.trans hbelow)
  listing other hbelow habove := by
    apply h.listing other
    · exact fun hother => hbelow (hdir.trans hother)
    · exact not_prefix_of_apart hbelow habove hdir

theorem of_onlyDirectories (h : OnlyDirectories fs fs') (dir : List String) :
    GrowsBelow dir fs fs' where
  workDir_eq := h.workDir_eq
  directories := h.keepsDirectories
  files _ entry hget hentry := ⟨entry, h.get?_of_some hget, hentry⟩
  elsewhere place _ := h.get?_cases place
  listing other _ _ := h.listing other

theorem put_file (hdir : dir <+: place) (hplace : fs.get? place ≠ some .directory)
    (content : Content) : GrowsBelow dir fs (fs.put place (.file content)) where
  workDir_eq := rfl
  directories := keepsDirectories_put_file hplace content
  files q own hget hown := by
    rw [get?_put (ne_nil_of_get?_ne hplace)]
    split
    · exact ⟨.file content, rfl, by simp⟩
    · exact ⟨own, hget, hown⟩
  elsewhere q hq := by
    refine .inl (get?_put_of_ne (ne_nil_of_get?_ne hplace) ?_)
    rintro rfl
    exact hq hdir
  listing other hbelow habove := by
    exact filesBelow_put_of_not_prefix (not_prefix_of_apart hbelow habove hdir)

theorem get?_file {content : Content} (h : GrowsBelow dir fs fs') (hplace : ¬ dir <+: place)
    (hget : fs.get? place = some (.file content)) : fs'.get? place = some (.file content) := by
  rcases h.elsewhere place hplace with hsame | ⟨hnone, -⟩
  · rw [hsame, hget]
  · rw [hget] at hnone
    cases hnone

/-- Work in one directory leaves the files of the others beside it. -/
theorem listing_of_ne {name name' : String} (h : GrowsBelow (place ++ [name]) fs fs')
    (hne : name ≠ name') : fs'.filesBelow (place ++ [name']) = fs.filesBelow (place ++ [name']) :=
  h.listing _ (not_prefix_of_ne hne) (not_prefix_of_ne hne.symm)

theorem locate (h : GrowsBelow dir fs fs')
    (hplace : fs.locate path = .ok (.existing place .directory)) :
    fs'.locate path = .ok (.existing place .directory) :=
  h.directories.locate h.workDir_eq hplace

end GrowsBelow

/-! ## Writing in a directory -/

/-- A file that can be written in a directory stands at its place there. -/
theorem openForWriting_join {dir : String} {before : Option Content}
    (hdir : fs.locate dir = .ok (.existing place .directory)) (hname : Path.IsEntryName name)
    (h : fs.openForWriting (Path.join dir name) = .ok (below, before)) :
    below = place ++ [name] ∧ fs.get? (place ++ [name]) = before.map .file ∧
      Admits dir name := by
  obtain ⟨hleads, hget⟩ := openForWriting_eq_ok h
  have hlocate := hleads.located
  have hadmits : Admits dir name := by
    by_contra hnot
    obtain ⟨fault, hfault, -⟩ := locate_join_of_not_admits hdir hname hnot
    rw [hfault] at hlocate
    cases hlocate
  rw [(leadsTo_join hdir hname hadmits).located, Except.ok.injEq] at hlocate
  obtain rfl := targetAt_inj hlocate
  exact ⟨rfl, hget, hadmits⟩

theorem write_join {dir text : String}
    (hdir : fs.locate dir = .ok (.existing place .directory)) (hname : Path.IsEntryName name)
    (h : fs.write (Path.join dir name) text = .ok fs') :
    Admits dir name ∧ fs.get? (place ++ [name]) ≠ some .directory ∧
      fs' = fs.put (place ++ [name]) (.file (.text text)) := by
  obtain ⟨below, before, hopen, rfl⟩ := write_eq_ok_iff.mp h
  obtain ⟨rfl, hget, hadmits⟩ := openForWriting_join hdir hname hopen
  exact ⟨hadmits, get?_ne_directory hget, rfl⟩

theorem append_join {dir text : String}
    (hdir : fs.locate dir = .ok (.existing place .directory)) (hname : Path.IsEntryName name)
    (h : fs.append (Path.join dir name) text = .ok fs') :
    ∃ before : Option Content, Admits dir name ∧ fs.get? (place ++ [name]) = before.map .file ∧
      fs' = fs.put (place ++ [name]) (.file ((before.getD (.text "")).append text)) := by
  obtain ⟨below, before, hopen, rfl⟩ := append_eq_ok_iff.mp h
  obtain ⟨rfl, hget, hadmits⟩ := openForWriting_join hdir hname hopen
  exact ⟨before, hadmits, hget, rfl⟩

end IssueTrace.FileSystem

/-! ## The directories of a window -/

namespace IssueTrace.VersionLayout

open FileSystem (GrowsBelow OnlyDirectories)

variable {fs fs' : FileSystem} {place : List String} {outputDir : String} {range : VersionRange}
  {l : VersionLayout}

/-- The directories of a window are made one after another. -/
theorem create_eq_ok_iff :
    l.create fs = (.ok (), fs') ↔
      ∃ fs₁ fs₂, fs.makeDirectories l.dataDir = (.ok (), fs₁) ∧
        fs₁.makeDirectories l.queryDir = (.ok (), fs₂) ∧
        fs₂.makeDirectories l.goldsetDir = (.ok (), fs') := by
  simp only [create, List.foldl_cons, List.foldl_nil]
  cases fs.makeDirectories l.dataDir with
  | mk result fs₁ =>
      cases result with
      | error fault => simp
      | ok _ =>
          cases hquery : fs₁.makeDirectories l.queryDir with
          | mk result fs₂ =>
              cases result with
              | error fault => simp [hquery]
              | ok _ => simp [hquery]

theorem placeOf_queryDir (fs : FileSystem) (outputDir : String) (range : VersionRange) :
    fs.placeOf (below outputDir range).queryDir =
      fs.placeOf (below outputDir range).root ++ ["queries"] :=
  FileSystem.placeOf_join fs _ (by decide)

theorem placeOf_goldsetDir (fs : FileSystem) (outputDir : String) (range : VersionRange) :
    fs.placeOf (below outputDir range).goldsetDir =
      fs.placeOf (below outputDir range).root ++ ["goldsets"] :=
  FileSystem.placeOf_join fs _ (by decide)

/-- The directories of a window are there, below its place. -/
structure Stands (l : VersionLayout) (place : List String) (fs : FileSystem) : Prop where
  dataDir : fs.locate l.dataDir = .ok (.existing (place ++ ["data"]) .directory)
  queryDir : fs.locate l.queryDir = .ok (.existing (place ++ ["queries"]) .directory)
  goldsetDir : fs.locate l.goldsetDir = .ok (.existing (place ++ ["goldsets"]) .directory)

/-- When the directories of a window could be made they are there, and nothing else has happened. -/
theorem create_spec (h : (below outputDir range).create fs = (.ok (), fs')) :
    OnlyDirectories fs fs' ∧
      (below outputDir range).Stands (fs.placeOf (below outputDir range).root) fs' := by
  obtain ⟨fs₁, fs₂, hdata, hquery, hgoldset⟩ := create_eq_ok_iff.mp h
  have hmade : ∀ {fs fs' : FileSystem} {name : String}, Path.IsEntryName name →
      fs.makeDirectories (Path.join (below outputDir range).root name) = (.ok (), fs') →
      OnlyDirectories fs fs' ∧ fs'.locate (Path.join (below outputDir range).root name) =
        .ok (.existing (fs.placeOf (below outputDir range).root ++ [name]) .directory) := by
    intro fs fs' name hname hmake
    rw [← FileSystem.placeOf_join fs _ hname]
    exact FileSystem.makeDirectories_eq_ok (Path.join_entry_ne_empty hname) hmake
  obtain ⟨honly₁, hdata⟩ := hmade (by decide) hdata
  obtain ⟨honly₂, hquery⟩ := hmade (by decide) hquery
  obtain ⟨honly₃, hgoldset⟩ := hmade (by decide) hgoldset
  have hwork₂ := (honly₁.trans honly₂).workDir_eq
  rw [FileSystem.placeOf_congr honly₁.workDir_eq] at hquery
  rw [FileSystem.placeOf_congr hwork₂] at hgoldset
  refine ⟨(honly₁.trans honly₂).trans honly₃, ?_, ?_, hgoldset⟩
  · exact ((GrowsBelow.of_onlyDirectories (honly₂.trans honly₃) [])).locate hdata
  · exact (GrowsBelow.of_onlyDirectories honly₃ []).locate hquery

end IssueTrace.VersionLayout
