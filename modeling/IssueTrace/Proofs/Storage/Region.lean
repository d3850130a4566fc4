import IssueTrace.Proofs.Storage.Creation

/-!
# The same files below a place

Two file systems can differ everywhere but below a place.  What can be done there in the one with
more in it can be done in the other too, with the same result, and they go on to agree there.
-/

namespace IssueTrace.FileSystem

variable {fs fs' fs'' : FileSystem} {dir place other : List String} {path name text : String}

/-- The second file system has all that there is in the first, and the same files below a place.  The
directory at which relative paths begin is there. -/
structure AgreesBelow (dir : List String) (fs fs' : FileSystem) : Prop
    extends KeepsEntries fs fs' where
  origin : fs.get? fs.workDir = some .directory
  region : ∀ place, dir <+: place →
    fs'.get? place = fs.get? place ∨ fs.get? place = none ∧ fs'.get? place = some .directory
  listing : fs'.filesBelow dir = fs.filesBelow dir

namespace AgreesBelow

theorem refl (dir : List String) (horigin : fs.get? fs.workDir = some .directory) :
    AgreesBelow dir fs fs where
  toKeepsEntries := .refl fs
  origin := horigin
  region _ _ := .inl rfl
  listing := rfl

/-- Work below a place apart from it changes nothing below a place. -/
theorem grows (h : AgreesBelow dir fs fs') (hgrows : GrowsBelow other fs' fs'')
    (hbelow : ¬ other <+: dir) (habove : ¬ dir <+: other) : AgreesBelow dir fs fs'' where
  toKeepsEntries := h.toKeepsEntries.trans hgrows.toKeepsEntries
  origin := h.origin
  region place hplace := by
    have hapart : ¬ other <+: place := not_prefix_of_apart habove hbelow hplace
    exact same_or_made_trans (h.region place hplace) (hgrows.elsewhere place hapart)
  listing := (hgrows.listing dir hbelow habove).trans h.listing

theorem get?_eq (h : AgreesBelow dir fs fs') (hplace : dir <+: place)
    (hdirectory : fs'.get? place ≠ some .directory) : fs.get? place = fs'.get? place := by
  rcases h.region place hplace with hsame | ⟨-, hmade⟩
  · exact hsame.symm
  · exact absurd hmade hdirectory

theorem put_file (h : AgreesBelow dir fs fs') (hplace : dir <+: place)
    (hdirectory : fs'.get? place ≠ some .directory) (content : Content) :
    AgreesBelow dir (fs.put place (.file content)) (fs'.put place (.file content)) := by
  have hne := ne_nil_of_get?_ne hdirectory
  have hdirectory' : fs.get? place ≠ some .directory := by
    rw [h.get?_eq hplace hdirectory]
    exact hdirectory
  have hboth : ∀ q, q ≠ place →
      (fs.put place (.file content)).get? q = fs.get? q ∧
        (fs'.put place (.file content)).get? q = fs'.get? q :=
    fun q hq => ⟨get?_put_of_ne hne hq, get?_put_of_ne hne hq⟩
  refine ⟨⟨h.workDir_eq, ?_, ?_⟩, ?_, ?_, ?_⟩
  · intro q hget
    by_cases hq : q = place
    · rw [hq, get?_put_self hne] at hget
      cases hget
    · rw [(hboth q hq).1] at hget
      rw [(hboth q hq).2]
      exact h.directories q hget
  · intro q own hget hown
    by_cases hq : q = place
    · exact ⟨.file content, by rw [hq, get?_put_self hne], by simp⟩
    · rw [(hboth q hq).1] at hget
      rw [(hboth q hq).2]
      exact h.files q own hget hown
  · exact keepsDirectories_put_file hdirectory' content _ h.origin
  · intro q hfront
    by_cases hq : q = place
    · rw [hq, get?_put_self hne, get?_put_self hne]
      exact .inl rfl
    · rw [(hboth q hq).1, (hboth q hq).2]
      exact h.region q hfront
  · obtain ⟨rest, rfl⟩ := hplace
    rw [filesBelow_put_file, filesBelow_put_file, h.listing]

/-- A text that is read from there is the same on both sides. -/
theorem readText (h : AgreesBelow dir fs fs') (hplace : dir <+: fs.placeOf path)
    (hread : fs.readText path = .ok text) : fs'.readText path = .ok text := by
  obtain ⟨place, entry, hpath, hget, hentry⟩ := readText_eq_ok hread
  have hspot := spot_of_locate hpath.located
  rw [spot_targetAt] at hspot
  have hsame : fs'.get? place = some entry := by
    rcases h.region place (hspot ▸ hplace) with hsame | ⟨hnone, -⟩
    · rw [hsame, hget]
    · rw [hget] at hnone
      cases hnone
  exact (h.directories.leadsTo h.workDir_eq hpath).readText_of_readable hsame hentry

/-! ## Making directories -/

/-- Directories that were made on both sides. -/
theorem of_onlyDirectories {made made' : FileSystem} (h : AgreesBelow dir fs fs')
    (hmade : OnlyDirectories fs made) (hmade' : OnlyDirectories fs' made')
    (hkeeps : KeepsEntries made made') : AgreesBelow dir made made' where
  toKeepsEntries := hkeeps
  origin := by
    rw [hmade.workDir_eq]
    exact hmade.keepsDirectories _ h.origin
  region place hplace := by
    by_cases hdirectory : made.get? place = some .directory
    · exact .inl ((hkeeps.directories place hdirectory).trans hdirectory.symm)
    · rw [hmade.get?_of_ne hdirectory]
      exact same_or_made_trans (h.region place hplace) (hmade'.get?_cases place)
  listing := by rw [hmade'.listing, hmade.listing, h.listing]

theorem makeDirectories {dir' : String} {made' : FileSystem} (h : AgreesBelow dir fs fs')
    (hname : Path.IsEntryName name)
    (hmake : fs'.makeDirectories (Path.join dir' name) = (.ok (), made')) :
    ∃ made, fs.makeDirectories (Path.join dir' name) = (.ok (), made) ∧
      AgreesBelow dir made made' := by
  have hne : Path.join dir' name ≠ "" := Path.join_entry_ne_empty hname
  obtain ⟨honly', hlocate'⟩ := makeDirectories_eq_ok hne hmake
  have hkeeps' : KeepsEntries fs made' :=
    h.toKeepsEntries.trans (GrowsBelow.of_onlyDirectories honly' []).toKeepsEntries
  obtain ⟨made, hmade, hkeeps⟩ := hkeeps'.makeDirectories h.origin hname hlocate'
  obtain ⟨honly, -⟩ := makeDirectories_eq_ok hne hmade
  exact ⟨made, hmade, h.of_onlyDirectories honly honly' hkeeps⟩

/-! ## Writing in a directory -/

theorem openForWriting_join {dir' : String} {below : List String} {before : Option Content}
    (h : AgreesBelow dir fs fs') (hplace : dir <+: place)
    (hdir : fs.locate dir' = .ok (.existing place .directory)) (hname : Path.IsEntryName name)
    (hopen : fs'.openForWriting (Path.join dir' name) = .ok (below, before)) :
    below = place ++ [name] ∧ fs'.get? (place ++ [name]) ≠ some .directory ∧
      fs.openForWriting (Path.join dir' name) = .ok (below, before) := by
  have hdir' := h.directories.locate h.workDir_eq hdir
  obtain ⟨rfl, hget', hadmits⟩ := FileSystem.openForWriting_join hdir' hname hopen
  have hdirectory := get?_ne_directory hget'
  have hget : fs.get? (place ++ [name]) = before.map .file := by
    rw [h.get?_eq (hplace.trans (List.prefix_append _ _)) hdirectory, hget']
  exact ⟨rfl, hdirectory, (leadsTo_join hdir hname hadmits).openForWriting hget⟩

theorem write_join {dir' : String} {done' : FileSystem} (h : AgreesBelow dir fs fs')
    (hplace : dir <+: place) (hdir : fs.locate dir' = .ok (.existing place .directory))
    (hname : Path.IsEntryName name)
    (hwrite : fs'.write (Path.join dir' name) text = .ok done') :
    ∃ done, fs.write (Path.join dir' name) text = .ok done ∧ AgreesBelow dir done done' := by
  obtain ⟨below, before, hopen, rfl⟩ := write_eq_ok_iff.mp hwrite
  obtain ⟨rfl, hdirectory, hown⟩ := h.openForWriting_join hplace hdir hname hopen
  exact ⟨_, write_eq_ok_iff.mpr ⟨_, before, hown, rfl⟩,
    h.put_file (hplace.trans (List.prefix_append _ _)) hdirectory _⟩

theorem append_join {dir' : String} {done' : FileSystem} (h : AgreesBelow dir fs fs')
    (hplace : dir <+: place) (hdir : fs.locate dir' = .ok (.existing place .directory))
    (hname : Path.IsEntryName name)
    (happend : fs'.append (Path.join dir' name) text = .ok done') :
    ∃ done, fs.append (Path.join dir' name) text = .ok done ∧ AgreesBelow dir done done' := by
  obtain ⟨below, before, hopen, rfl⟩ := append_eq_ok_iff.mp happend
  obtain ⟨rfl, hdirectory, hown⟩ := h.openForWriting_join hplace hdir hname hopen
  exact ⟨_, append_eq_ok_iff.mpr ⟨_, before, hown, rfl⟩,
    h.put_file (hplace.trans (List.prefix_append _ _)) hdirectory _⟩

end AgreesBelow

end IssueTrace.FileSystem
