import IssueTrace.Proofs.Storage.Files

/-!
# Ways to files

A path at whose end a file can be written leads to one place, and goes on leading there as long as
no directory on the way is taken away.  So what is written to a path is what is read from it.
-/

namespace IssueTrace.FileSystem

variable {fs fs' : FileSystem} {place start : List String} {name path : String}

/-! ## Where a lookup ends -/

theorem targetAt_inj {q : List String} (h : fs.targetAt q = fs.targetAt place) : q = place := by
  unfold targetAt at h
  split at h
  · split at h
    · exact (Target.existing.inj h).1
    · cases h
  · split at h
    · cases h
    · exact Target.vacant.inj h

theorem get?_of_targetAt_vacant {q : List String} (h : fs.targetAt q = .vacant place) :
    fs.get? place = none := by
  unfold targetAt at h
  split at h
  · cases h
  · rename_i hnone
    obtain rfl := Target.vacant.inj h
    exact hnone

/-- Whether a name means a directory that has been passed already. -/
def IsDots (name : String) : Prop := name = "." ∨ name = ".."

/-- The dots lead back to directories, in any state in which there is a directory. -/
theorem child_of_isDots (hdots : IsDots name) (hstart : fs.get? start = some .directory)
    (hstart' : fs'.get? start = some .directory) :
    ∃ next, fs.child start name = .ok (.existing next .directory) ∧
      fs'.child start name = .ok (.existing next .directory) := by
  rw [child_of_directory hstart, child_of_directory hstart']
  by_cases hone : name = "."
  · simp only [if_pos hone]
    exact ⟨start, rfl, rfl⟩
  · simp only [if_neg hone, if_pos (hdots.resolve_left hone)]
    exact ⟨start.dropLast, rfl, rfl⟩

/-- Any other name leads to its place in the directory, in any state in which there is one. -/
theorem child_of_not_isDots {target : Target} (hdots : ¬ IsDots name)
    (h : fs.child start name = .ok target) (hstart' : fs'.get? start = some .directory) :
    target = fs.targetAt (start ++ [name]) ∧
      fs'.child start name = .ok (fs'.targetAt (start ++ [name])) := by
  obtain ⟨hone, htwo⟩ := not_or.mp hdots
  rw [child_of_directory (get?_of_child h), if_neg hone, if_neg htwo] at h
  rw [child_of_directory hstart', if_neg hone, if_neg htwo]
  by_cases hlong : maxName < name.utf8ByteSize
  · rw [if_pos hlong] at h
    cases h
  · rw [if_neg hlong] at h
    rw [if_neg hlong]
    exact ⟨(Except.ok.inj h).symm, rfl⟩

theorem get?_of_child_vacant {next : List String}
    (h : fs.child start name = .ok (.vacant next)) : fs.get? next = none := by
  have hstart := get?_of_child h
  by_cases hdots : IsDots name
  · obtain ⟨_, hchild, -⟩ := child_of_isDots hdots hstart hstart
    rw [hchild] at h
    cases h
  · exact get?_of_targetAt_vacant (child_of_not_isDots hdots h hstart).1.symm

theorem get?_of_walk_vacant {names : List String} (h : fs.walk start names = .ok (.vacant place)) :
    fs.get? place = none := by
  induction names generalizing start with
  | nil =>
      rw [walk_nil, Except.ok.injEq] at h
      exact get?_of_targetAt_vacant h
  | cons name names ih =>
      rw [walk_cons] at h
      cases hchild : fs.child start name with
      | error fault => simp [hchild] at h
      | ok target =>
          rw [hchild] at h
          cases target with
          | existing next found => exact ih h
          | vacant next =>
              dsimp only at h
              by_cases hlast : names = []
              · rw [if_pos hlast] at h
                obtain rfl := Target.vacant.inj (Except.ok.inj h)
                exact get?_of_child_vacant hchild
              · rw [if_neg hlast] at h
                cases h

theorem get?_of_walk_cons {names : List String} {target : Target}
    (h : fs.walk start (name :: names) = .ok target) : fs.get? start = some .directory := by
  rw [walk_cons] at h
  cases hchild : fs.child start name with
  | error fault => simp [hchild] at h
  | ok _ => exact get?_of_child hchild

/-! ## Ways that stay -/

theorem walk_single_of_child {q : List String} (h : fs.child start name = .ok (fs.targetAt q)) :
    fs.walk start [name] = .ok (fs.targetAt q) := by
  rw [walk_cons, h]
  cases htarget : fs.targetAt q with
  | existing next found =>
      obtain ⟨rfl, -⟩ := targetAt_eq_existing_iff.mp htarget
      dsimp only
      rw [walk_nil, htarget]
  | vacant next => exact if_pos rfl

/-- The way to a place remains one as long as no directory is taken away. -/
theorem KeepsDirectories.walk_targetAt (hkeeps : fs.KeepsDirectories fs') {names : List String}
    (h : fs.walk start names = .ok (fs.targetAt place)) :
    fs'.walk start names = .ok (fs'.targetAt place) := by
  induction names generalizing start with
  | nil =>
      rw [walk_nil, Except.ok.injEq] at h
      rw [walk_nil, targetAt_inj h]
  | cons name names ih =>
      have hstart := get?_of_walk_cons h
      have hstart' := hkeeps start hstart
      by_cases hdots : IsDots name
      · obtain ⟨next, hchild, hchild'⟩ := child_of_isDots hdots hstart hstart'
        rw [walk_cons, hchild] at h
        rw [walk_cons, hchild']
        exact ih h
      · cases hchild : fs.child start name with
        | error fault => simp [walk_cons, hchild] at h
        | ok target =>
            obtain ⟨rfl, hchild'⟩ := child_of_not_isDots hdots hchild hstart'
            cases names with
            | nil =>
                rw [walk_single_of_child hchild, Except.ok.injEq] at h
                rw [walk_single_of_child hchild', targetAt_inj h]
            | cons next names =>
                rw [walk_cons, hchild] at h
                cases htarget : fs.targetAt (start ++ [name]) with
                | vacant q => simp [htarget] at h
                | existing q found =>
                    obtain ⟨rfl, -⟩ := targetAt_eq_existing_iff.mp htarget
                    rw [htarget] at h
                    have hdirectory := hkeeps _ (get?_of_walk_cons h)
                    rw [walk_cons, hchild', targetAt_of_some hdirectory]
                    exact ih h

/-- A path leads to the place it led to, as long as no directory is taken away. -/
theorem KeepsDirectories.leadsTo (hkeeps : fs.KeepsDirectories fs')
    (hwork : fs'.workDir = fs.workDir) (h : fs.LeadsTo path place) : fs'.LeadsTo path place := by
  obtain ⟨hnul, hempty, hlong, hwalk⟩ := walk_of_locate h.located
  refine ⟨?_, h.not_endsInSlash⟩
  unfold FileSystem.locate
  rw [if_neg (by simpa using hnul), if_neg (by simpa using hempty), if_neg (by omega), hwork]
  exact hkeeps.walk_targetAt hwalk

theorem ne_nil_of_get?_ne (hplace : fs.get? place ≠ some .directory) : place ≠ [] := by
  rintro rfl
  exact hplace rfl

theorem keepsDirectories_put_file (hplace : fs.get? place ≠ some .directory) (content : Content) :
    fs.KeepsDirectories (fs.put place (.file content)) := by
  intro q hq
  have hne : q ≠ place := by
    rintro rfl
    exact hplace hq
  rw [get?_put_of_ne (ne_nil_of_get?_ne hplace) hne]
  exact hq

/-! ## Writing -/

/-- Where a file can be opened for writing: the path leads to a place with that file, or to one
where nothing is. -/
theorem openForWriting_eq_ok {before : Option Content}
    (h : fs.openForWriting path = .ok (place, before)) :
    fs.LeadsTo path place ∧ fs.get? place = before.map .file := by
  unfold openForWriting at h
  cases hlocate : fs.locate path with
  | error fault => simp [hlocate, bind, Except.bind] at h
  | ok target =>
      simp only [hlocate, bind, Except.bind] at h
      have hslash : Path.endsInSlash path = false := by
        by_contra hslash
        rw [Bool.not_eq_false] at hslash
        split at h
        · cases h
        · simp [hslash] at h
        · cases h
        · cases h
        · simp [hslash] at h
      split at h
      · cases h
      · rename_i q content
        rw [hslash] at h
        obtain ⟨rfl, rfl⟩ : q = place ∧ some content = before := by
          simpa [pure, Except.pure] using h
        obtain ⟨-, -, -, hwalk⟩ := walk_of_locate hlocate
        have hget := get?_of_walk hwalk
        exact ⟨⟨by rw [hlocate, targetAt_of_some hget], hslash⟩, hget⟩
      · cases h
      · cases h
      · rename_i q
        rw [hslash] at h
        obtain ⟨rfl, rfl⟩ : q = place ∧ none = before := by
          simpa [pure, Except.pure] using h
        obtain ⟨-, -, -, hwalk⟩ := walk_of_locate hlocate
        have hget := get?_of_walk_vacant hwalk
        exact ⟨⟨by rw [hlocate, targetAt_of_none hget], hslash⟩, hget⟩

theorem write_eq_ok_iff {text : String} :
    fs.write path text = .ok fs' ↔
      ∃ place before, fs.openForWriting path = .ok (place, before) ∧
        fs' = fs.put place (.file (.text text)) := by
  unfold write
  cases fs.openForWriting path with
  | error fault => simp [bind, Except.bind]
  | ok found =>
      obtain ⟨place, before⟩ := found
      simp [bind, Except.bind, pure, Except.pure, eq_comm]

theorem append_eq_ok_iff {text : String} :
    fs.append path text = .ok fs' ↔
      ∃ place before, fs.openForWriting path = .ok (place, before) ∧
        fs' = fs.put place (.file ((before.getD (.text "")).append text)) := by
  unfold append
  cases fs.openForWriting path with
  | error fault => simp [bind, Except.bind]
  | ok found =>
      obtain ⟨place, before⟩ := found
      simp [bind, Except.bind, pure, Except.pure, eq_comm]

theorem get?_ne_directory {before : Option Content} (h : fs.get? place = before.map .file) :
    fs.get? place ≠ some .directory := by
  rw [h]
  cases before with
  | none => simp
  | some content => simp

theorem write_eq_ok {text : String} (h : fs.write path text = .ok fs') :
    ∃ place, fs.LeadsTo path place ∧ fs.get? place ≠ some .directory ∧
      fs' = fs.put place (.file (.text text)) := by
  obtain ⟨place, before, hopen, rfl⟩ := write_eq_ok_iff.mp h
  obtain ⟨hpath, hget⟩ := openForWriting_eq_ok hopen
  exact ⟨place, hpath, get?_ne_directory hget, rfl⟩

/-- Writing at the end of a file puts it, with more behind what it held, where it was. -/
theorem append_eq_ok {text : String} (h : fs.append path text = .ok fs') :
    ∃ (place : List String) (before : Option Content), fs.get? place = before.map .file ∧
      fs' = fs.put place (.file ((before.getD (.text "")).append text)) := by
  obtain ⟨place, before, hopen, rfl⟩ := append_eq_ok_iff.mp h
  exact ⟨place, before, (openForWriting_eq_ok hopen).2, rfl⟩

namespace LeadsTo

/-- A file can be opened for writing where there is one, or nothing. -/
theorem openForWriting (hpath : fs.LeadsTo path place) {before : Option Content}
    (hget : fs.get? place = before.map .file) : fs.openForWriting path = .ok (place, before) := by
  unfold FileSystem.openForWriting
  cases before with
  | none =>
      rw [hpath.located, targetAt_of_none hget]
      simp only [bind, Except.bind, hpath.not_endsInSlash]
      rfl
  | some content =>
      rw [hpath.located, targetAt_of_some hget]
      simp only [bind, Except.bind, hpath.not_endsInSlash]
      rfl

theorem write_of_text (hpath : fs.LeadsTo path place) {s : String}
    (hget : fs.get? place = some (.file (.text s))) (text : String) :
    fs.write path text = .ok (fs.put place (.file (.text text))) :=
  write_eq_ok_iff.mpr ⟨place, some (.text s), hpath.openForWriting hget, rfl⟩

end LeadsTo

/-- A text is read where the path leads to a file that may be read and has that text. -/
theorem readText_eq_ok {text : String} (h : fs.readText path = .ok text) :
    ∃ place entry, fs.LeadsTo path place ∧ fs.get? place = some entry ∧
      entry.readable? = some (.text text) := by
  unfold readText at h
  cases hlocate : fs.locate path with
  | error fault => simp [hlocate, bind, Except.bind] at h
  | ok target =>
      simp only [hlocate, bind, Except.bind] at h
      cases target with
      | vacant place => cases h
      | existing place entry =>
          have hslash : Path.endsInSlash path = false := by
            by_contra hslash
            rw [Bool.not_eq_false] at hslash
            cases entry with
            | directory => cases h
            | _ => simp [hslash] at h
          have htext : entry.readable?.map Content.text? = some (some text) := by
            cases entry with
            | directory => cases h
            | _ =>
                simp only [hslash, Bool.false_eq_true, if_false] at h
                split at h
                · rename_i s hs
                  obtain rfl := Except.ok.inj h
                  exact hs
                · cases h
                · cases h
          obtain ⟨content, hread, hcontent⟩ := Option.map_eq_some_iff.mp htext
          obtain rfl := Content.text?_eq_some_iff.mp hcontent
          obtain ⟨-, -, -, hwalk⟩ := walk_of_locate hlocate
          have hget := get?_of_walk hwalk
          refine ⟨place, entry, ⟨?_, hslash⟩, hget, hread⟩
          rw [hlocate, targetAt_of_some hget]

/-- What was written is read. -/
theorem readText_of_write {text : String} (h : fs.write path text = .ok fs') :
    fs'.readText path = .ok text := by
  obtain ⟨place, hpath, hplace, rfl⟩ := write_eq_ok h
  have hpath' := (keepsDirectories_put_file hplace (.text text)).leadsTo rfl hpath
  exact hpath'.readText_of_text (get?_put_self (ne_nil_of_get?_ne hplace))

/-- A file that was written can be written again. -/
theorem exists_write_of_write {text : String} (h : fs.write path text = .ok fs') (text' : String) :
    ∃ fs'', fs'.write path text' = .ok fs'' := by
  obtain ⟨place, hpath, hplace, rfl⟩ := write_eq_ok h
  have hpath' := (keepsDirectories_put_file hplace (.text text)).leadsTo rfl hpath
  exact ⟨_, hpath'.write_of_text (get?_put_self (ne_nil_of_get?_ne hplace)) text'⟩

/-- The path leads to a file that may be read but not written. -/
def IsReadOnly (fs : FileSystem) (path : String) : Prop :=
  ∃ place content, fs.LeadsTo path place ∧ fs.get? place = some (.readOnly content)

/-- A file that was read can be written, unless it may only be read. -/
theorem exists_write_of_readText {text : String} (h : fs.readText path = .ok text)
    (hwritable : ¬ fs.IsReadOnly path) (text' : String) :
    ∃ fs', fs.write path text' = .ok fs' := by
  obtain ⟨place, entry, hpath, hget, hread⟩ := readText_eq_ok h
  cases entry with
  | directory => cases hread
  | sealed content => cases hread
  | readOnly content => exact absurd ⟨place, content, hpath, hget⟩ hwritable
  | file content =>
      obtain rfl := Option.some.inj hread
      exact ⟨_, hpath.write_of_text hget text'⟩

end IssueTrace.FileSystem
