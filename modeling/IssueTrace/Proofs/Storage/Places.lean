import IssueTrace.Proofs.Storage.PathNames
import IssueTrace.Storage.FileSystem
import Mathlib.Data.List.Basic

/-!
# Places of files

Where a path leads to is settled by the directory above it: a name in a directory that was found
leads to the place of that name in it.  Writing files takes no directory away, so what was a way to
a directory remains one.
-/

namespace IssueTrace

namespace FileSystem

variable {fs fs' : FileSystem} {place q start : List String} {entry : Entry}

/-! ## What stands at a place -/

theorem lookup_filter (keep : List String → Bool) (entries : List (List String × Entry)) :
    (entries.filter fun e => keep e.1).lookup q = if keep q then entries.lookup q else none := by
  induction entries with
  | nil => simp
  | cons e entries ih =>
      obtain ⟨p, entry⟩ := e
      rw [List.filter_cons, List.lookup_cons]
      by_cases hq : q = p
      · subst hq
        by_cases hkeep : keep q = true
        · simp [hkeep]
        · simp [hkeep, ih]
      · have hbeq : (q == p) = false := by simpa using hq
        rw [hbeq, ← ih]
        split
        · rw [List.lookup_cons, hbeq]
        · rfl

/-- Putting something at a place changes that place only. -/
theorem get?_put (hplace : place ≠ []) :
    (fs.put place entry).get? q = if q = place then some entry else fs.get? q := by
  cases q with
  | nil => rw [if_neg hplace.symm]; rfl
  | cons name names =>
      unfold get? put
      dsimp only
      rw [List.lookup_cons]
      by_cases hq : name :: names = place
      · simp [hq]
      · have hbeq : (name :: names == place) = false := by simpa using hq
        rw [hbeq, if_neg hq]
        exact (lookup_filter (· != place) fs.entries).trans (if_pos (by simpa using hq))

theorem get?_put_self (hplace : place ≠ []) :
    (fs.put place entry).get? place = some entry := by
  rw [get?_put hplace, if_pos rfl]

theorem get?_put_of_ne (hplace : place ≠ []) (hne : q ≠ place) :
    (fs.put place entry).get? q = fs.get? q := by
  rw [get?_put hplace, if_neg hne]

/-- What a lookup that ends at a place finds there. -/
def targetAt (fs : FileSystem) (place : List String) : Target :=
  match fs.get? place with
  | some entry => .existing place entry
  | none => .vacant place

theorem targetAt_eq_existing_iff :
    fs.targetAt start = .existing place entry ↔ start = place ∧ fs.get? place = some entry := by
  unfold targetAt
  constructor
  · intro h
    split at h
    · rename_i found hget
      obtain ⟨rfl, rfl⟩ : start = place ∧ found = entry := by simpa using h
      exact ⟨rfl, hget⟩
    · cases h
  · rintro ⟨rfl, hget⟩
    rw [hget]

/-! ## Looking names up -/

theorem walk_nil : fs.walk place [] = .ok (fs.targetAt place) := by
  rw [walk]
  unfold targetAt
  cases fs.get? place with
  | none => rfl
  | some entry => rfl

theorem walk_cons (name : String) (rest : List String) :
    fs.walk place (name :: rest) =
      match fs.child place name with
      | .error fault => .error fault
      | .ok (.existing next _) => fs.walk next rest
      | .ok (.vacant next) => if rest = [] then .ok (.vacant next) else .error .notFound := by
  rw [walk]
  cases hchild : fs.child place name with
  | error fault => rfl
  | ok target =>
      cases target with
      | existing next _ => rfl
      | vacant next =>
          cases rest with
          | nil => rfl
          | cons _ _ => rfl

/-- A lookup that finds something goes on from name to name. -/
theorem walk_cons_eq_existing {name : String} {rest : List String}
    (h : fs.walk start (name :: rest) = .ok (.existing place entry)) :
    ∃ next found, fs.child start name = .ok (.existing next found) ∧
      fs.walk next rest = .ok (.existing place entry) := by
  rw [walk_cons] at h
  cases hchild : fs.child start name with
  | error fault => simp [hchild] at h
  | ok target =>
      simp only [hchild] at h
      cases target with
      | existing next found => exact ⟨next, found, rfl, h⟩
      | vacant next =>
          dsimp only at h
          split at h
          · simp at h
          · simp at h

/-- Looking names up that were found and then more of them goes on from what was found. -/
theorem walk_append {names : List String} (h : fs.walk start names = .ok (.existing place entry))
    (more : List String) : fs.walk start (names ++ more) = fs.walk place more := by
  induction names generalizing start with
  | nil =>
      rw [walk_nil, Except.ok.injEq, targetAt_eq_existing_iff] at h
      rw [List.nil_append, h.1]
  | cons name names ih =>
      obtain ⟨next, found, hchild, hnext⟩ := walk_cons_eq_existing h
      rw [List.cons_append, walk_cons, hchild]
      exact ih hnext

theorem get?_of_walk {names : List String}
    (h : fs.walk start names = .ok (.existing place entry)) : fs.get? place = some entry := by
  have hend := walk_append h []
  rw [List.append_nil, h, walk_nil, Except.ok.injEq] at hend
  exact (targetAt_eq_existing_iff.mp hend.symm).2

theorem get?_of_child {name : String} {target : Target} (h : fs.child start name = .ok target) :
    fs.get? start = some .directory := by
  unfold child at h
  cases hget : fs.get? start with
  | none => simp [hget] at h
  | some found =>
      cases found with
      | directory => rfl
      | file content => simp [hget] at h
      | readOnly content => simp [hget] at h
      | sealed content => simp [hget] at h

/-- A lookup that ends at a directory began at one. -/
theorem get?_start_of_walk {names : List String}
    (h : fs.walk start names = .ok (.existing place .directory)) :
    fs.get? start = some .directory := by
  cases names with
  | nil =>
      rw [walk_nil, Except.ok.injEq, targetAt_eq_existing_iff] at h
      rw [h.1]
      exact h.2
  | cons name names =>
      obtain ⟨next, found, hchild, -⟩ := walk_cons_eq_existing h
      exact get?_of_child hchild

theorem child_of_directory (hplace : fs.get? place = some .directory) (name : String) :
    fs.child place name =
      if name = "." then .ok (.existing place .directory)
      else if name = ".." then .ok (.existing place.dropLast .directory)
      else if maxName < name.utf8ByteSize then .error .invalidFilename
      else .ok (fs.targetAt (place ++ [name])) := by
  unfold child targetAt
  rw [hplace]
  cases fs.get? (place ++ [name]) with
  | none => rfl
  | some entry => rfl

theorem walk_singleton (hplace : fs.get? place = some .directory) {name : String}
    (hname : Path.IsEntryName name) :
    fs.walk place [name] =
      if maxName < name.utf8ByteSize then .error .invalidFilename
      else .ok (fs.targetAt (place ++ [name])) := by
  rw [walk_cons, child_of_directory hplace, if_neg hname.ne_dot, if_neg hname.ne_dots]
  by_cases hlong : maxName < name.utf8ByteSize
  · rw [if_pos hlong]
  · rw [if_neg hlong]
    cases htarget : fs.targetAt (place ++ [name]) with
    | existing next found =>
        obtain ⟨rfl, -⟩ := targetAt_eq_existing_iff.mp htarget
        dsimp only
        rw [walk_nil, htarget]
    | vacant next => rfl

/-! ## Directories that stay -/

/-- Every directory of the one file system is a directory of the other. -/
def KeepsDirectories (fs fs' : FileSystem) : Prop :=
  ∀ place, fs.get? place = some .directory → fs'.get? place = some .directory

theorem KeepsDirectories.child (hkeeps : KeepsDirectories fs fs') {name : String}
    (h : fs.child start name = .ok (.existing place entry))
    (hplace : fs.get? place = some .directory) :
    fs'.child start name = .ok (.existing place .directory) := by
  have hstart := get?_of_child h
  rw [child_of_directory hstart] at h
  rw [child_of_directory (hkeeps start hstart)]
  by_cases hdot : name = "."
  · rw [if_pos hdot, Except.ok.injEq, Target.existing.injEq] at h
    rw [if_pos hdot, h.1]
  · rw [if_neg hdot] at h ⊢
    by_cases hdots : name = ".."
    · rw [if_pos hdots, Except.ok.injEq, Target.existing.injEq] at h
      rw [if_pos hdots, h.1]
    · rw [if_neg hdots] at h ⊢
      by_cases hlong : maxName < name.utf8ByteSize
      · rw [if_pos hlong] at h
        cases h
      · rw [if_neg hlong, Except.ok.injEq, targetAt_eq_existing_iff] at h
        rw [if_neg hlong, Except.ok.injEq, targetAt_eq_existing_iff]
        exact ⟨h.1, hkeeps place hplace⟩

/-- The way to a directory remains one as long as no directory is taken away. -/
theorem KeepsDirectories.walk (hkeeps : KeepsDirectories fs fs') {names : List String}
    (h : fs.walk start names = .ok (.existing place .directory)) :
    fs'.walk start names = .ok (.existing place .directory) := by
  induction names generalizing start with
  | nil =>
      rw [walk_nil, Except.ok.injEq, targetAt_eq_existing_iff] at h ⊢
      exact ⟨h.1, hkeeps place h.2⟩
  | cons name names ih =>
      obtain ⟨next, found, hchild, hnext⟩ := walk_cons_eq_existing h
      rw [walk_cons, hkeeps.child hchild (get?_start_of_walk hnext)]
      exact ih hnext

/-! ## Looking paths up -/

theorem walk_of_locate {path : String} {target : Target} (h : fs.locate path = .ok target) :
    path.toList.contains '\x00' = false ∧ path ≠ "" ∧ path.utf8ByteSize ≤ maxPath ∧
      fs.walk (if Path.isAbsolute path then [] else fs.workDir) (Path.names path) =
        .ok target := by
  unfold locate at h
  by_cases hnul : path.toList.contains '\x00' = true
  · rw [if_pos hnul] at h
    cases h
  · rw [if_neg hnul] at h
    by_cases hempty : path.isEmpty = true
    · rw [if_pos hempty] at h
      cases h
    · rw [if_neg hempty] at h
      by_cases hlong : maxPath < path.utf8ByteSize
      · rw [if_pos hlong] at h
        cases h
      · rw [if_neg hlong] at h
        exact ⟨by simpa using hnul, by simpa using hempty, by omega, h⟩

theorem KeepsDirectories.locate (hkeeps : KeepsDirectories fs fs')
    (hwork : fs'.workDir = fs.workDir) {path : String}
    (h : fs.locate path = .ok (.existing place .directory)) :
    fs'.locate path = .ok (.existing place .directory) := by
  obtain ⟨hnul, hempty, hlong, hwalk⟩ := walk_of_locate h
  unfold FileSystem.locate
  rw [if_neg (by simpa using hnul), if_neg (by simpa using hempty), if_neg (by omega), hwork]
  exact hkeeps.walk hwalk

/-- A name in a directory that was found leads to its place there, unless it is refused. -/
theorem locate_join {dir name : String}
    (hdir : fs.locate dir = .ok (.existing place .directory)) (hname : Path.IsEntryName name) :
    fs.locate (Path.join dir name) =
      if name.toList.contains '\x00' then .error .invalidInput
      else if maxPath < (Path.join dir name).utf8ByteSize then .error .invalidFilename
      else if maxName < name.utf8ByteSize then .error .invalidFilename
      else .ok (fs.targetAt (place ++ [name])) := by
  obtain ⟨hnul, hempty, -, hwalk⟩ := walk_of_locate hdir
  obtain ⟨front, hjoin, hfront⟩ := Path.toList_join hempty hname
  have hcontains : (Path.join dir name).toList.contains '\x00' = name.toList.contains '\x00' := by
    have hnulFront : '\x00' ∉ front := by
      rcases hfront with hfront | hfront
      · simpa [hfront] using hnul
      · simpa [hfront] using hnul
    rw [hjoin]
    simp [hnulFront]
  unfold locate
  rw [hcontains, if_neg (Path.join_ne_empty hempty hname), Path.join_isAbsolute hempty hname,
    Path.names_join hempty hname, walk_append hwalk, walk_singleton (get?_of_walk hwalk) hname]

end FileSystem

end IssueTrace
