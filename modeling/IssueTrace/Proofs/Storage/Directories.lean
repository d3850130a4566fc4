import IssueTrace.Config.Basic
import IssueTrace.Proofs.Storage.Listing

/-!
# Making directories

A path has one place, which depends on the working directory only: whatever is found by the path is
found there.  Making the directories of a path puts directories where nothing was and leaves all
files as they are; when it succeeds, the path leads to a directory.
-/

namespace IssueTrace

namespace Path

@[simp]
theorem join_empty (name : String) : join "" name = name := by
  simp [join]

theorem join_entry_ne_empty {dir name : String} (hname : IsEntryName name) :
    join dir name ≠ "" := by
  by_cases hdir : dir = ""
  · rw [hdir, join_empty]
    exact hname.ne_empty
  · intro h
    exact join_ne_empty hdir hname (by simp [h])

theorem IsEntryName.names_eq {name : String} (hname : IsEntryName name) : names name = [name] := by
  unfold names
  rw [piecesFrom_of_no_slash hname.no_slash]
  simp [hname.ne_empty]

end Path

namespace FileSystem

variable {fs fs' fs'' : FileSystem} {place start dir other : List String} {path name : String}

/-! ## The place of a path -/

/-- Where a name leads from a directory. -/
def stepFrom (place : List String) (name : String) : List String :=
  if name = "." then place else if name = ".." then place.dropLast else place ++ [name]

/-- The place of a path, whether there is anything on the way or not. -/
def placeOf (fs : FileSystem) (path : String) : List String :=
  (Path.names path).foldl stepFrom (if Path.isAbsolute path then [] else fs.workDir)

/-- The place that a lookup ends at. -/
def Target.spot : Target → List String
  | .existing place _ => place
  | .vacant place => place

theorem spot_targetAt (fs : FileSystem) (place : List String) :
    (fs.targetAt place).spot = place := by
  unfold targetAt
  cases fs.get? place with
  | none => rfl
  | some entry => rfl

theorem spot_of_child {target : Target} (h : fs.child start name = .ok target) :
    target.spot = stepFrom start name := by
  rw [child_of_directory (get?_of_child h)] at h
  unfold stepFrom
  split at h
  · rename_i hdot
    rw [if_pos hdot, ← Except.ok.inj h]
    rfl
  · rename_i hdot
    rw [if_neg hdot]
    split at h
    · rename_i hdots
      rw [if_pos hdots, ← Except.ok.inj h]
      rfl
    · rename_i hdots
      rw [if_neg hdots]
      split at h
      · cases h
      · rw [← Except.ok.inj h, spot_targetAt]

theorem spot_of_walk {names : List String} {target : Target}
    (h : fs.walk start names = .ok target) : target.spot = names.foldl stepFrom start := by
  induction names generalizing start with
  | nil =>
      rw [walk_nil, Except.ok.injEq] at h
      rw [← h, spot_targetAt]
      rfl
  | cons name names ih =>
      rw [walk_cons] at h
      cases hchild : fs.child start name with
      | error fault => simp [hchild] at h
      | ok found =>
          have hstep := spot_of_child hchild
          rw [hchild] at h
          rw [List.foldl_cons, ← hstep]
          cases found with
          | existing next entry => exact ih h
          | vacant next =>
              dsimp only at h
              split at h
              · rename_i hlast
                rw [hlast, ← Except.ok.inj h]
                rfl
              · cases h

theorem spot_of_locate {target : Target} (h : fs.locate path = .ok target) :
    target.spot = fs.placeOf path :=
  spot_of_walk (walk_of_locate h).2.2.2

theorem placeOf_congr (h : fs'.workDir = fs.workDir) (path : String) :
    fs'.placeOf path = fs.placeOf path := by
  unfold placeOf
  rw [h]

theorem stepFrom_of_isEntryName (hname : Path.IsEntryName name) :
    stepFrom place name = place ++ [name] := by
  unfold stepFrom
  rw [if_neg hname.ne_dot, if_neg hname.ne_dots]

/-- The place of a name in a directory. -/
theorem placeOf_join (fs : FileSystem) (dir : String) (hname : Path.IsEntryName name) :
    fs.placeOf (Path.join dir name) = fs.placeOf dir ++ [name] := by
  by_cases hdir : dir = ""
  · rw [hdir, Path.join_empty]
    unfold placeOf
    rw [hname.names_eq, hname.not_isAbsolute]
    exact stepFrom_of_isEntryName hname
  · unfold placeOf
    rw [Path.names_join hdir hname, Path.join_isAbsolute hdir hname, List.foldl_append]
    exact stepFrom_of_isEntryName hname

theorem locate_of_isDirectory (h : fs.isDirectory path = true) :
    fs.locate path = .ok (.existing (fs.placeOf path) .directory) := by
  unfold isDirectory at h
  split at h
  · rename_i place hlocate
    have hplace : place = fs.placeOf path := spot_of_locate hlocate
    rw [hlocate, hplace]
  · cases h

/-! ## Changes that only make directories -/

theorem same_or_made_trans {before between behind : Option Entry}
    (h : between = before ∨ before = none ∧ between = some .directory)
    (h' : behind = between ∨ between = none ∧ behind = some .directory) :
    behind = before ∨ before = none ∧ behind = some .directory := by
  rcases h with hsame | ⟨hnone, hmade⟩
  · rw [← hsame]
    exact h'
  · rcases h' with hsame' | ⟨hnone', -⟩
    · exact .inr ⟨hnone, hsame'.trans hmade⟩
    · rw [hmade] at hnone'
      cases hnone'

/-- Directories were made where nothing was, and all else stayed. -/
structure OnlyDirectories (fs fs' : FileSystem) : Prop where
  workDir_eq : fs'.workDir = fs.workDir
  get?_cases : ∀ place, fs'.get? place = fs.get? place ∨
    fs.get? place = none ∧ fs'.get? place = some .directory
  listing : ∀ dir, fs'.filesBelow dir = fs.filesBelow dir

namespace OnlyDirectories

theorem refl (fs : FileSystem) : OnlyDirectories fs fs := ⟨rfl, fun _ => .inl rfl, fun _ => rfl⟩

theorem trans (h : OnlyDirectories fs fs') (h' : OnlyDirectories fs' fs'') :
    OnlyDirectories fs fs'' where
  workDir_eq := h'.workDir_eq.trans h.workDir_eq
  get?_cases place := same_or_made_trans (h.get?_cases place) (h'.get?_cases place)
  listing dir := (h'.listing dir).trans (h.listing dir)

theorem put (hplace : fs.get? place = none) : OnlyDirectories fs (fs.put place .directory) := by
  have hne : place ≠ [] := by
    rintro rfl
    cases hplace
  refine ⟨rfl, ?_, filesBelow_put_directory hne hplace⟩
  intro q
  by_cases hq : q = place
  · rw [hq]
    exact .inr ⟨hplace, get?_put_self hne⟩
  · exact .inl (get?_put_of_ne hne hq)

theorem get?_of_some {entry : Entry} (h : OnlyDirectories fs fs')
    (hget : fs.get? place = some entry) : fs'.get? place = some entry := by
  rcases h.get?_cases place with hsame | ⟨hnone, -⟩
  · rw [hsame, hget]
  · rw [hget] at hnone
    cases hnone

/-- Where there is no directory now, all stayed as it was. -/
theorem get?_of_ne (h : OnlyDirectories fs fs') (hplace : fs'.get? place ≠ some .directory) :
    fs'.get? place = fs.get? place := by
  rcases h.get?_cases place with hsame | ⟨-, hmade⟩
  · exact hsame
  · exact absurd hmade hplace

theorem keepsDirectories (h : OnlyDirectories fs fs') : fs.KeepsDirectories fs' :=
  fun _ => h.get?_of_some

end OnlyDirectories

/-! ## Making directories -/

/-- What making a directory comes to: it is made, it is there, it cannot be made, or what is missing
above it comes first. -/
theorem ensure_cases (fs : FileSystem) (path : String)
    (missing : Unit → Except IoFault Unit × FileSystem) :
    (∃ place, fs.locate path = .ok (.vacant place) ∧
      fs.ensure path missing = (.ok (), fs.put place .directory)) ∨
    (fs.isDirectory path = true ∧ fs.ensure path missing = (.ok (), fs)) ∨
    (∃ fault, fs.ensure path missing = (.error fault, fs)) ∨
    fs.locate path = .error .notFound ∧ fs.ensure path missing = missing () := by
  cases hlocate : fs.locate path with
  | error fault =>
      by_cases hfault : fault = .notFound
      · subst hfault
        refine .inr (.inr (.inr ⟨rfl, ?_⟩))
        unfold ensure makeDirectory
        rw [hlocate]
        rfl
      · exact .inr (.inr (.inl ⟨fault, ensure_of_error hlocate hfault missing⟩))
  | ok target =>
      cases target with
      | vacant place => exact .inl ⟨place, rfl, ensure_of_vacant hlocate missing⟩
      | existing place entry =>
          have hmake : fs.makeDirectory path = .error .alreadyExists := by
            unfold makeDirectory
            rw [hlocate]
            rfl
          unfold ensure
          rw [hmake]
          by_cases hdirectory : fs.isDirectory path = true
          · exact .inr (.inl ⟨hdirectory, by simp [hdirectory]⟩)
          · exact .inr (.inr (.inl ⟨.alreadyExists, by simp [hdirectory]⟩))

theorem get?_of_locate_vacant (h : fs.locate path = .ok (.vacant place)) :
    fs.get? place = none :=
  get?_of_walk_vacant (walk_of_locate h).2.2.2

theorem isDirectory_put (h : fs.locate path = .ok (.vacant place)) :
    (fs.put place .directory).isDirectory path = true := by
  have hplace := get?_of_locate_vacant h
  have hne : place ≠ [] := by
    rintro rfl
    cases hplace
  obtain ⟨hnul, hempty, hlong, hwalk⟩ := walk_of_locate h
  rw [← targetAt_of_none hplace] at hwalk
  have hkeeps : fs.KeepsDirectories (fs.put place .directory) := keepsDirectories_put hne
  have hwalk' := hkeeps.walk_targetAt hwalk
  rw [targetAt_of_some (get?_put_self hne)] at hwalk'
  have hlocate : (fs.put place .directory).locate path = .ok (.existing place .directory) := by
    unfold locate
    rw [if_neg (by simpa using hnul), if_neg (by simpa using hempty), if_neg (by omega)]
    exact hwalk'
  unfold isDirectory
  rw [hlocate]

/-- Making a directory makes directories only, and leaves one there, if what comes first does. -/
theorem ensure_spec (fs : FileSystem) (path : String)
    (missing : Unit → Except IoFault Unit × FileSystem)
    (honly : fs.locate path = .error .notFound → OnlyDirectories fs (missing ()).2)
    (hmade : fs.locate path = .error .notFound → (missing ()).1 = .ok () →
      (missing ()).2.isDirectory path = true) :
    OnlyDirectories fs (fs.ensure path missing).2 ∧
      ((fs.ensure path missing).1 = .ok () → (fs.ensure path missing).2.isDirectory path = true) := by
  rcases ensure_cases fs path missing with ⟨place, hvacant, hensure⟩ | ⟨hdirectory, hensure⟩ |
    ⟨fault, hensure⟩ | ⟨hmissing, hensure⟩
  · rw [hensure]
    exact ⟨.put (get?_of_locate_vacant hvacant), fun _ => isDirectory_put hvacant⟩
  · rw [hensure]
    exact ⟨.refl fs, fun _ => hdirectory⟩
  · rw [hensure]
    refine ⟨.refl fs, ?_⟩
    intro hok
    cases hok
  · rw [hensure]
    exact ⟨honly hmissing, hmade hmissing⟩

/-- Makes the directory above first, and then the directory itself. -/
def makeBelow (depth : Nat) (fs : FileSystem) (above path : String) :
    Except IoFault Unit × FileSystem :=
  match makeAll depth fs above with
  | (.error fault, fs) => (.error fault, fs)
  | (.ok (), fs) =>
      fs.ensure path fun _ => if fs.isDirectory path then (.ok (), fs) else (.error .notFound, fs)

theorem makeAll_succ (depth : Nat) (fs : FileSystem) (path : String) :
    makeAll (depth + 1) fs path =
      if path.isEmpty then (.ok (), fs)
      else
        fs.ensure path fun _ =>
          match Path.parent? path with
          | none => (.error (.other "failed to create whole tree"), fs)
          | some above => makeBelow depth fs above path :=
  rfl

theorem ensure_of_directory (h : fs.locate path = .ok (.existing place .directory))
    (missing : Unit → Except IoFault Unit × FileSystem) :
    fs.ensure path missing = (.ok (), fs) := by
  unfold ensure makeDirectory isDirectory
  rw [h]
  rfl

/-- Nothing is to be made for a path that leads to a directory. -/
theorem makeDirectories_of_directory (h : fs.locate path = .ok (.existing place .directory)) :
    fs.makeDirectories path = (.ok (), fs) := by
  have hempty : path ≠ "" := (walk_of_locate h).2.1
  unfold makeDirectories
  rw [makeAll_succ, if_neg (by simpa using hempty), ensure_of_directory h]

theorem makeBelow_spec {depth : Nat}
    (hspec : ∀ (fs : FileSystem) path, OnlyDirectories fs (makeAll depth fs path).2)
    (fs : FileSystem) (above path : String) :
    OnlyDirectories fs (makeBelow depth fs above path).2 ∧
      ((makeBelow depth fs above path).1 = .ok () →
        (makeBelow depth fs above path).2.isDirectory path = true) := by
  have habove := hspec fs above
  unfold makeBelow
  cases hmade : makeAll depth fs above with
  | mk result fs₁ =>
      rw [hmade] at habove
      cases result with
      | error fault => exact ⟨habove, fun hok => by cases hok⟩
      | ok _ =>
          by_cases hdirectory : fs₁.isDirectory path = true
          · have hown := ensure_spec fs₁ path (fun _ => (.ok (), fs₁)) (fun _ => .refl fs₁)
              fun _ _ => hdirectory
            simp only [if_pos hdirectory]
            exact ⟨habove.trans hown.1, hown.2⟩
          · have hown := ensure_spec fs₁ path (fun _ => (.error .notFound, fs₁))
              (fun _ => .refl fs₁) fun _ hok => by cases hok
            simp only [if_neg hdirectory]
            exact ⟨habove.trans hown.1, hown.2⟩

/-- Making a directory and those above it makes directories only, and leaves one there. -/
theorem makeAll_spec (depth : Nat) (fs : FileSystem) (path : String) :
    OnlyDirectories fs (makeAll depth fs path).2 ∧
      (path ≠ "" → (makeAll depth fs path).1 = .ok () →
        (makeAll depth fs path).2.isDirectory path = true) := by
  induction depth generalizing fs path with
  | zero => exact ⟨.refl fs, fun _ hok => by cases hok⟩
  | succ depth ih =>
      rw [makeAll_succ]
      by_cases hempty : path.isEmpty = true
      · rw [if_pos hempty]
        exact ⟨.refl fs, fun hne => absurd (by simpa using hempty) hne⟩
      · rw [if_neg hempty]
        cases Path.parent? path with
        | none =>
            have hspec := ensure_spec fs path
              (fun _ => (.error (.other "failed to create whole tree"), fs))
              (fun _ => .refl fs) fun _ hok => by cases hok
            exact ⟨hspec.1, fun _ => hspec.2⟩
        | some above =>
            have hbelow := makeBelow_spec (fun fs path => (ih fs path).1) fs above path
            have hspec := ensure_spec fs path (fun _ => makeBelow depth fs above path)
              (fun _ => hbelow.1) fun _ => hbelow.2
            exact ⟨hspec.1, fun _ => hspec.2⟩

/-- Directories that could be made are there, and nothing but directories was made. -/
theorem makeDirectories_eq_ok (hpath : path ≠ "")
    (h : fs.makeDirectories path = (.ok (), fs')) :
    OnlyDirectories fs fs' ∧ fs'.locate path = .ok (.existing (fs.placeOf path) .directory) := by
  obtain ⟨honly, hmade⟩ := makeAll_spec (path.length + 2) fs path
  change fs.makeAll (path.length + 2) path = _ at h
  rw [h] at honly hmade
  have hlocate := locate_of_isDirectory (hmade hpath rfl)
  rw [placeOf_congr honly.workDir_eq] at hlocate
  exact ⟨honly, hlocate⟩

end FileSystem

end IssueTrace
