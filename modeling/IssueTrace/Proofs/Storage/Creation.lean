import IssueTrace.Proofs.Storage.Growth
import IssueTrace.Proofs.Storage.Parents

/-!
# Directories that can be made

When a path leads to a directory in a file system that keeps all there is in another, the directories
of the path can be made in the other, and what is made is there in the first.
-/

namespace IssueTrace

namespace Path

theorem length_piecesFrom_le (piece text : List Char) :
    ((piecesFrom piece text).filter (!·.isEmpty)).length ≤ piece.length + text.length := by
  induction text generalizing piece with
  | nil =>
      cases piece with
      | nil => simp [piecesFrom]
      | cons c piece =>
          have hone := List.length_filter_le (!·.isEmpty) (piecesFrom (c :: piece) [])
          simp only [piecesFrom, List.length_singleton] at hone
          simp only [piecesFrom, List.length_cons]
          omega
  | cons c rest ih =>
      rw [piecesFrom_cons]
      split
      · have hrest := ih []
        cases piece with
        | nil =>
            rw [List.filter_cons_of_neg (by simp)]
            simpa using Nat.le_succ_of_le (by simpa using hrest)
        | cons d piece =>
            rw [List.filter_cons_of_pos (by simp)]
            simp only [List.length_cons, List.length_nil] at hrest ⊢
            omega
      · have hrest := ih (c :: piece)
        simp only [List.length_cons] at hrest ⊢
        omega

theorem length_names_le (path : String) : (names path).length ≤ path.length := by
  have hall := length_piecesFrom_le [] path.toList
  unfold names
  simpa only [List.length_map, List.length_nil, Nat.zero_add, String.length_toList] using hall

theorem exists_names_join (dir : String) {name : String} (hname : IsEntryName name) :
    ∃ front, names (join dir name) = front ++ [name] := by
  by_cases hdir : dir = ""
  · rw [hdir, join_empty]
    exact ⟨[], hname.names_eq⟩
  · exact ⟨names dir, names_join hdir hname⟩

end Path

namespace FileSystem

variable {fs fs' : FileSystem} {start place : List String} {names : List String} {path : String}

/-! ## What was there before -/

namespace KeepsEntries

theorem put_directory (hkeeps : KeepsEntries fs fs') (hplace : fs.get? place = none)
    (hplace' : fs'.get? place = some .directory) :
    KeepsEntries (fs.put place .directory) fs' := by
  have hne : place ≠ [] := by
    rintro rfl
    cases hplace
  refine ⟨hkeeps.workDir_eq, ?_, ?_⟩
  · intro q hq
    by_cases heq : q = place
    · rw [heq]
      exact hplace'
    · rw [get?_put_of_ne hne heq] at hq
      exact hkeeps.directories q hq
  · intro q entry hq hentry
    by_cases heq : q = place
    · rw [heq, get?_put_self hne, Option.some.injEq] at hq
      exact absurd hq.symm hentry
    · rw [get?_put_of_ne hne heq] at hq
      exact hkeeps.files q entry hq hentry

theorem get?_cases (hkeeps : KeepsEntries fs fs') (h : fs'.get? place = some .directory) :
    fs.get? place = some .directory ∨ fs.get? place = none := by
  cases hget : fs.get? place with
  | none => exact .inr rfl
  | some entry =>
      by_cases hentry : entry = .directory
      · exact .inl (by rw [hentry])
      · obtain ⟨entry', hget', hfile⟩ := hkeeps.files place entry hget hentry
        rw [h, Option.some.injEq] at hget'
        exact absurd hget'.symm hfile

/-- The way to a directory was one before, or it ended where nothing was, or broke off. -/
theorem walk_cases (hkeeps : KeepsEntries fs fs')
    (h : fs'.walk start names = .ok (.existing place .directory)) :
    fs.walk start names = .ok (.existing place .directory) ∨
      fs.walk start names = .ok (.vacant place) ∨ fs.walk start names = .error .notFound := by
  induction names generalizing start with
  | nil =>
      rw [walk_nil, Except.ok.injEq, targetAt_eq_existing_iff] at h
      obtain ⟨rfl, hget⟩ := h
      rw [walk_nil]
      rcases hkeeps.get?_cases hget with hsame | hnone
      · exact .inl (by rw [targetAt_of_some hsame])
      · exact .inr (.inl (by rw [targetAt_of_none hnone]))
  | cons name rest ih =>
      have hstart' := get?_start_of_walk h
      obtain ⟨next, found, hchild', hnext⟩ := walk_cons_eq_existing h
      rcases hkeeps.get?_cases hstart' with hstart | hnone
      · by_cases hdots : IsDots name
        · obtain ⟨back, hchild, hback⟩ := child_of_isDots hdots hstart hstart'
          obtain rfl : back = next := by
            rw [hback, Except.ok.injEq, Target.existing.injEq] at hchild'
            exact hchild'.1
          rw [walk_cons, hchild]
          exact ih hnext
        · obtain ⟨htarget, hchild⟩ := child_of_not_isDots hdots hchild' hstart
          obtain ⟨rfl, hfound⟩ := targetAt_eq_existing_iff.mp htarget.symm
          rcases hkeeps.get?_cases (get?_start_of_walk hnext) with hsame | hnone
          · rw [walk_cons, hchild, targetAt_of_some hsame]
            exact ih hnext
          · rw [walk_cons, hchild, targetAt_of_none hnone]
            by_cases hrest : rest = []
            · rw [hrest, walk_nil, Except.ok.injEq, targetAt_eq_existing_iff] at hnext
              exact .inr (.inl (by rw [← hnext.1]; exact if_pos hrest))
            · exact .inr (.inr (if_neg hrest))
      · have hmissing : fs.child start name = .error .notFound := by
          unfold child
          rw [hnone]
        rw [walk_cons, hmissing]
        exact .inr (.inr rfl)

theorem locate_cases (hkeeps : KeepsEntries fs fs')
    (h : fs'.locate path = .ok (.existing place .directory)) :
    fs.locate path = .ok (.existing place .directory) ∨
      fs.locate path = .ok (.vacant place) ∨ fs.locate path = .error .notFound := by
  obtain ⟨hnul, hempty, hlong, hwalk⟩ := walk_of_locate h
  rw [hkeeps.workDir_eq] at hwalk
  unfold FileSystem.locate
  rw [if_neg (by simpa using hnul), if_neg (by simpa using hempty), if_neg (by omega)]
  exact hkeeps.walk_cases hwalk

end KeepsEntries

/-! ## Making the directories of a path -/

theorem ensure_of_notFound (h : fs.locate path = .error .notFound)
    (missing : Unit → Except IoFault Unit × FileSystem) :
    fs.ensure path missing = missing () := by
  unfold ensure makeDirectory
  rw [h]
  rfl

theorem walk_singleton_ne_notFound {name : String} (hstart : fs.get? start = some .directory) :
    fs.walk start [name] ≠ .error .notFound := by
  rw [walk_cons, child_of_directory hstart]
  split
  · rename_i fault hfault
    split at hfault
    · cases hfault
    · split at hfault
      · cases hfault
      · split at hfault
        · rw [← Except.error.inj hfault]
          simp
        · cases hfault
  · rw [walk_nil]
    simp
  · simp

theorem locate_ne_notFound {front : List String} {last : String} (hpath : path ≠ "")
    (hnames : Path.names path = front ++ [last])
    (h : fs.walk (if Path.isAbsolute path then [] else fs.workDir) front =
      .ok (.existing place .directory)) : fs.locate path ≠ .error .notFound := by
  unfold locate
  split
  · simp
  · rw [if_neg (by simpa using hpath)]
    split
    · simp
    · rw [hnames, walk_append h]
      exact walk_singleton_ne_notFound (get?_of_walk h)

theorem exists_walk_front {made : FileSystem} {front : List String} {last : String} {depth : Nat}
    (hnames : Path.names path = front ++ [last])
    (hmade : fs.makeAll depth (above path front) = (.ok (), made))
    (hwork : fs.get? fs.workDir = some .directory) :
    ∃ between, made.walk (if Path.isAbsolute path then [] else made.workDir) front =
      .ok (.existing between .directory) := by
  obtain ⟨honly, hthere⟩ := makeAll_spec depth fs (above path front)
  rw [hmade] at honly hthere
  have hwork' : made.get? made.workDir = some .directory := by
    rw [honly.workDir_eq]
    exact honly.keepsDirectories _ hwork
  by_cases hempty : above path front = ""
  · have habsolute := isAbsolute_above hnames
    have hkept := names_above hnames
    rw [hempty] at habsolute hkept
    have hall : made.walk made.workDir (Path.kept (Path.isAbsolute path) front) =
        .ok (.existing made.workDir .directory) := by
      rw [← hkept]
      change made.walk made.workDir [] = _
      rw [walk_nil, targetAt_of_some hwork']
    refine ⟨made.workDir, ?_⟩
    rw [← habsolute]
    exact walk_kept.mp hall
  · have hlocate := locate_of_isDirectory (hthere hempty rfl)
    obtain ⟨-, -, -, hwalk⟩ := walk_of_locate hlocate
    rw [isAbsolute_above hnames, names_above hnames, walk_kept] at hwalk
    exact ⟨_, hwalk⟩

/-- A directory that is there in the end can be made, unless something above it is missing. -/
theorem KeepsEntries.ensure (hkeeps : KeepsEntries fs fs')
    (hpath : fs'.locate path = .ok (.existing place .directory))
    (hmissing : fs.locate path ≠ .error .notFound)
    (missing : Unit → Except IoFault Unit × FileSystem) :
    ∃ made, fs.ensure path missing = (.ok (), made) ∧ KeepsEntries made fs' := by
  rcases hkeeps.locate_cases hpath with hfound | hvacant | hnot
  · exact ⟨fs, ensure_of_directory hfound missing, hkeeps⟩
  · have hget := get?_of_locate_vacant hvacant
    have hget' := get?_of_walk (walk_of_locate hpath).2.2.2
    exact ⟨_, ensure_of_vacant hvacant missing, hkeeps.put_directory hget hget'⟩
  · exact absurd hnot hmissing

/-- Once the directories above are there, a directory can be made if it is there in the end. -/
theorem KeepsEntries.makeBelow {made : FileSystem} {depth : Nat} {above : String}
    (habove : fs.makeAll depth above = (.ok (), made)) (hkeeps : KeepsEntries made fs')
    (hpath : fs'.locate path = .ok (.existing place .directory))
    (hmissing : made.locate path ≠ .error .notFound) :
    ∃ made, fs.makeBelow depth above path = (.ok (), made) ∧ KeepsEntries made fs' := by
  unfold FileSystem.makeBelow
  rw [habove]
  exact hkeeps.ensure hpath hmissing _

/-- When something is missing for a path that could be there, it has a last name to be made. -/
theorem exists_names_of_missing (hpath : fs'.locate path = .ok (.existing place .directory))
    (hwork : fs.get? fs.workDir = some .directory)
    (hdot : ∀ front, Path.names path = front ++ ["."] → front = [])
    (hmissing : fs.locate path = .error .notFound) :
    ∃ front last, Path.names path = front ++ [last] ∧ last ≠ "." := by
  obtain ⟨hnul, hempty, hlong, -⟩ := walk_of_locate hpath
  have hstart : fs.get? (if Path.isAbsolute path then [] else fs.workDir) = some .directory := by
    split
    · rfl
    · exact hwork
  rw [locate_eq_walk (by simpa using hnul) hempty hlong] at hmissing
  rcases List.eq_nil_or_concat' (Path.names path) with hnil | ⟨front, last, hnames⟩
  · rw [hnil, walk_nil] at hmissing
    cases hmissing
  · refine ⟨front, last, hnames, ?_⟩
    rintro rfl
    rw [hnames, hdot front hnames] at hmissing
    exact walk_singleton_ne_notFound hstart hmissing

/-- The directories of a path can be made if it leads to a directory where more is there. -/
theorem KeepsEntries.makeAll (hkeeps : KeepsEntries fs fs')
    (hwork : fs.get? fs.workDir = some .directory)
    (hpath : fs'.locate path = .ok (.existing place .directory))
    (hdot : ∀ front, Path.names path = front ++ ["."] → front = []) {depth : Nat}
    (hdepth : (Path.names path).length < depth) :
    ∃ made, fs.makeAll depth path = (.ok (), made) ∧ KeepsEntries made fs' := by
  induction depth generalizing path place with
  | zero => omega
  | succ depth ih =>
      have hempty : path ≠ "" := (walk_of_locate hpath).2.1
      rw [makeAll_succ, if_neg (by simpa using hempty)]
      by_cases hmissing : fs.locate path = .error .notFound
      · rw [ensure_of_notFound hmissing]
        obtain ⟨front, last, hnames, hlast⟩ := exists_names_of_missing hpath hwork hdot hmissing
        rw [Path.parent?_of_names hnames hlast]
        rw [hnames, List.length_append, List.length_singleton] at hdepth
        have hmade : ∃ made, fs.makeAll depth (above path front) = (.ok (), made) ∧
            KeepsEntries made fs' := by
          by_cases habove : above path front = ""
          · obtain ⟨depth, rfl⟩ : ∃ d, depth = d + 1 := ⟨depth - 1, by omega⟩
            exact ⟨fs, by rw [makeAll_succ, habove]; rfl, hkeeps⟩
          · obtain ⟨between, hbetween⟩ := exists_locate_above hnames hpath habove
            apply ih hbetween
            · intro own hown
              rw [names_above hnames] at hown
              exact Path.eq_nil_of_kept_concat_dot hown
            · have hlength := (Path.kept_sublist (Path.isAbsolute path) front).length_le
              rw [names_above hnames]
              omega
        obtain ⟨made, hmade, hkeeps'⟩ := hmade
        obtain ⟨between, hbetween⟩ := exists_walk_front hnames hmade hwork
        exact hkeeps'.makeBelow hmade hpath (locate_ne_notFound hempty hnames hbetween)
      · exact hkeeps.ensure hpath hmissing _

/-- The directories of a path in a directory can be made if they are there where more is there. -/
theorem KeepsEntries.makeDirectories (hkeeps : KeepsEntries fs fs')
    (hwork : fs.get? fs.workDir = some .directory) {dir name : String}
    (hname : Path.IsEntryName name)
    (hpath : fs'.locate (Path.join dir name) = .ok (.existing place .directory)) :
    ∃ made, fs.makeDirectories (Path.join dir name) = (.ok (), made) ∧ KeepsEntries made fs' := by
  apply hkeeps.makeAll hwork hpath
  · intro front hfront
    obtain ⟨own, hown⟩ := Path.exists_names_join dir hname
    rw [hown] at hfront
    exact absurd (List.append_inj' hfront rfl).2 (by simpa using hname.ne_dot)
  · have hlength := Path.length_names_le (Path.join dir name)
    omega

end FileSystem

end IssueTrace
