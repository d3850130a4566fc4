import IssueTrace.Package
import Mathlib.Data.List.Basic

/-!
# Ancestors of a file

The directories above a file are the beginnings of its path before a slash.  A package directory is
chosen among them, so a file below a package always has a dotted name.
-/

namespace IssueTrace.Package

theorem mem_prefixesFrom {p rest : List Char} :
    ∀ {passed : List Char}, p ∈ prefixesFrom passed rest ↔
      ∃ front back, rest = front ++ '/' :: back ∧ p = passed.reverse ++ front := by
  induction rest with
  | nil => simp [prefixesFrom]
  | cons c rest ih =>
      intro passed
      unfold prefixesFrom
      by_cases hc : c = '/'
      · subst hc
        rw [if_pos rfl, List.mem_cons, ih]
        constructor
        · rintro (rfl | ⟨front, back, rfl, rfl⟩)
          · exact ⟨[], rest, rfl, by simp⟩
          · exact ⟨'/' :: front, back, rfl, by simp⟩
        · rintro ⟨front, back, hrest, rfl⟩
          cases front with
          | nil => exact .inl (by simp)
          | cons c front =>
              obtain ⟨rfl, hback⟩ := List.cons.inj hrest
              exact .inr ⟨front, back, hback, by simp⟩
      · rw [if_neg hc, ih]
        constructor
        · rintro ⟨front, back, rfl, rfl⟩
          exact ⟨c :: front, back, rfl, by simp⟩
        · rintro ⟨front, back, hrest, rfl⟩
          cases front with
          | nil => exact absurd (List.cons.inj hrest).1 hc
          | cons c' front =>
              obtain ⟨rfl, hback⟩ := List.cons.inj hrest
              exact ⟨front, back, hback, by simp⟩

/-- The directories above a file are the parts of its path before a slash. -/
theorem mem_ancestors {dir path : String} :
    dir ∈ ancestors path ↔ ∃ rest, path.toList = dir.toList ++ '/' :: rest := by
  unfold ancestors
  simp only [List.mem_map, mem_prefixesFrom, List.reverse_nil, List.nil_append]
  constructor
  · rintro ⟨_, ⟨front, back, hpath, rfl⟩, rfl⟩
    exact ⟨back, by simpa using hpath⟩
  · rintro ⟨rest, hpath⟩
    exact ⟨dir.toList, ⟨dir.toList, rest, hpath, rfl⟩, by simp⟩

/-! ## Dotted names -/

theorem isSuffix_lastSegment (path : List Char) : lastSegment path <:+ path := by
  unfold lastSegment
  rw [← List.reverse_prefix, List.reverse_reverse]
  exact List.takeWhile_prefix _

/-- Below a directory the dotted name begins with the directory's own name. -/
theorem moduleName?_of_slash {path directory : String} {rest : List Char}
    (h : path.toList = directory.toList ++ '/' :: rest) (extension : String) :
    moduleName? path directory extension =
      some (String.ofList ((dropEnding extension.toList
        (lastSegment directory.toList ++ '/' :: rest)).map fun c => if c = '/' then '.' else c)) := by
  have hbelow : (directory.toList.isPrefixOf path.toList &&
      (path.toList.drop directory.toList.length).head? == some '/') = true := by
    rw [h, Bool.and_eq_true, List.isPrefixOf_iff_prefix, List.drop_left]
    exact ⟨List.prefix_append _ _, rfl⟩
  obtain ⟨front, hfront⟩ := isSuffix_lastSegment directory.toList
  have hlength : directory.toList.length - (lastSegment directory.toList).length =
      front.length := by
    have hsum := congrArg List.length hfront
    rw [List.length_append] at hsum
    omega
  have hrelative : path.toList.drop
      (directory.toList.length - (lastSegment directory.toList).length) =
        lastSegment directory.toList ++ '/' :: rest :=
    calc path.toList.drop (directory.toList.length - (lastSegment directory.toList).length)
        = (directory.toList ++ '/' :: rest).drop front.length := by rw [hlength, h]
      _ = (front ++ (lastSegment directory.toList ++ '/' :: rest)).drop front.length := by
          rw [← List.append_assoc, hfront]
      _ = lastSegment directory.toList ++ '/' :: rest := List.drop_left
  unfold moduleName?
  dsimp only
  rw [if_pos hbelow, hrelative]

/-- A dotted name exists below every directory above the file, and below no other. -/
theorem moduleName?_isSome_iff {path dir extension : String} :
    (moduleName? path dir extension).isSome ↔ dir ∈ ancestors path := by
  rw [mem_ancestors]
  constructor
  · intro hsome
    unfold moduleName? at hsome
    dsimp only at hsome
    split at hsome
    · rename_i h
      rw [Bool.and_eq_true, List.isPrefixOf_iff_prefix, beq_iff_eq] at h
      obtain ⟨⟨rest, hrest⟩, hslash⟩ := h
      rw [← hrest, List.drop_left] at hslash
      cases rest with
      | nil => simp at hslash
      | cons c rest =>
          obtain rfl : c = '/' := by simpa using hslash
          exact ⟨rest, hrest.symm⟩
    · cases hsome
  · rintro ⟨rest, hrest⟩
    rw [moduleName?_of_slash hrest]
    rfl

/-! ## The package of a file -/

variable {repo : Repository} {commit : CommitId} {path marker : String} {search : PackageSearch}

/-- The package directory of a file lies above it. -/
theorem directory_mem_ancestors {root : PackageRoot}
    (h : find? repo commit path marker search = some root) : root.directory ∈ ancestors path := by
  unfold find? at h
  obtain ⟨dir, hdir, rfl⟩ := Option.map_eq_some_iff.mp h
  have hmarked : dir ∈ (ancestors path).filter fun dir =>
      repo.pathExists commit (dir ++ "/" ++ marker) := by
    cases search with
    | innermost => exact List.mem_of_getLast? hdir
    | outermost => exact List.mem_of_head? hdir
  exact List.mem_of_mem_filter hmarked

/-- A file in a package has a dotted name, whatever the ending of source files is. -/
theorem exists_moduleName {root : PackageRoot}
    (h : find? repo commit path marker search = some root) (extension : String) :
    ∃ name, moduleName? path root.directory extension = some name :=
  Option.isSome_iff_exists.mp (moduleName?_isSome_iff.mpr (directory_mem_ancestors h))

end IssueTrace.Package
