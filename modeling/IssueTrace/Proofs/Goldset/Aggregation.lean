import IssueTrace.Proofs.Attribution.Resolve

/-!
# What the commits of an issue touch together

The entities of an issue are the union of what its commits contribute, and those of a commit the
union of what its files contribute, each taken by itself.  So neither the order nor the repetition
of commits matters, and a commit or a file that fails takes nothing from the others.
-/

namespace IssueTrace

open Source (Parser)

namespace Entities

theorem foldl_fst_eq_union {α : Type} {step : Entities × Journal → α → Entities × Journal}
    {contribution : α → Entities}
    (hstep : ∀ state a, (step state a).1 = state.1.union (contribution a)) (xs : List α)
    (state : Entities × Journal) :
    (xs.foldl step state).1 = state.1.union (unionAll (xs.map contribution)) := by
  induction xs generalizing state with
  | nil => simp
  | cons a xs ih =>
      rw [List.foldl_cons, ih, hstep, union_assoc]
      rfl

end Entities

open Entities

section

variable {parser : Parser} {repo : Repository} {options : ResolverOptions}

/-! ## One file -/

/-- The loop over the headers carries the journal along without looking at it. -/
theorem foldl_addHunk_fst_congr {id : CommitId} {path : String} {outline : Source.Outline}
    (headers : List String) {state state' : Entities × Journal} (h : state.1 = state'.1) :
    (headers.foldl (addHunk options id path outline) state).1 =
      (headers.foldl (addHunk options id path outline) state').1 := by
  induction headers generalizing state state' with
  | nil => exact h
  | cons header headers ih =>
      apply ih
      unfold addHunk
      cases Hunk.parse? header with
      | none => exact h
      | some hunk =>
          dsimp only
          rw [h]

theorem resolveBy_fst_congr {id : CommitId} {path : String} (headers : List String)
    (journal journal' : Journal) :
    (resolveBy parser repo options id path headers journal).1 =
      (resolveBy parser repo options id path headers journal').1 := by
  unfold resolveBy
  cases readFile parser repo options id path with
  | error failure => rfl
  | ok found =>
      exact congrArg (Entities.inModule · found.1) (foldl_addHunk_fst_congr headers rfl)

/-- What a changed file of a commit contributes. -/
def fileEntities (parser : Parser) (repo : Repository) (options : ResolverOptions) (id : CommitId)
    (file : FileChange) : Entities :=
  (resolveBy parser repo options id file.path file.hunks {}).1

theorem addFile_fst (id : CommitId) (state : Entities × Journal) (file : FileChange) :
    (addFile parser repo options id state file).1 =
      state.1.union (fileEntities parser repo options id file) := by
  unfold addFile fileEntities
  dsimp only
  rw [resolveBy_fst_congr file.hunks state.2 {}]

/-! ## One commit -/

/-- What a commit contributes. -/
def commitEntities (parser : Parser) (repo : Repository) (options : ResolverOptions)
    (id : CommitId) : Entities :=
  match changesOf repo options id with
  | .error _ => {}
  | .ok files => unionAll (files.map (fileEntities parser repo options id))

theorem addCommit_fst (state : Entities × Journal) (id : CommitId) :
    (addCommit parser repo options state id).1 =
      state.1.union (commitEntities parser repo options id) := by
  unfold addCommit commitEntities
  cases changesOf repo options id with
  | error failure => exact (union_empty state.1).symm
  | ok files => exact foldl_fst_eq_union (addFile_fst id) files state

/-- The entities of an issue are the union of what its commits contribute. -/
theorem aggregateBy_fst (commits : List CommitId) (journal : Journal) :
    (aggregateBy parser repo options commits journal).1 =
      unionAll (commits.map (commitEntities parser repo options)) := by
  unfold aggregateBy
  rw [foldl_fst_eq_union addCommit_fst, empty_union]

/-- A commit that is unknown, has no parent, or cannot be compared with its parent. -/
def Undiffable (repo : Repository) (options : ResolverOptions) (id : CommitId) : Prop :=
  (∃ failure, repo.commit id = .error failure) ∨
    (∃ commit, repo.commit id = .ok commit ∧ commit.diffParent? = none) ∨
      ∃ commit parent failure, repo.commit id = .ok commit ∧ commit.diffParent? = some parent ∧
        repo.changes parent id options.sourceExtension options.contextLines = .error failure

theorem undiffable_iff {id : CommitId} :
    Undiffable repo options id ↔ ∃ failure, changesOf repo options id = .error failure := by
  unfold Undiffable changesOf
  cases hcommit : repo.commit id with
  | error failure => simp [bind, Except.bind]
  | ok commit =>
      cases hparent : commit.diffParent? with
      | none => simp [bind, Except.bind, hparent, throw, throwThe, MonadExceptOf.throw]
      | some parent => simp [bind, Except.bind, hparent]

instance (id : CommitId) : Decidable (Undiffable repo options id) :=
  match hchanges : changesOf repo options id with
  | .error failure => .isTrue (undiffable_iff.mpr ⟨failure, hchanges⟩)
  | .ok files => .isFalse fun h => by
      obtain ⟨failure, hfailure⟩ := undiffable_iff.mp h
      rw [hchanges] at hfailure
      cases hfailure

theorem commitEntities_of_undiffable {id : CommitId} (h : Undiffable repo options id) :
    commitEntities parser repo options id = {} := by
  obtain ⟨failure, hfailure⟩ := undiffable_iff.mp h
  unfold commitEntities
  rw [hfailure]

/-! ## The commits of an issue -/

/-- The entities of an issue are collected as a union.  Lists of commits may be joined, put in
another order and repeated, whatever the journals; more commits never give less.  A commit that
cannot be compared contributes nothing and takes nothing from the others, and so does a file that
cannot be read among the files of its commit. -/
theorem aggregateBy_eq_union (parser : Parser) (repo : Repository) (options : ResolverOptions) :
    (∀ xs ys journal journal₁ journal₂,
      (aggregateBy parser repo options (xs ++ ys) journal).1 =
        (aggregateBy parser repo options xs journal₁).1.union
          (aggregateBy parser repo options ys journal₂).1) ∧
    (∀ xs ys journal journal', (∀ id, id ∈ xs ↔ id ∈ ys) →
      (aggregateBy parser repo options xs journal).1 =
        (aggregateBy parser repo options ys journal').1) ∧
    (∀ xs ys journal journal', (∀ id ∈ xs, id ∈ ys) →
      (∀ x ∈ (aggregateBy parser repo options xs journal).1.classes,
        x ∈ (aggregateBy parser repo options ys journal').1.classes) ∧
      ∀ x ∈ (aggregateBy parser repo options xs journal).1.methods,
        x ∈ (aggregateBy parser repo options ys journal').1.methods) ∧
    (∀ id, Undiffable repo options id → ∀ xs ys journal journal',
      (aggregateBy parser repo options [id] journal).1 = {} ∧
        (aggregateBy parser repo options (xs ++ id :: ys) journal).1 =
          (aggregateBy parser repo options (xs ++ ys) journal').1) ∧
    ∀ id files file files', changesOf repo options id = .ok (files ++ file :: files') →
      Unreadable parser repo options id file.path → ∀ journal journal',
        (resolveBy parser repo options id file.path file.hunks journal).1 = {} ∧
          (aggregateBy parser repo options [id] journal).1 =
            unionAll ((files ++ files').map fun other =>
              (resolveBy parser repo options id other.path other.hunks journal').1) := by
  refine ⟨?_, ?_, ?_, ?_, ?_⟩
  · intro xs ys journal journal₁ journal₂
    rw [aggregateBy_fst, aggregateBy_fst, aggregateBy_fst, List.map_append, unionAll_append]
  · intro xs ys journal journal' h
    rw [aggregateBy_fst, aggregateBy_fst]
    apply ext_mem
    · intro x
      simp only [mem_classes_unionAll, List.mem_map, h]
    · intro x
      simp only [mem_methods_unionAll, List.mem_map, h]
  · intro xs ys journal journal' h
    simp only [aggregateBy_fst, mem_classes_unionAll, mem_methods_unionAll]
    have hcommits : ∀ e ∈ xs.map (commitEntities parser repo options),
        e ∈ ys.map (commitEntities parser repo options) := by
      intro e he
      obtain ⟨id, hid, rfl⟩ := List.mem_map.mp he
      exact List.mem_map_of_mem (h id hid)
    constructor
    · rintro x ⟨e, he, hx⟩
      exact ⟨e, hcommits e he, hx⟩
    · rintro x ⟨e, he, hx⟩
      exact ⟨e, hcommits e he, hx⟩
  · intro id h xs ys journal journal'
    have hempty : commitEntities parser repo options id = {} := commitEntities_of_undiffable h
    constructor
    · simp [aggregateBy_fst, hempty]
    · simp [aggregateBy_fst, unionAll_append, hempty]
  · intro id files file files' hfiles h journal journal'
    have hempty : ∀ journal,
        (resolveBy parser repo options id file.path file.hunks journal).1 = {} := by
      intro journal
      exact resolveBy_of_not_read h.not_read file.hunks journal
    have hown : fileEntities parser repo options id file = {} := hempty {}
    have hothers : (fun other => (resolveBy parser repo options id other.path other.hunks
        journal').1) = fileEntities parser repo options id := by
      funext other
      exact resolveBy_fst_congr other.hunks journal' {}
    refine ⟨hempty journal, ?_⟩
    rw [hothers, aggregateBy_fst]
    simp [commitEntities, hfiles, unionAll_append, hown]

end

/-- An unknown commit and a file outside of every package leave what the module of the sample
contributes. -/
theorem aggregateBy_eq_union_of_unknown :
    Undiffable Sample.repository { contextLines := 0 } ⟨"2"⟩ ∧
      Unreadable Sample.parser Sample.repository { contextLines := 0 } Sample.commit "mod.py" ∧
      "pkg.mod.g" ∈
        (aggregateBy Sample.parser Sample.repository { contextLines := 0 }
          [Sample.commit, ⟨"2"⟩] {}).1.methods := by
  have hunknown : Undiffable Sample.repository { contextLines := 0 } ⟨"2"⟩ :=
    .inl ⟨.git (.unknownCommit ⟨"2"⟩), by decide +kernel⟩
  have hunread :
      Unreadable Sample.parser Sample.repository { contextLines := 0 } Sample.commit "mod.py" :=
    .inl (by decide +kernel)
  obtain ⟨-, -, -, hcommit, hfile⟩ :=
    aggregateBy_eq_union Sample.parser Sample.repository { contextLines := 0 }
  have hfiles : changesOf Sample.repository { contextLines := 0 } Sample.commit =
      .ok ([⟨"pkg/mod.py", ["@@ -2,0 +3 @@"]⟩] ++ ⟨"mod.py", ["@@ -0,0 +1 @@"]⟩ :: []) := by
    rfl
  have hread : readFile Sample.parser Sample.repository { contextLines := 0 } Sample.commit
      "pkg/mod.py" =
        .ok ("pkg.mod", ⟨.legacy, [.classDef "A" 1 [.function "f" 2], .function "g" 3], 3⟩) :=
    readFile_eq_ok_iff.mpr ⟨⟨"pkg", "pkg"⟩, Sample.text, by decide +kernel, by decide +kernel, rfl,
      Sample.readOutlineBy_text _⟩
  have hown : "pkg.mod.g" ∈ (resolveBy Sample.parser Sample.repository { contextLines := 0 }
      Sample.commit "pkg/mod.py" ["@@ -2,0 +3 @@"] {}).1.methods := by
    refine (mem_methods_resolveBy Sample.parser_keepsOrder hread).mpr ⟨"g", ?_, by decide +kernel⟩
    refine ⟨"@@ -2,0 +3 @@", by simp, ⟨3, 1⟩, by decide +kernel, .inl ⟨3, 1, rfl, ?_, ?_⟩⟩
    · decide
    · simp
  have hknown := (hcommit ⟨"2"⟩ hunknown [Sample.commit] [] {} {}).2
  have hothers := (hfile Sample.commit _ _ _ hfiles hunread {} {}).2
  refine ⟨hunknown, hunread, ?_⟩
  rw [← List.singleton_append, hknown, List.append_nil, hothers, mem_methods_unionAll]
  exact ⟨_, List.mem_map_of_mem List.mem_cons_self, hown⟩

end IssueTrace
