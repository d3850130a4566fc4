import IssueTrace.Proofs.Run.Stages

/-!
# What a window writes

Whether the work on a window ends well or not, files are written only at the ends of the paths that
its parts are given; everywhere else nothing happens but that directories are made where nothing was.
This is shown part by part.  It holds of a sequence of parts if it holds of each, since no part
moves the directory at which relative paths begin.
-/

namespace IssueTrace

namespace FileSystem

variable {fs fs' fs'' : FileSystem} {paths : String → Prop} {path text : String}

/-- Files were written at the ends of some paths only.  Elsewhere directories may have been made
where nothing was. -/
structure WritesOnly (paths : String → Prop) (fs fs' : FileSystem) : Prop where
  workDir_eq : fs'.workDir = fs.workDir
  elsewhere : ∀ place, (∀ path, paths path → place ≠ fs.placeOf path) →
    fs'.get? place = fs.get? place ∨ fs.get? place = none ∧ fs'.get? place = some .directory

namespace WritesOnly

theorem refl (paths : String → Prop) (fs : FileSystem) : WritesOnly paths fs fs :=
  ⟨rfl, fun _ _ => .inl rfl⟩

theorem trans (h : WritesOnly paths fs fs') (h' : WritesOnly paths fs' fs'') :
    WritesOnly paths fs fs'' where
  workDir_eq := h'.workDir_eq.trans h.workDir_eq
  elsewhere place hplace := by
    refine same_or_made_trans (h.elsewhere place hplace) (h'.elsewhere place ?_)
    intro path hpath
    rw [placeOf_congr h.workDir_eq]
    exact hplace path hpath

theorem of_onlyDirectories (h : OnlyDirectories fs fs') : WritesOnly paths fs fs' :=
  ⟨h.workDir_eq, fun place _ => h.get?_cases place⟩

theorem makeDirectories (fs : FileSystem) (path : String) :
    WritesOnly paths fs (fs.makeDirectories path).2 :=
  of_onlyDirectories (makeAll_spec _ fs path).1

theorem put {place : List String} {before : Option Content} (hpath : paths path)
    (hopen : fs.openForWriting path = .ok (place, before)) (content : Content) :
    WritesOnly paths fs (fs.put place (.file content)) where
  workDir_eq := rfl
  elsewhere q hq := by
    obtain ⟨hleads, hget⟩ := openForWriting_eq_ok hopen
    have hplace : place = fs.placeOf path := by
      rw [← spot_of_locate hleads.located, spot_targetAt]
    rw [hplace] at hget ⊢
    exact .inl (get?_put_of_ne (ne_nil_of_get?_ne (get?_ne_directory hget)) (hq path hpath))

theorem write (hpath : paths path) (h : fs.write path text = .ok fs') :
    WritesOnly paths fs fs' := by
  obtain ⟨place, before, hopen, rfl⟩ := write_eq_ok_iff.mp h
  exact .put hpath hopen _

theorem append (hpath : paths path) (h : fs.append path text = .ok fs') :
    WritesOnly paths fs fs' := by
  obtain ⟨place, before, hopen, rfl⟩ := append_eq_ok_iff.mp h
  exact .put hpath hopen _

end WritesOnly

end FileSystem

open FileSystem (WritesOnly)

/-! ## Files of the parts -/

/-- Steps one after another write only what each of them writes. -/
theorem FileSystem.WritesOnly.foldl {α β : Type} {paths : String → Prop}
    {step : α × FileSystem → β → α × FileSystem}
    (hstep : ∀ r b, WritesOnly paths r.2 (step r b).2) (bs : List β) (r : α × FileSystem) :
    WritesOnly paths r.2 (bs.foldl step r).2 := by
  induction bs generalizing r with
  | nil => exact .refl paths r.2
  | cons b bs ih => exact (hstep r b).trans (ih (step r b))

theorem VersionLayout.create_writesOnly {paths : String → Prop} (l : VersionLayout)
    (fs : FileSystem) : WritesOnly paths fs (l.create fs).2 := by
  rw [create]
  refine WritesOnly.foldl ?_ _ (Except.ok (), fs)
  rintro ⟨result, files⟩ dir
  cases result with
  | error fault => exact .refl paths files
  | ok _ => exact .makeDirectories files dir

namespace Queries

variable {paths : String → Prop} {repo : Repository} {dir : String} {map : IssueMap}

theorem writeLinks_writesOnly {links : List (String × Nat × CommitId)}
    (hpaths : ∀ link ∈ links, paths (Path.join dir (fileOf link))) (p : Progress) :
    WritesOnly paths p.files (writeLinks repo dir links p).2.files := by
  induction links generalizing p with
  | nil => exact .refl paths p.files
  | cons link links ih =>
      obtain ⟨issue, k, id⟩ := link
      rw [writeLinks]
      cases hone : writeOne repo dir issue p k id with
      | error fault => exact .refl paths p.files
      | ok p₁ =>
          have hfirst : WritesOnly paths p.files p₁.files := by
            cases hcommit : repo.commit id with
            | error failure =>
                rw [writeOne_of_error hcommit] at hone
                rw [← Except.ok.inj hone]
                exact .refl paths p.files
            | ok c =>
                obtain ⟨files, hwrite, rfl⟩ := (writeOne_eq_ok_iff hcommit).mp hone
                exact .write (hpaths _ List.mem_cons_self) hwrite
          exact hfirst.trans (ih (fun l hl => hpaths l (List.mem_cons_of_mem _ hl)) p₁)

theorem write_writesOnly (hpaths : ∀ link ∈ links map, paths (Path.join dir (fileOf link)))
    (journal : Journal) (fs : FileSystem) :
    WritesOnly paths fs (write repo map dir journal fs).2.2 := by
  have hmake : WritesOnly paths fs _ := .makeDirectories fs dir
  unfold write
  cases hmade : fs.makeDirectories dir with
  | mk result fs₁ =>
      rw [hmade] at hmake
      cases result with
      | error fault => exact hmake
      | ok _ =>
          have hlinks : WritesOnly paths fs₁
              (writeLinks repo dir (links map) ⟨0, journal, fs₁⟩).2.files :=
            writeLinks_writesOnly hpaths ⟨0, journal, fs₁⟩
          dsimp only
          cases hwritten : writeLinks repo dir (links map) ⟨0, journal, fs₁⟩ with
          | mk result p =>
              rw [hwritten] at hlinks
              cases result with
              | error fault => exact hmake.trans hlinks
              | ok _ => exact hmake.trans hlinks

end Queries

namespace GoldsetStore

variable {paths : String → Prop} {fs fs' : FileSystem} {store : GoldsetStore}

theorem openAt_writesOnly (fs : FileSystem) (root : String) :
    WritesOnly paths fs (openAt fs root).2 := by
  have hclass : WritesOnly paths fs _ := .makeDirectories fs (below root).classDir
  unfold openAt
  dsimp only
  cases hmade : fs.makeDirectories (below root).classDir with
  | mk result fs₁ =>
      rw [hmade] at hclass
      cases result with
      | error fault => exact hclass
      | ok _ =>
          have hmethod : WritesOnly paths fs₁ _ := .makeDirectories fs₁ (below root).methodDir
          dsimp only
          cases hmade' : fs₁.makeDirectories (below root).methodDir with
          | mk result fs₂ =>
              rw [hmade'] at hmethod
              cases result with
              | error fault => exact hclass.trans hmethod
              | ok _ => exact hclass.trans hmethod

theorem appendNew_writesOnly {path : String} {names : NameSet} {count : Nat} (hpath : paths path)
    (h : appendNew fs path names = .ok (count, fs')) : WritesOnly paths fs fs' := by
  rcases appendNew_eq_ok h with rfl | ⟨xs, happend⟩
  · exact .refl paths fs'
  · exact .append hpath happend

theorem persist_writesOnly {issue : String} (hclass : paths (store.classPath issue))
    (hmethod : paths (store.methodPath issue)) (fs : FileSystem) (e : Entities) :
    WritesOnly paths fs (store.persist fs issue e).2 := by
  unfold persist
  cases hclasses : appendNew fs (store.classPath issue) e.classes with
  | error fault => exact .refl paths fs
  | ok added =>
      obtain ⟨classes, fs₁⟩ := added
      have hfirst := appendNew_writesOnly hclass hclasses
      dsimp only
      cases hmethods : appendNew fs₁ (store.methodPath issue) e.methods with
      | error fault => exact hfirst
      | ok added => exact hfirst.trans (appendNew_writesOnly hmethod hmethods)

end GoldsetStore

/-! ## Parts of a run -/

namespace Run

variable {α β : Type} {paths : String → Prop} {context : List String}

/-- Whatever a part of a run comes to, it writes files only at the ends of some paths. -/
def Writes (paths : String → Prop) (x : Run α) : Prop :=
  ∀ o, WritesOnly paths o.files (x.run o).2.files

theorem writes_pure (a : α) : Writes paths (pure a : Run α) := fun o => .refl paths o.files

/-- What comes next is looked at only where what comes first gives a result. -/
theorem Writes.bind {x : Run α} {f : α → Run β} (hx : Writes paths x)
    (hf : ∀ a o o', Gives x o a o' → Writes paths (f a)) : Writes paths (x >>= f) := by
  intro o
  have hfirst := hx o
  rw [run_bind]
  cases hrun : x.run o with
  | mk result o₁ =>
      rw [hrun] at hfirst
      cases result with
      | error trouble => exact hfirst
      | ok a => exact hfirst.trans (hf a o o₁ hrun o₁)

theorem writes_take (result : Except Failure α) : Writes paths (take context result) := by
  intro o
  cases result with
  | ok a => exact .refl paths o.files
  | error cause => exact .refl paths o.files

theorem writes_warn (texts : List String) : Writes paths (warn texts) :=
  fun o => .refl paths o.files

theorem writes_withJournal (counts : Diagnostics) (work : Journal → α × Journal) :
    Writes paths (withJournal counts work) := fun o => .refl paths o.files

theorem writes_onFiles {work : FileSystem → Except IoFault α × FileSystem}
    (hwork : ∀ fs, WritesOnly paths fs (work fs).2) : Writes paths (onFiles context work) := by
  intro o
  have htake : Writes paths (take context ((work o.files).1.mapError .io)) := writes_take _
  exact (hwork o.files).trans (htake { o with files := (work o.files).2 })

theorem writes_writing {work : FileSystem → Except IoFault FileSystem}
    (hwork : ∀ fs fs', work fs = .ok fs' → WritesOnly paths fs fs') :
    Writes paths (writing context work) := by
  apply writes_onFiles
  intro fs
  cases hdone : work fs with
  | ok fs' => exact hwork fs fs' hdone
  | error fault => exact .refl paths fs

end Run

open Run (Gives Writes)

namespace Job

variable {j : Job} {paths : String → Prop}

theorem linkIssues_writes {path : String} (hpath : paths path) (map : IssueMap) :
    Writes paths (linkIssues path map) := by
  apply Writes.bind
  · exact Run.writes_writing fun fs fs' hwrite => .write hpath hwrite
  · intro _ _ _ _
    apply Writes.bind
    · apply Run.writes_onFiles
      intro fs
      cases IssueMap.load fs path with
      | ok loaded => exact .refl paths fs
      | error fault => exact .refl paths fs
    · intro _ _ _ _
      exact (Run.writes_warn _).bind fun _ _ _ _ => Run.writes_pure _

theorem writeQueries_writes {dir : String} {map : IssueMap}
    (hpaths : ∀ link ∈ Queries.links map, paths (Path.join dir (Queries.fileOf link))) :
    Writes paths (j.writeQueries dir map) := by
  intro o
  have hwrite : WritesOnly paths o.files
      (Queries.write j.history.toRepository map dir ⟨{}, o.log⟩ o.files).2.2 :=
    Queries.write_writesOnly hpaths _ _
  have hrest : ∀ (result : Except IoFault Nat) (journal : Journal), Writes paths (do
      let written ← Run.take ["Failed to write queries"] (result.mapError .io)
      return (written, journal.counts)) := fun result journal =>
    (Run.writes_take _).bind fun _ _ _ _ => Run.writes_pure _
  exact hwrite.trans (hrest (Queries.write j.history.toRepository map dir ⟨{}, o.log⟩ o.files).1 _
    ⟨_, (Queries.write j.history.toRepository map dir ⟨{}, o.log⟩ o.files).2.1.log⟩)

theorem writeGoldset_writes {store : GoldsetStore} {issue : String}
    (hclass : paths (store.classPath issue)) (hmethod : paths (store.methodPath issue))
    (ids : List CommitId) (counts : Diagnostics) :
    Writes paths (j.writeGoldset store issue ids counts) := by
  apply (Run.writes_withJournal _ _).bind
  rintro ⟨entities, counts⟩ _ _ _
  by_cases hempty : entities.isEmpty = true
  · simp only [if_pos hempty]
    exact Run.writes_pure _
  · simp only [if_neg hempty]
    exact (Run.writes_onFiles fun fs => GoldsetStore.persist_writesOnly hclass hmethod fs entities).bind
      fun _ _ _ _ => Run.writes_pure _

theorem writeGoldsets_writes {store : GoldsetStore} {rest : List (String × List CommitId)}
    (hpaths : ∀ e ∈ rest, paths (store.classPath e.1) ∧ paths (store.methodPath e.1))
    (written : Nat) (counts : Diagnostics) :
    Writes paths (j.writeGoldsets store rest written counts) := by
  induction rest generalizing written counts with
  | nil => exact Run.writes_pure _
  | cons e rest ih =>
      obtain ⟨issue, ids⟩ := e
      obtain ⟨hclass, hmethod⟩ := hpaths _ List.mem_cons_self
      rw [writeGoldsets]
      apply (writeGoldset_writes hclass hmethod ids counts).bind
      intro found _ _ _
      exact ih (fun e he => hpaths e (List.mem_cons_of_mem _ he)) _ _

end Job

end IssueTrace
