import IssueTrace.Proofs.Goldset.Rerun
import IssueTrace.Proofs.Storage.Growth

/-!
# New goldset files

Where an issue has no files yet, persisting its entities makes a file of each kind for which there
are any names, and no other file.
-/

namespace IssueTrace.GoldsetStore

open FileSystem (Admits GrowsBelow)

variable {fs fs' : FileSystem} {place : List String} {dir name issue : String} {names : NameSet}
  {count : Nat} {e : Entities} {added : Added}

/-- Where there is no file, names can only be added to one that is made. -/
theorem readNames_of_not_mem {known : List String}
    (hdir : fs.locate dir = .ok (.existing place .directory)) (hname : Path.IsEntryName name)
    (hnew : [name] ∉ fs.namesBelow place) (h : readNames fs (Path.join dir name) = .ok known) :
    known = [] := by
  by_cases hadmits : Admits dir name
  · obtain ⟨s, hshows, rfl⟩ := showsText_of_readNames (FileSystem.leadsTo_join hdir hname hadmits) h
    rcases hshows with ⟨entry, hget, hread⟩ | ⟨-, rfl⟩
    · exact absurd (FileSystem.mem_namesBelow_of_get? hget hread) hnew
    · rfl
  · obtain ⟨fault, hlocate, hfault⟩ := FileSystem.locate_join_of_not_admits hdir hname hadmits
    rw [readNames_of_error hlocate hfault] at h
    cases h

/-- Adding names to a file is work in its directory. -/
theorem appendNew_grows
    (hdir : fs.locate dir = .ok (.existing place .directory)) (hname : Path.IsEntryName name)
    (h : appendNew fs (Path.join dir name) names = .ok (count, fs')) : GrowsBelow place fs fs' := by
  rcases appendNew_eq_ok h with rfl | ⟨xs, happend⟩
  · exact .refl place fs'
  · obtain ⟨before, -, hget, rfl⟩ := FileSystem.append_join hdir hname happend
    exact .put_file (List.prefix_append place _) (FileSystem.get?_ne_directory hget) _

theorem appendNew_new
    (hdir : fs.locate dir = .ok (.existing place .directory)) (hname : Path.IsEntryName name)
    (hnew : [name] ∉ fs.namesBelow place)
    (h : appendNew fs (Path.join dir name) names = .ok (count, fs')) :
    fs'.namesBelow place = (if names.isEmpty then [] else [[name]]) ++ fs.namesBelow place := by
  rcases appendNew_eq_ok_iff.mp h with ⟨hempty, -, rfl⟩ | ⟨hempty, known, hknown, -, hadded⟩
  · rw [if_pos hempty, List.nil_append]
  · obtain rfl := readNames_of_not_mem hdir hname hnew hknown
    have hfresh : fresh [] names = names.toList := by simp [fresh]
    have hne : names.toList ≠ [] := by simpa [NameSet.isEmpty] using hempty
    rw [hfresh] at hadded
    obtain ⟨-, happend⟩ := hadded.resolve_left fun hnone => hne hnone.1
    obtain ⟨before, -, -, rfl⟩ := FileSystem.append_join hdir hname happend
    rw [if_neg (by simp [hempty])]
    exact FileSystem.namesBelow_put_file hnew

/-! ## The files of an issue -/

/-- The directories of a store are there, below its place. -/
structure Stands (store : GoldsetStore) (place : List String) (fs : FileSystem) : Prop where
  classDir : fs.locate store.classDir = .ok (.existing (place ++ ["class"]) .directory)
  methodDir : fs.locate store.methodDir = .ok (.existing (place ++ ["method"]) .directory)

variable {store : GoldsetStore}

theorem Stands.grows {other : List String} (hstands : store.Stands place fs)
    (h : GrowsBelow other fs fs') : store.Stands place fs' :=
  ⟨h.locate hstands.classDir, h.locate hstands.methodDir⟩

/-- Persisting the entities of an issue is work below the place of the store, in the directory of the
classes first and then in that of the methods. -/
theorem persist_steps (hstands : store.Stands place fs) (hissue : '/' ∉ issue.toList)
    (h : store.persist fs issue e = (.ok added, fs')) :
    ∃ fs₁, appendNew fs (store.classPath issue) e.classes = .ok (added.classes, fs₁) ∧
      appendNew fs₁ (store.methodPath issue) e.methods = .ok (added.methods, fs') ∧
      GrowsBelow (place ++ ["class"]) fs fs₁ ∧ GrowsBelow (place ++ ["method"]) fs₁ fs' := by
  obtain ⟨fs₁, hclasses, hmethods⟩ := persist_eq_ok h
  have hfile := isEntryName_file hissue
  have hgrows₁ := appendNew_grows hstands.classDir hfile hclasses
  have hgrows₂ := appendNew_grows (hgrows₁.locate hstands.methodDir) hfile hmethods
  exact ⟨fs₁, hclasses, hmethods, hgrows₁, hgrows₂⟩

theorem persist_grows (hstands : store.Stands place fs) (hissue : '/' ∉ issue.toList)
    (h : store.persist fs issue e = (.ok added, fs')) : GrowsBelow place fs fs' := by
  obtain ⟨fs₁, -, -, hgrows₁, hgrows₂⟩ := persist_steps hstands hissue h
  exact (hgrows₁.mono (List.prefix_append place _)).trans
    (hgrows₂.mono (List.prefix_append place _))

/-- The names of the files of a kind, in the directory of that kind. -/
def filesOfKind (fs : FileSystem) (place : List String) (kind : String) : List (List String) :=
  fs.namesBelow (place ++ [kind])

theorem filesOfKind_eq {kind kind' : String} (h : GrowsBelow (place ++ [kind]) fs fs')
    (hne : kind ≠ kind') : filesOfKind fs' place kind' = filesOfKind fs place kind' :=
  congrArg (List.map Prod.fst) (h.listing_of_ne hne)

/-- Persisting the entities of an issue without files makes a file for each kind of names that there
are. -/
theorem persist_new (hstands : store.Stands place fs) (hissue : '/' ∉ issue.toList)
    (hclass : [issue ++ ".txt"] ∉ filesOfKind fs place "class")
    (hmethod : [issue ++ ".txt"] ∉ filesOfKind fs place "method")
    (h : store.persist fs issue e = (.ok added, fs')) :
    filesOfKind fs' place "class" =
        (if e.classes.isEmpty then [] else [[issue ++ ".txt"]]) ++ filesOfKind fs place "class" ∧
      filesOfKind fs' place "method" =
        (if e.methods.isEmpty then [] else [[issue ++ ".txt"]]) ++ filesOfKind fs place "method" := by
  obtain ⟨fs₁, hclasses, hmethods, hgrows₁, hgrows₂⟩ := persist_steps hstands hissue h
  have hfile := isEntryName_file hissue
  have hother₁ : filesOfKind fs₁ place "method" = filesOfKind fs place "method" :=
    filesOfKind_eq hgrows₁ (by decide)
  have hother₂ : filesOfKind fs' place "class" = filesOfKind fs₁ place "class" :=
    filesOfKind_eq hgrows₂ (by decide)
  have hmethod₁ : [issue ++ ".txt"] ∉ filesOfKind fs₁ place "method" := by rwa [hother₁]
  constructor
  · rw [hother₂]
    exact appendNew_new hstands.classDir hfile hclass hclasses
  · rw [← hother₁]
    exact appendNew_new (hgrows₁.locate hstands.methodDir) hfile hmethod₁ hmethods

end IssueTrace.GoldsetStore
