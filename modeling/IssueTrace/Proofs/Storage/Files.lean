import IssueTrace.Proofs.Storage.Places

/-!
# Reading and writing files

What reading a file, writing at its end and making a directory do, by the place that a path leads
to.
-/

namespace IssueTrace

theorem Content.text?_eq_some_iff {content : Content} {s : String} :
    content.text? = some s ↔ content = .text s := by
  cases content with
  | text own => simp [Content.text?]
  | binary bytes => simp [Content.text?]

namespace FileSystem

variable {fs fs' : FileSystem} {place : List String} {path : String}

/-- The path can mean a file, and leads to the place. -/
structure LeadsTo (fs : FileSystem) (path : String) (place : List String) : Prop where
  located : fs.locate path = .ok (fs.targetAt place)
  not_endsInSlash : Path.endsInSlash path = false

theorem targetAt_of_none (h : fs.get? place = none) : fs.targetAt place = .vacant place := by
  unfold targetAt
  rw [h]

theorem targetAt_of_some {entry : Entry} (h : fs.get? place = some entry) :
    fs.targetAt place = .existing place entry := by
  unfold targetAt
  rw [h]

namespace LeadsTo

theorem readText_of_none (hpath : fs.LeadsTo path place) (hget : fs.get? place = none) :
    fs.readText path = .error .notFound := by
  unfold readText
  rw [hpath.located, targetAt_of_none hget]
  rfl

theorem readText_of_readable (hpath : fs.LeadsTo path place) {entry : Entry} {s : String}
    (hget : fs.get? place = some entry) (hread : entry.readable? = some (.text s)) :
    fs.readText path = .ok s := by
  unfold readText
  rw [hpath.located, targetAt_of_some hget]
  simp only [bind, Except.bind, hpath.not_endsInSlash]
  cases entry with
  | directory => cases hread
  | sealed content => cases hread
  | file content =>
      obtain rfl := Option.some.inj hread
      rfl
  | readOnly content =>
      obtain rfl := Option.some.inj hread
      rfl

theorem readText_of_text (hpath : fs.LeadsTo path place) {s : String}
    (hget : fs.get? place = some (.file (.text s))) : fs.readText path = .ok s :=
  hpath.readText_of_readable hget rfl

/-- What stands at the end of a path is not missed when it is read, readable or not. -/
theorem get?_of_notFound (hpath : fs.LeadsTo path place) (h : fs.readText path = .error .notFound) :
    fs.get? place = none := by
  cases hget : fs.get? place with
  | none => rfl
  | some entry =>
      unfold readText at h
      rw [hpath.located, targetAt_of_some hget] at h
      simp only [bind, Except.bind, hpath.not_endsInSlash] at h
      cases entry with
      | directory => cases h
      | sealed content => cases h
      | file content =>
          cases content with
          | text s => cases h
          | binary bytes => cases h
      | readOnly content =>
          cases content with
          | text s => cases h
          | binary bytes => cases h

theorem append_of_none (hpath : fs.LeadsTo path place) (hget : fs.get? place = none)
    (added : String) : fs.append path added = .ok (fs.put place (.file (.text added))) := by
  unfold append openForWriting
  rw [hpath.located, targetAt_of_none hget]
  simp only [bind, Except.bind, hpath.not_endsInSlash]
  exact congrArg (fun s => Except.ok (fs.put place (.file (.text s)))) String.empty_append

theorem append_of_text (hpath : fs.LeadsTo path place) {s : String}
    (hget : fs.get? place = some (.file (.text s))) (added : String) :
    fs.append path added = .ok (fs.put place (.file (.text (s ++ added)))) := by
  unfold append openForWriting
  rw [hpath.located, targetAt_of_some hget]
  simp only [bind, Except.bind, hpath.not_endsInSlash]
  rfl

end LeadsTo

theorem readText_of_error {fault : IoFault} (h : fs.locate path = .error fault) :
    fs.readText path = .error fault := by
  unfold readText
  rw [h]
  rfl

/-! ## Files in a directory -/

/-- The name is no longer than names may be, nor the path to it than paths, and it holds no NUL. -/
structure Admits (dir name : String) : Prop where
  no_nul : '\x00' ∉ name.toList
  name_le : name.utf8ByteSize ≤ maxName
  path_le : (Path.join dir name).utf8ByteSize ≤ maxPath

/-- The path of an admitted name in a directory leads to its place there. -/
theorem leadsTo_join {dir name : String}
    (hdir : fs.locate dir = .ok (.existing place .directory)) (hname : Path.IsEntryName name)
    (hadmits : Admits dir name) : fs.LeadsTo (Path.join dir name) (place ++ [name]) := by
  obtain ⟨-, hempty, -, -⟩ := walk_of_locate hdir
  have hnul := hadmits.no_nul
  have hshort := hadmits.name_le
  have hpath := hadmits.path_le
  refine ⟨?_, Path.not_endsInSlash_join hempty hname⟩
  rw [locate_join hdir hname, if_neg (by simpa using hnul), if_neg (by omega), if_neg (by omega)]

/-- Any other name is refused, and not because something is missing. -/
theorem locate_join_of_not_admits {dir name : String}
    (hdir : fs.locate dir = .ok (.existing place .directory)) (hname : Path.IsEntryName name)
    (hadmits : ¬ Admits dir name) :
    ∃ fault, fs.locate (Path.join dir name) = .error fault ∧ fault ≠ .notFound := by
  have hlocate := locate_join hdir hname
  split at hlocate
  · exact ⟨_, hlocate, by simp⟩
  · rename_i hnul
    split at hlocate
    · exact ⟨_, hlocate, by simp⟩
    · rename_i hpath
      split at hlocate
      · exact ⟨_, hlocate, by simp⟩
      · rename_i hlong
        exact absurd ⟨by simpa using hnul, by omega, by omega⟩ hadmits

theorem ensure_of_vacant (h : fs.locate path = .ok (.vacant place))
    (missing : Unit → Except IoFault Unit × FileSystem) :
    fs.ensure path missing = (.ok (), fs.put place .directory) := by
  unfold ensure makeDirectory
  rw [h]
  rfl

theorem ensure_of_error {fault : IoFault} (h : fs.locate path = .error fault)
    (hfault : fault ≠ .notFound) (missing : Unit → Except IoFault Unit × FileSystem) :
    fs.ensure path missing = (.error fault, fs) := by
  have hmake : fs.makeDirectory path = .error fault := by
    unfold makeDirectory
    rw [h]
    rfl
  have hdirectory : fs.isDirectory path = false := by
    unfold isDirectory
    rw [h]
  unfold ensure
  rw [hmake, hdirectory]
  cases fault with
  | notFound => exact absurd rfl hfault
  | _ => rfl

theorem keepsDirectories_put (hplace : place ≠ []) :
    fs.KeepsDirectories (fs.put place .directory) := by
  intro q hq
  rw [get?_put hplace]
  split
  · rfl
  · exact hq

/-- A directory that could be made in a directory is there, and nothing else has changed. -/
theorem makeDirectories_join {dir name : String}
    (hdir : fs.locate dir = .ok (.existing place .directory)) (hname : Path.IsEntryName name)
    (hvacant : fs.get? (place ++ [name]) = none)
    (h : fs.makeDirectories (Path.join dir name) = (.ok (), fs')) :
    fs' = fs.put (place ++ [name]) .directory ∧
      fs'.locate (Path.join dir name) = .ok (.existing (place ++ [name]) .directory) := by
  obtain ⟨-, hempty, -, -⟩ := walk_of_locate hdir
  have hplace : place ++ [name] ≠ [] := by simp
  unfold makeDirectories makeAll at h
  rw [if_neg (Path.join_ne_empty hempty hname)] at h
  by_cases hadmits : Admits dir name
  · have hlocate := (leadsTo_join hdir hname hadmits).located
    rw [targetAt_of_none hvacant] at hlocate
    rw [ensure_of_vacant hlocate] at h
    obtain rfl : fs.put (place ++ [name]) .directory = fs' := (Prod.mk.inj h).2
    have hdir' := (keepsDirectories_put hplace).locate rfl hdir
    refine ⟨rfl, ?_⟩
    rw [(leadsTo_join hdir' hname hadmits).located, targetAt_of_some (get?_put_self hplace)]
  · obtain ⟨fault, hlocate, hfault⟩ := locate_join_of_not_admits hdir hname hadmits
    rw [ensure_of_error hlocate hfault] at h
    cases (Prod.mk.inj h).1

end FileSystem

end IssueTrace
