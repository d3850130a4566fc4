import IssueTrace.History.Store
import IssueTrace.Proofs.Storage.QueryFiles
import IssueTrace.Repository.Memory

/-!
# The directory of the query files

When the query files of a map are written to an empty directory, the directory holds one file for each
link to a commit that the repository knows, and nothing else.  A commit that is not known leaves a gap
among the positions and a note in the journal.
-/

namespace IssueTrace

/-- The repository has the commit. -/
def Repository.knows (repo : Repository) (id : CommitId) : Bool := (repo.commit id).isOk

theorem Repository.knows_of_ok {repo : Repository} {id : CommitId} {c : Commit}
    (h : repo.commit id = .ok c) : repo.knows id = true := by
  rw [knows, h]
  rfl

theorem Repository.knows_of_error {repo : Repository} {id : CommitId} {failure : Failure}
    (h : repo.commit id = .error failure) : repo.knows id = false := by
  rw [knows, h]
  rfl

/-- The repository refuses commits with a fault of its store, and with nothing else. -/
def Repository.RefusesByFault (repo : Repository) : Prop :=
  ∀ id failure, repo.commit id = .error failure → ∃ fault, failure = .git fault

theorem MemoryRepository.refusesByFault (r : MemoryRepository) :
    r.toRepository.RefusesByFault := by
  intro id failure h
  unfold MemoryRepository.toRepository at h
  dsimp only at h
  split at h
  · cases h
  · exact ⟨_, (Except.error.inj h).symm⟩

theorem History.refusesByFault (h : History) : h.toRepository.RefusesByFault := by
  intro id failure hcommit
  change (h.record id).map Record.commit = _ at hcommit
  unfold record at hcommit
  split at hcommit
  · cases hcommit
  · exact ⟨_, (Except.error.inj hcommit).symm⟩

theorem Journal.counts_foldl_note_git (journal : Journal) (faults : List GitFault) :
    ((faults.map Failure.git).foldl Journal.note journal).counts =
      { journal.counts with otherErrors := journal.counts.otherErrors + faults.length } := by
  induction faults generalizing journal with
  | nil => rfl
  | cons fault faults ih =>
      rw [List.map_cons, List.foldl_cons, ih, List.length_cons, Nat.add_comm faults.length,
        ← Nat.add_assoc]
      rfl

namespace Queries

variable {repo : Repository} {dir issue : String} {k : Nat} {id : CommitId}
  {place : List String} {p p' start : Progress} {done rest : List (String × Nat × CommitId)}

/-! ## The links of a map -/

theorem mem_links_iff {map : IssueMap} {link : String × Nat × CommitId} :
    link ∈ links map ↔ (map.commits link.1)[link.2.1]? = some link.2.2 := by
  obtain ⟨issue, k, id⟩ := link
  have hentry : (issue, k, id) ∈ links map ↔
      ∃ ids, (issue, ids) ∈ map.entries ∧ ids[k]? = some id := by
    unfold links
    simp [List.mem_zipIdx_iff_getElem?]
  rw [hentry]
  constructor
  · rintro ⟨ids, he, hid⟩
    have hids : map.commits issue = ids := IssueMap.commits_of_mem he
    rwa [hids]
  · intro hid
    have hkey : issue ∈ map.entries.map Prod.fst := by
      by_contra hnot
      rw [IssueMap.commits_of_not_mem hnot] at hid
      cases hid
    obtain ⟨⟨own, ids⟩, he, rfl⟩ := List.mem_map.mp hkey
    have hids : map.commits own = ids := IssueMap.commits_of_mem he
    exact ⟨ids, he, hids ▸ hid⟩

theorem countP_links (map : IssueMap) (test : CommitId → Bool) :
    (links map).countP (fun link => test link.2.2) =
      (map.entries.map fun e => e.2.countP test).sum := by
  unfold links
  rw [List.countP_flatMap]
  congr 1
  apply List.map_congr_left
  intro e _
  rw [Function.comp_apply, List.countP_map]
  conv_rhs => rw [← List.zipIdx_map_fst 0 e.2, List.countP_map]
  rfl

/-! ## What has been written -/

/-- The failures with which the commits of links are refused. -/
def refusals (repo : Repository) (links : List (String × Nat × CommitId)) : List Failure :=
  links.filterMap fun link =>
    match repo.commit link.2.2 with
    | .ok _ => none
    | .error failure => some failure

/-- The files of the links that are done stand in the directory, and no others. -/
structure Lists (repo : Repository) (place : List String)
    (done : List (String × Nat × CommitId)) (start p : Progress) : Prop where
  written_eq : p.written = start.written + done.countP fun link => repo.knows link.2.2
  journal_eq : p.journal = (refusals repo done).foldl Journal.note start.journal
  get?_iff : ∀ names entry, names ≠ [] →
    (p.files.get? (place ++ names) = some entry ↔
      ∃ link ∈ done, ∃ c, repo.commit link.2.2 = .ok c ∧ names = [fileOf link] ∧
        entry = .file (.text (fileText c)))
  elsewhere : ∀ q, ¬ place <+: q → p.files.get? q = start.files.get? q

namespace Lists

theorem nil (repo : Repository) (hempty : ∀ names, names ≠ [] → p.files.get? (place ++ names) = none) :
    Lists repo place [] p p where
  written_eq := rfl
  journal_eq := rfl
  get?_iff names entry hnames := by simp [hempty names hnames]
  elsewhere _ _ := rfl

/-- Only files that may be written stand in the way of a file. -/
theorem get?_eq_map_file (h : Lists repo place done start p) (name : String) :
    ∃ before : Option Content, p.files.get? (place ++ [name]) = before.map .file := by
  cases hget : p.files.get? (place ++ [name]) with
  | none => exact ⟨none, rfl⟩
  | some entry =>
      obtain ⟨link, -, c, -, -, hentry⟩ := (h.get?_iff [name] entry (by simp)).mp hget
      exact ⟨some (.text (fileText c)), by rw [hentry]; rfl⟩

theorem concat_of_error {failure : Failure} (h : Lists repo place done start p)
    (hcommit : repo.commit id = .error failure) :
    Lists repo place (done ++ [(issue, k, id)]) start
      { p with journal := p.journal.note failure } where
  written_eq := by
    rw [List.countP_append, List.countP_singleton, Repository.knows_of_error hcommit]
    exact h.written_eq
  journal_eq := by
    have hrefused : refusals repo (done ++ [(issue, k, id)]) = refusals repo done ++ [failure] := by
      simp [refusals, hcommit]
    rw [hrefused, List.foldl_append, ← h.journal_eq]
    rfl
  get?_iff names entry hnames := by
    rw [h.get?_iff names entry hnames]
    simp [or_and_right, exists_or, hcommit]
  elsewhere := h.elsewhere

theorem concat_of_ok {c : Commit} {files : FileSystem} (h : Lists repo place done start p)
    (hcommit : repo.commit id = .ok c)
    (hnew : fileName issue k ∉ done.map fileOf)
    (hfiles : files = p.files.put (place ++ [fileName issue k]) (.file (.text (fileText c)))) :
    Lists repo place (done ++ [(issue, k, id)]) start
      { p with written := p.written + 1, files } where
  written_eq := by
    rw [List.countP_append, List.countP_singleton, Repository.knows_of_ok hcommit, if_pos rfl,
      ← Nat.add_assoc, ← h.written_eq]
  journal_eq := by
    have hrefused : refusals repo (done ++ [(issue, k, id)]) = refusals repo done := by
      simp [refusals, hcommit]
    rw [hrefused]
    exact h.journal_eq
  get?_iff names entry hnames := by
    have hplace : place ++ [fileName issue k] ≠ [] := by simp
    subst hfiles
    dsimp only
    rw [FileSystem.get?_put hplace]
    by_cases hown : names = [fileName issue k]
    · have hothers : ∀ link ∈ done, fileOf link ≠ fileName issue k := by
        intro link hlink heq
        exact hnew (heq ▸ List.mem_map_of_mem hlink)
      rw [if_pos (by rw [hown]), Option.some.injEq]
      constructor
      · rintro rfl
        exact ⟨(issue, k, id), by simp, c, hcommit, hown, rfl⟩
      · rintro ⟨link, hlink, c', hc', hname, rfl⟩
        rw [List.mem_append, List.mem_singleton] at hlink
        rcases hlink with hlink | rfl
        · rw [hown] at hname
          exact absurd (List.cons.inj hname).1.symm (hothers link hlink)
        · rw [hcommit] at hc'
          rw [Except.ok.inj hc']
    · rw [if_neg (by simpa using hown), h.get?_iff names entry hnames]
      have hlast : fileOf (issue, k, id) = fileName issue k := rfl
      simp [or_and_right, exists_or, hlast, hown]
  elsewhere q hq := by
    subst hfiles
    rw [FileSystem.get?_put_of_ne (by simp), h.elsewhere q hq]
    rintro rfl
    exact hq (List.prefix_append place _)

/-- One more link: its file is written if its commit is known. -/
theorem step (id : CommitId) (h : Lists repo place done start p)
    (hdir : p.files.locate dir = .ok (.existing place .directory)) (hissue : '/' ∉ issue.toList)
    (hadmits : FileSystem.Admits dir (fileName issue k))
    (hnew : fileName issue k ∉ done.map fileOf) :
    ∃ p', writeOne repo dir issue p k id = .ok p' ∧
      Lists repo place (done ++ [(issue, k, id)]) start p' := by
  cases hcommit : repo.commit id with
  | error failure => exact ⟨_, writeOne_of_error hcommit, h.concat_of_error hcommit⟩
  | ok c =>
      have hleads := FileSystem.leadsTo_join hdir (isEntryName_fileName hissue) hadmits
      obtain ⟨before, hget⟩ := h.get?_eq_map_file (fileName issue k)
      have hopen := hleads.openForWriting hget
      exact ⟨_, (writeOne_eq_ok_iff hcommit).mpr
        ⟨_, FileSystem.write_eq_ok_iff.mpr ⟨_, before, hopen, rfl⟩, rfl⟩,
        h.concat_of_ok hcommit hnew rfl⟩

/-- All links that are left, one after another. -/
theorem run (h : Lists repo place done start p)
    (hdir : p.files.locate dir = .ok (.existing place .directory))
    (hissues : ∀ link ∈ rest, '/' ∉ link.1.toList)
    (hadmits : ∀ link ∈ rest, FileSystem.Admits dir (fileOf link))
    (hnodup : ((done ++ rest).map fileOf).Nodup) :
    ∃ p', writeLinks repo dir rest p = (.ok (), p') ∧
      Lists repo place (done ++ rest) start p' := by
  induction rest generalizing done p with
  | nil => exact ⟨p, rfl, by rwa [List.append_nil]⟩
  | cons link rest ih =>
      obtain ⟨issue, k, id⟩ := link
      have hissue := hissues _ List.mem_cons_self
      have hnew : fileName issue k ∉ done.map fileOf := by
        intro hmem
        rw [List.map_append, List.nodup_append] at hnodup
        exact hnodup.2.2 _ hmem _ (List.mem_map_of_mem List.mem_cons_self) rfl
      obtain ⟨p₁, hone, hlists⟩ := h.step id hdir hissue (hadmits _ List.mem_cons_self) hnew
      obtain ⟨p', hrest, hdone⟩ := ih hlists ((writeOne_grows hdir hissue hone).locate hdir)
        (fun l hl => hissues l (List.mem_cons_of_mem _ hl))
        (fun l hl => hadmits l (List.mem_cons_of_mem _ hl))
        (by rwa [List.append_assoc, List.singleton_append])
      refine ⟨p', writeLinks_cons_eq_ok.mpr ⟨p₁, hone, hrest⟩, ?_⟩
      rwa [List.append_assoc, List.singleton_append] at hdone

end Lists

/-- A repository that refuses commits with faults of its store has other errors counted only, one for
each refusal. -/
theorem counts_refusals (hfault : repo.RefusesByFault) (journal : Journal)
    (links : List (String × Nat × CommitId)) :
    ((refusals repo links).foldl Journal.note journal).counts =
      { journal.counts with
        otherErrors := journal.counts.otherErrors +
          links.countP fun link => !repo.knows link.2.2 } := by
  have hfaults : ∃ faults : List GitFault, refusals repo links = faults.map .git ∧
      faults.length = links.countP fun link => !repo.knows link.2.2 := by
    induction links with
    | nil => exact ⟨[], rfl, rfl⟩
    | cons link links ih =>
        obtain ⟨faults, hfaults, hlength⟩ := ih
        cases hcommit : repo.commit link.2.2 with
        | ok c =>
            refine ⟨faults, by simpa [refusals, hcommit] using hfaults, ?_⟩
            simp [hlength, Repository.knows_of_ok hcommit]
        | error failure =>
            obtain ⟨fault, rfl⟩ := hfault _ _ hcommit
            refine ⟨fault :: faults, by simpa [refusals, hcommit] using hfaults, ?_⟩
            simp [hlength, Repository.knows_of_error hcommit]
  obtain ⟨faults, hfaults, hlength⟩ := hfaults
  rw [hfaults, Journal.counts_foldl_note_git, hlength]

/-! ## The files of a map -/

/-- Writing the files of a map to an empty directory succeeds if the names can be names of files, and
gives as many as there are links to known commits.  Then the directory holds just the file of each of
these, under a name that tells the issue and the position among all its commits, and nothing elsewhere
has changed.  Each commit that is not known is counted once, among the other errors. -/
theorem write_lists_known (repo : Repository) (map : IssueMap) (journal : Journal)
    {fs : FileSystem} {dir : String} {place : List String}
    (hdir : fs.locate dir = .ok (.existing place .directory))
    (hempty : ∀ names, names ≠ [] → fs.get? (place ++ names) = none)
    (hissues : ∀ issue ∈ map.entries.map Prod.fst, '/' ∉ issue.toList)
    (hadmits : ∀ (issue : String) (i : Nat) (id : CommitId), (map.commits issue)[i]? = some id →
      FileSystem.Admits dir (issue ++ "_description_" ++ toString i ++ ".txt")) :
    ∃ journal' fs',
      write repo map dir journal fs =
        (.ok (map.entries.map fun e => e.2.countP repo.knows).sum, journal', fs') ∧
      (∀ names entry, names ≠ [] →
        (fs'.get? (place ++ names) = some entry ↔
          ∃ (issue : String) (i : Nat) (id : CommitId) (c : Commit),
            (map.commits issue)[i]? = some id ∧ repo.commit id = .ok c ∧
            names = [issue ++ "_description_" ++ toString i ++ ".txt"] ∧
            entry = .file (.text (c.summary ++ "\n" ++ c.message)))) ∧
      (∀ issue issue' : String, ∀ i i' : Nat,
        issue ++ "_description_" ++ toString i ++ ".txt" =
          issue' ++ "_description_" ++ toString i' ++ ".txt" → issue = issue' ∧ i = i') ∧
      (∀ q, ¬ place <+: q → fs'.get? q = fs.get? q) ∧
      (repo.RefusesByFault → journal'.counts =
        { journal.counts with
          otherErrors := journal.counts.otherErrors +
            (map.entries.map fun e => e.2.countP fun id => !repo.knows id).sum }) := by
  have hfiles : ∀ link ∈ links map, FileSystem.Admits dir (fileOf link) :=
    fun link hlink => hadmits _ _ _ (mem_links_iff.mp hlink)
  have hstart : Lists repo place [] ⟨0, journal, fs⟩ ⟨0, journal, fs⟩ := .nil repo hempty
  obtain ⟨p, hwrite, hlists⟩ := hstart.run hdir (no_slash_of_mem_links hissues) hfiles
    (nodup_fileOf_links map)
  rw [List.nil_append] at hlists
  refine ⟨p.journal, p.files, ?_, ?_, fun _ _ _ _ => fileName_inj.mp, hlists.elsewhere, ?_⟩
  · have hcount : p.written = (map.entries.map fun e => e.2.countP repo.knows).sum := by
      rw [hlists.written_eq, countP_links, Nat.zero_add]
    rw [← hcount]
    exact write_eq_ok_iff.mpr ⟨fs, FileSystem.makeDirectories_of_directory hdir, hwrite⟩
  · intro names entry hnames
    rw [hlists.get?_iff names entry hnames]
    constructor
    · rintro ⟨link, hlink, c, hcommit, hname, hentry⟩
      exact ⟨link.1, link.2.1, link.2.2, c, mem_links_iff.mp hlink, hcommit, hname, hentry⟩
    · rintro ⟨issue, i, id, c, hid, hcommit, hname, hentry⟩
      exact ⟨(issue, i, id), mem_links_iff.mpr hid, c, hcommit, hname, hentry⟩
  · intro hfault
    rw [hlists.journal_eq, counts_refusals hfault,
      countP_links map fun id => !repo.knows id]

/-- An empty directory. -/
def bareDirectory : FileSystem := ⟨[(["q"], .directory)], []⟩

def missingId : CommitId := ⟨"0000000000000000000000000000000000000000"⟩

def plainCommit : Commit := ⟨⟨"1111111111111111111111111111111111111111"⟩, "fix #7\n\nSee there.", []⟩

def twoCommits : MemoryRepository := MemoryRepository.addCommit {} plainCommit

/-- The first commit of the issue is not known, and another issue reads like the name of a file. -/
def gapMap : IssueMap :=
  (((∅ : IssueMap).insert "7" missingId).insert "7" plainCommit.id).insert "7_description_1"
    plainCommit.id

/-- The position of the missing commit is a gap, and the issues do not share a file. -/
theorem write_lists_known_of_gap :
    ∃ journal fs',
      write twoCommits.toRepository gapMap "q" {} bareDirectory = (.ok 2, journal, fs') ∧
        fs'.get? ["q", "7_description_0.txt"] = none ∧
        fs'.get? ["q", "7_description_1.txt"] =
          some (.file (.text "fix #7\nfix #7\n\nSee there.")) ∧
        (fs'.get? ["q", "7_description_1_description_0.txt"]).isSome = true ∧
        journal.counts = { otherErrors := 1 } := by
  have hempty : ∀ names, names ≠ [] → bareDirectory.get? (["q"] ++ names) = none := by
    intro names hnames
    obtain ⟨name, rest, rfl⟩ := List.exists_cons_of_ne_nil hnames
    simp [bareDirectory, FileSystem.get?]
  have hlinks : ∀ link ∈ links gapMap, FileSystem.Admits "q" (fileOf link) := by
    have hlist : links gapMap = [("7", 0, missingId), ("7", 1, plainCommit.id),
        ("7_description_1", 0, plainCommit.id)] := by decide +kernel
    rw [hlist]
    intro link hlink
    simp only [List.mem_cons, List.not_mem_nil, or_false] at hlink
    rcases hlink with rfl | rfl | rfl
    all_goals exact ⟨by decide +kernel, by decide +kernel, by decide +kernel⟩
  have hdir : bareDirectory.locate "q" = .ok (.existing ["q"] .directory) := by decide +kernel
  obtain ⟨journal, fs', hwrite, hiff, hinj, -, hcounts⟩ :=
    write_lists_known twoCommits.toRepository gapMap {} hdir hempty (by decide +kernel)
      fun issue i id hid => hlinks (issue, i, id) (mem_links_iff.mpr hid)
  have hcommit : twoCommits.toRepository.commit plainCommit.id = .ok plainCommit := by
    decide +kernel
  refine ⟨journal, fs', ?_, ?_, ?_, ?_, ?_⟩
  · rw [hwrite]
    congr 2
  · by_contra hget
    obtain ⟨entry, hentry⟩ := Option.ne_none_iff_exists'.mp hget
    obtain ⟨issue, i, id, c, hid, hknown, hname, -⟩ := (hiff _ entry (by simp)).mp hentry
    obtain ⟨rfl, rfl⟩ := hinj "7" issue 0 i (List.cons.inj hname).1
    have hmissing : (gapMap.commits "7")[0]? = some missingId := by decide +kernel
    obtain rfl : missingId = id := Option.some.inj (hmissing.symm.trans hid)
    have hrefused : twoCommits.toRepository.commit missingId =
        .error (.git (.unknownCommit missingId)) := by decide +kernel
    rw [hrefused] at hknown
    cases hknown
  · exact (hiff _ _ (by simp)).mpr
      ⟨"7", 1, plainCommit.id, plainCommit, by decide +kernel, hcommit, rfl, by decide +kernel⟩
  · rw [Option.isSome_iff_exists]
    exact ⟨_, (hiff _ _ (by simp)).mpr
      ⟨"7_description_1", 0, plainCommit.id, plainCommit, by decide +kernel, hcommit, rfl, rfl⟩⟩
  · rw [hcounts twoCommits.refusesByFault]
    decide +kernel

end Queries

end IssueTrace
