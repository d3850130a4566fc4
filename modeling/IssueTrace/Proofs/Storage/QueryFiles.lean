import IssueTrace.Proofs.Issue.Grouping
import IssueTrace.Proofs.Storage.Growth
import IssueTrace.Storage.Queries

/-!
# Query files

The name of a query file tells the issue and the position of the commit, so no two of the files that
are written for a map are the same.  As long as the commits are known, one file is written for each
of them.
-/

namespace IssueTrace.Queries

open FileSystem (GrowsBelow)

variable {repo : Repository} {dir issue issue' : String} {k k' : Nat} {id : CommitId}
  {place : List String} {p p' : Progress}

/-! ## The names of the files -/

theorem isDigit_of_mem_toString {c : Char} (h : c ∈ (toString k).toList) : c.isDigit = true := by
  change c ∈ k.repr.toList at h
  rw [Nat.toList_repr] at h
  exact Nat.isDigit_of_mem_toDigits (by decide) (by decide) h

theorem isEntryName_fileName (h : '/' ∉ issue.toList) :
    Path.IsEntryName (fileName issue k) := by
  have hlength : ∀ name : String, name.length < 4 → fileName issue k ≠ name := by
    rintro name hshort rfl
    unfold fileName at hshort
    rw [String.length_append] at hshort
    have hending : ".txt".length = 4 := rfl
    omega
  have hdigits : '/' ∉ (toString k).toList := fun hmem =>
    absurd (isDigit_of_mem_toString hmem) (by decide)
  refine ⟨?_, hlength _ (by decide), hlength _ (by decide), hlength _ (by decide)⟩
  unfold fileName
  simp only [String.toList_append, List.mem_append, not_or]
  exact ⟨⟨⟨h, by decide⟩, hdigits⟩, by decide⟩

theorem takeWhile_append_lowLine {x : List Char} (hx : '_' ∉ x) (y : List Char) :
    (x ++ '_' :: y).takeWhile (· != '_') = x := by
  have hall : ∀ c ∈ x, (c != '_') = true := by
    intro c hc
    have hne : c ≠ '_' := by
      rintro rfl
      exact hx hc
    simpa using hne
  rw [List.takeWhile_append_of_pos hall]
  simp

theorem toString_inj : toString k = toString k' ↔ k = k' := by
  constructor
  · intro h
    have hdigits : Nat.toDigits 10 k = Nat.toDigits 10 k' := by
      rw [← Nat.toList_repr, ← Nat.toList_repr]
      exact congrArg String.toList h
    rw [← Nat.ofDigitChars_toDigits (n := k) (by decide : 1 < 10) (by decide), hdigits,
      Nat.ofDigitChars_toDigits (by decide) (by decide)]
  · rintro rfl
    rfl

/-- The name of a file tells the issue and the position, also if the issue looks like the name of a
file: the position begins behind the last low line. -/
theorem fileName_inj : fileName issue k = fileName issue' k' ↔ issue = issue' ∧ k = k' := by
  constructor
  · intro heq
    unfold fileName at heq
    rw [String.append_left_inj] at heq
    have hreversed : ∀ (issue : String) (k : Nat),
        (issue ++ "_description_" ++ toString k).toList.reverse =
          (toString k).toList.reverse ++ '_' :: (issue ++ "_description").toList.reverse := by
      intro issue k
      simp
    have hdigits : ∀ k : Nat, '_' ∉ (toString k).toList.reverse := by
      intro k hmem
      exact absurd (isDigit_of_mem_toString (List.mem_reverse.mp hmem)) (by decide)
    have hboth := congrArg (fun name => name.toList.reverse) heq
    rw [hreversed, hreversed] at hboth
    have hposition : (toString k).toList.reverse = (toString k').toList.reverse := by
      rw [← takeWhile_append_lowLine (hdigits k), hboth, takeWhile_append_lowLine (hdigits k')]
    have hk : toString k = toString k' := String.toList_inj.mp (List.reverse_inj.mp hposition)
    rw [hk, String.append_left_inj, String.append_left_inj] at heq
    exact ⟨heq, toString_inj.mp hk⟩
  · rintro ⟨rfl, rfl⟩
    rfl

/-- The name of the file for a link. -/
def fileOf (link : String × Nat × CommitId) : String := fileName link.1 link.2.1

theorem length_links (map : IssueMap) : (links map).length = map.linkCount := by
  unfold links IssueMap.linkCount
  rw [List.length_flatMap]
  simp

theorem mem_links {map : IssueMap} {link : String × Nat × CommitId} (h : link ∈ links map) :
    ∃ ids, (link.1, ids) ∈ map.entries ∧ link.2.2 ∈ ids := by
  unfold links at h
  obtain ⟨⟨issue, ids⟩, he, hlink⟩ := List.mem_flatMap.mp h
  obtain ⟨⟨id, k⟩, hid, rfl⟩ := List.mem_map.mp hlink
  exact ⟨ids, he, List.fst_mem_of_mem_zipIdx hid⟩

theorem no_slash_of_mem_links {map : IssueMap}
    (h : ∀ issue ∈ map.entries.map Prod.fst, '/' ∉ issue.toList) :
    ∀ link ∈ links map, '/' ∉ link.1.toList := by
  intro link hlink
  obtain ⟨ids, he, -⟩ := mem_links hlink
  exact h link.1 (List.mem_map_of_mem he)

/-- No two of the files for a map have the same name. -/
theorem nodup_fileOf_links (map : IssueMap) : ((links map).map fileOf).Nodup := by
  unfold links
  rw [List.map_flatMap, List.nodup_flatMap]
  constructor
  · intro e _
    have hnames : fileOf ∘ (fun link => (e.1, link.2, link.1)) =
        (fileName e.1 ∘ Prod.snd : CommitId × Nat → String) :=
      rfl
    change (List.map fileOf (e.2.zipIdx.map fun link => (e.1, link.2, link.1))).Nodup
    rw [List.map_map, hnames, ← List.map_map, List.zipIdx_map_snd]
    apply List.Nodup.map
    · intro k k' heq
      exact (fileName_inj.mp heq).2
    · exact List.nodup_range'
  · have hkeys := map.ascending
    rw [List.pairwise_map] at hkeys
    apply hkeys.imp
    intro e e' hlt name hname hname'
    obtain ⟨link, hlink, rfl⟩ := List.mem_map.mp hname
    obtain ⟨link', hlink', heq⟩ := List.mem_map.mp hname'
    obtain ⟨⟨id, k⟩, -, rfl⟩ := List.mem_map.mp hlink
    obtain ⟨⟨id', k'⟩, -, rfl⟩ := List.mem_map.mp hlink'
    rw [(fileName_inj.mp heq).1] at hlt
    exact String.lt_irrefl _ hlt

/-! ## Writing the files -/

theorem writeOne_of_error {failure : Failure} (h : repo.commit id = .error failure) :
    writeOne repo dir issue p k id = .ok { p with journal := p.journal.note failure } := by
  unfold writeOne
  rw [h]

theorem writeOne_eq_ok_iff {c : Commit} (hknown : repo.commit id = .ok c) :
    writeOne repo dir issue p k id = .ok p' ↔
      ∃ files, p.files.write (Path.join dir (fileName issue k)) (fileText c) = .ok files ∧
        p' = { p with written := p.written + 1, files } := by
  unfold writeOne
  rw [hknown]
  cases hwrite : p.files.write (Path.join dir (fileName issue k)) (fileText c) with
  | error fault => simp [hwrite, bind, Except.bind]
  | ok files =>
      simp only [hwrite, bind, Except.bind, pure, Except.pure, Except.ok.injEq, exists_eq_left']
      exact eq_comm

theorem writeOne_of_known {c : Commit}
    (hdir : p.files.locate dir = .ok (.existing place .directory)) (hissue : '/' ∉ issue.toList)
    (hknown : repo.commit id = .ok c) (h : writeOne repo dir issue p k id = .ok p') :
    p'.written = p.written + 1 ∧ p'.journal = p.journal ∧
      p.files.get? (place ++ [fileName issue k]) ≠ some .directory ∧
      p'.files = p.files.put (place ++ [fileName issue k]) (.file (.text (fileText c))) := by
  obtain ⟨files, hwrite, rfl⟩ := (writeOne_eq_ok_iff hknown).mp h
  obtain ⟨-, hdirectory, hfiles⟩ :=
    FileSystem.write_join hdir (isEntryName_fileName hissue) hwrite
  exact ⟨rfl, rfl, hdirectory, hfiles⟩

/-- Writing the file of a commit, known or not, is work in the directory. -/
theorem writeOne_grows
    (hdir : p.files.locate dir = .ok (.existing place .directory)) (hissue : '/' ∉ issue.toList)
    (h : writeOne repo dir issue p k id = .ok p') : GrowsBelow place p.files p'.files := by
  cases hcommit : repo.commit id with
  | error failure =>
      rw [writeOne_of_error hcommit] at h
      rw [← Except.ok.inj h]
      exact .refl place p.files
  | ok c =>
      obtain ⟨-, -, hdirectory, hfiles⟩ := writeOne_of_known hdir hissue hcommit h
      rw [hfiles]
      exact .put_file (List.prefix_append place _) hdirectory _

/-- Writing files for links goes on after each of them. -/
theorem writeLinks_cons_eq_ok {links : List (String × Nat × CommitId)} :
    writeLinks repo dir ((issue, k, id) :: links) p = (.ok (), p') ↔
      ∃ p₁, writeOne repo dir issue p k id = .ok p₁ ∧
        writeLinks repo dir links p₁ = (.ok (), p') := by
  rw [writeLinks]
  cases writeOne repo dir issue p k id with
  | error fault => simp
  | ok p₁ => simp

theorem writeLinks_grows {links : List (String × Nat × CommitId)}
    (hdir : p.files.locate dir = .ok (.existing place .directory))
    (hissues : ∀ l ∈ links, '/' ∉ l.1.toList)
    (h : writeLinks repo dir links p = (.ok (), p')) : GrowsBelow place p.files p'.files := by
  induction links generalizing p with
  | nil =>
      obtain rfl : p = p' := (Prod.mk.inj h).2
      exact .refl place p.files
  | cons link links ih =>
      obtain ⟨issue, k, id⟩ := link
      obtain ⟨p₁, hone, hrest⟩ := writeLinks_cons_eq_ok.mp h
      have hgrows := writeOne_grows hdir (hissues _ List.mem_cons_self) hone
      exact hgrows.trans
        (ih (hgrows.locate hdir) (fun l hl => hissues l (List.mem_cons_of_mem _ hl)) hrest)

/-- One file is written for each link, if the commits are known and the names are new. -/
theorem writeLinks_of_known {links : List (String × Nat × CommitId)}
    (hdir : p.files.locate dir = .ok (.existing place .directory))
    (hissues : ∀ l ∈ links, '/' ∉ l.1.toList)
    (hknown : ∀ l ∈ links, ∃ c, repo.commit l.2.2 = .ok c)
    (hnodup : (links.map fileOf).Nodup)
    (hnew : ∀ l ∈ links, [fileOf l] ∉ p.files.namesBelow place)
    (h : writeLinks repo dir links p = (.ok (), p')) :
    p'.written = p.written + links.length ∧
      (p'.files.namesBelow place).length = (p.files.namesBelow place).length + links.length := by
  induction links generalizing p with
  | nil =>
      obtain rfl : p = p' := (Prod.mk.inj h).2
      exact ⟨rfl, rfl⟩
  | cons link links ih =>
      obtain ⟨issue, k, id⟩ := link
      obtain ⟨p₁, hone, hrest⟩ := writeLinks_cons_eq_ok.mp h
      obtain ⟨c, hc⟩ := hknown _ List.mem_cons_self
      have hissue := hissues _ List.mem_cons_self
      obtain ⟨hwritten, -, -, hfiles⟩ := writeOne_of_known hdir hissue hc hone
      have hdir₁ := (writeOne_grows hdir hissue hone).locate hdir
      have hnames : p₁.files.namesBelow place =
          [fileName issue k] :: p.files.namesBelow place := by
        rw [hfiles]
        exact FileSystem.namesBelow_put_file (hnew _ List.mem_cons_self)
      rw [List.map_cons, List.nodup_cons] at hnodup
      have hnew₁ : ∀ l ∈ links, [fileOf l] ∉ p₁.files.namesBelow place := by
        intro l hl hmem
        rw [hnames] at hmem
        rcases List.mem_cons.mp hmem with heq | hmem
        · have hsame : fileOf l = fileOf (issue, k, id) := (List.cons.inj heq).1
          apply hnodup.1
          rw [← hsame]
          exact List.mem_map_of_mem hl
        · exact hnew l (List.mem_cons_of_mem _ hl) hmem
      obtain ⟨hcount, hlength⟩ := ih hdir₁ (fun l hl => hissues l (List.mem_cons_of_mem _ hl))
        (fun l hl => hknown l (List.mem_cons_of_mem _ hl)) hnodup.2 hnew₁ hrest
      constructor
      · rw [hcount, hwritten, List.length_cons]
        omega
      · rw [hlength, hnames, List.length_cons, List.length_cons]
        omega

/-- The files for a map are written when the directory could be made and then each of them. -/
theorem write_eq_ok_iff {map : IssueMap} {journal journal' : Journal} {fs fs' : FileSystem}
    {n : Nat} :
    write repo map dir journal fs = (.ok n, journal', fs') ↔
      ∃ fs₁, fs.makeDirectories dir = (.ok (), fs₁) ∧
        writeLinks repo dir (links map) ⟨0, journal, fs₁⟩ = (.ok (), ⟨n, journal', fs'⟩) := by
  unfold write
  cases hmake : fs.makeDirectories dir with
  | mk result fs₁ =>
      cases result with
      | error fault => simp
      | ok _ =>
          simp only [Prod.mk.injEq, true_and, exists_eq_left']
          cases hlinks : writeLinks repo dir (links map) ⟨0, journal, fs₁⟩ with
          | mk result p =>
              obtain ⟨written, own, files⟩ := p
              cases result with
              | error fault => simp
              | ok _ => simp

end IssueTrace.Queries
