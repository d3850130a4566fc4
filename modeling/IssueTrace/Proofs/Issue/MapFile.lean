import IssueTrace.Issue.MapFile
import IssueTrace.Proofs.Issue.CommitIds
import IssueTrace.Proofs.Issue.References
import IssueTrace.Proofs.Storage.Writing
import IssueTrace.Proofs.Text.Lines

/-!
# Keeping issue maps in files

A map that arises from commits, single links or texts has a line of words for each issue: its number
and at least one full id.  Such lines are read back into the map that they were written from, so a
map that was saved is loaded without a warning, and saving what was loaded changes nothing.
-/

namespace IssueTrace.IssueMap

open Text (IsWord)

/-! ## Entries that can be written -/

/-- An entry that can be written: the issue is one word, and it has commits, all with full ids. -/
structure IsWritable (e : String × List CommitId) : Prop where
  word : IsWord e.1.toList
  ne_nil : e.2 ≠ []
  full : ∀ id ∈ e.2, id.IsFull

/-- Entering a full id for an issue that is one word keeps entries such that they can be written. -/
theorem isWritable_of_mem_place {issue : String} {id : CommitId} (hissue : IsWord issue.toList)
    (hid : id.IsFull) {entries : List (String × List CommitId)}
    (hentries : ∀ e ∈ entries, IsWritable e) : ∀ e ∈ place issue id entries, IsWritable e := by
  have hnew : IsWritable (issue, [id]) := by
    refine ⟨hissue, by simp, ?_⟩
    intro other hother
    obtain rfl := List.mem_singleton.mp hother
    exact hid
  induction entries with
  | nil =>
      intro e he
      obtain rfl := List.mem_singleton.mp he
      exact hnew
  | cons first rest ih =>
      obtain ⟨key, ids⟩ := first
      have hfirst := hentries (key, ids) List.mem_cons_self
      have hrest : ∀ e ∈ rest, IsWritable e := by
        intro e he
        exact hentries e (List.mem_cons_of_mem _ he)
      intro e he
      rw [place] at he
      split at he
      · rcases List.mem_cons.mp he with rfl | he
        · exact hnew
        · exact hentries e he
      · split at he
        · rcases List.mem_cons.mp he with rfl | he
          · exact hfirst
          · exact ih hrest e he
        · rcases List.mem_cons.mp he with rfl | he
          · refine ⟨hfirst.word, by simp, ?_⟩
            intro other hother
            rcases List.mem_append.mp hother with hother | hother
            · exact hfirst.full other hother
            · obtain rfl := List.mem_singleton.mp hother
              exact hid
          · exact hrest e he

/-- All entries of a map can be written. -/
def CanBeWritten (m : IssueMap) : Prop := ∀ e ∈ m.entries, IsWritable e

theorem canBeWritten_empty : CanBeWritten ∅ := by
  intro e he
  cases he

theorem CanBeWritten.insert {m : IssueMap} (hm : m.CanBeWritten) {issue : String} {id : CommitId}
    (hissue : IsWord issue.toList) (hid : id.IsFull) : (m.insert issue id).CanBeWritten :=
  isWritable_of_mem_place hissue hid hm

theorem canBeWritten_ofCommits {commits : List Commit} (pattern : IssuePattern)
    (hids : ∀ c ∈ commits, c.id.IsFull) : (ofCommits commits pattern).CanBeWritten := by
  unfold ofCommits
  refine List.foldlRecOn commits _ canBeWritten_empty ?_
  intro m hm c hc
  cases hissue : pattern.issueId? c.message with
  | none => exact hm
  | some issue => exact hm.insert (IssuePattern.isWord_of_issueId? hissue) (hids c hc)

theorem canBeWritten_readIds {issue : String} (hissue : IsWord issue.toList)
    (words : List (List Char)) {state : IssueMap × List String} (hm : state.1.CanBeWritten) :
    (readIds issue state words).1.CanBeWritten := by
  unfold readIds
  refine List.foldlRecOn (motive := fun state : IssueMap × List String => state.1.CanBeWritten)
    words _ hm ?_
  intro state hm word _
  dsimp only
  cases hid : CommitId.ofText? (String.ofList word) with
  | none => exact hm
  | some id => exact hm.insert hissue (CommitId.isFull_of_ofText? hid)

theorem canBeWritten_readLine (line : List Char) {state : IssueMap × List String}
    (hm : state.1.CanBeWritten) : (readLine state line).1.CanBeWritten := by
  unfold readLine
  split
  · exact hm
  · rename_i issue ids hwords
    have hissue : IsWord (String.ofList issue).toList := by
      have hmem : issue ∈ Text.words line := by simp [hwords]
      rw [String.toList_ofList]
      exact Text.isWord_of_mem_words hmem
    exact canBeWritten_readIds hissue ids hm

theorem canBeWritten_read (text : String) : (read text).1.CanBeWritten := by
  unfold read
  refine List.foldlRecOn (motive := fun state : IssueMap × List String => state.1.CanBeWritten)
    (Text.lines text.toList) _ canBeWritten_empty ?_
  intro state hm line _
  exact canBeWritten_readLine line hm

theorem load_eq_ok {fs : FileSystem} {path : String} {m : IssueMap} {warnings : List String}
    (h : load fs path = .ok (m, warnings)) :
    ∃ text, fs.readText path = .ok text ∧ read text = (m, warnings) := by
  unfold load at h
  cases htext : fs.readText path with
  | error fault => simp [htext, Except.map] at h
  | ok text =>
      rw [htext] at h
      exact ⟨text, rfl, Except.ok.inj h⟩

/-- The maps that arise from the empty one by linking commits, singly or by their messages, and by
loading files with any texts. -/
inductive Arises : IssueMap → Prop
  | empty : Arises ∅
  | ofCommits {commits : List Commit} {pattern : IssuePattern} :
      (∀ c ∈ commits, c.id.IsFull) → Arises (ofCommits commits pattern)
  | insert {m : IssueMap} {issue : String} {id : CommitId} :
      Arises m → IsWord issue.toList → id.IsFull → Arises (m.insert issue id)
  | load {fs : FileSystem} {path : String} {m : IssueMap} {warnings : List String} :
      load fs path = .ok (m, warnings) → Arises m

theorem Arises.canBeWritten {m : IssueMap} (h : Arises m) : m.CanBeWritten := by
  induction h with
  | empty => exact canBeWritten_empty
  | ofCommits hids => exact canBeWritten_ofCommits _ hids
  | insert _ hissue hid ih => exact ih.insert hissue hid
  | load hload =>
      obtain ⟨text, -, hread⟩ := load_eq_ok hload
      have hwritten := canBeWritten_read text
      rwa [hread] at hwritten

/-! ## The line of an entry -/

/-- The characters of the line of an entry. -/
def lineOf (e : String × List CommitId) : List Char :=
  e.1.toList ++ (e.2.map fun id => id.hex.toList).flatMap (' ' :: ·)

theorem toList_renderEntry (e : String × List CommitId) :
    (renderEntry e).toList = lineOf e ++ ['\n'] := by
  have hids : ∀ ids : List CommitId, (String.join (ids.map fun id => " " ++ id.hex)).toList =
      (ids.map fun id => id.hex.toList).flatMap (' ' :: ·) := by
    intro ids
    induction ids with
    | nil => rfl
    | cons id ids ih =>
        rw [List.map_cons, String.join_cons, String.toList_append, ih]
        simp
  unfold renderEntry lineOf
  rw [String.toList_append, String.toList_append, hids]
  rfl

theorem IsWritable.not_mem_lineOf {e : String × List CommitId} (he : IsWritable e) {c : Char}
    (hblank : Text.isBlank c = true) (hc : c ≠ ' ') : c ∉ lineOf e := by
  have hword : ∀ {x : List Char}, IsWord x → c ∉ x := by
    intro x hx hmem
    rw [hx.not_blank c hmem] at hblank
    cases hblank
  intro hmem
  unfold lineOf at hmem
  rcases List.mem_append.mp hmem with hmem | hmem
  · exact hword he.word hmem
  · obtain ⟨word, hid, hmem⟩ := List.mem_flatMap.mp hmem
    obtain ⟨id, hmemId, rfl⟩ := List.mem_map.mp hid
    rcases List.mem_cons.mp hmem with rfl | hmem
    · exact hc rfl
    · exact hword (he.full id hmemId).isWord hmem

theorem IsWritable.words_lineOf {e : String × List CommitId} (he : IsWritable e) :
    Text.words (lineOf e) = e.1.toList :: e.2.map fun id => id.hex.toList := by
  apply Text.words_append_flatMap he.word
  intro word hword
  obtain ⟨id, hid, rfl⟩ := List.mem_map.mp hword
  exact (he.full id hid).isWord

theorem lines_render {entries : List (String × List CommitId)}
    (hentries : ∀ e ∈ entries, IsWritable e) :
    Text.lines (String.join (entries.map renderEntry)).toList = entries.map lineOf := by
  induction entries with
  | nil => rfl
  | cons e rest ih =>
      have he := hentries e List.mem_cons_self
      have hreturn : (lineOf e).getLast? ≠ some '\r' := by
        intro hlast
        exact he.not_mem_lineOf (by decide) (by decide) (List.mem_of_getLast? hlast)
      rw [List.map_cons, String.join_cons, String.toList_append, toList_renderEntry,
        List.append_assoc, List.singleton_append,
        Text.lines_append_lineFeed (he.not_mem_lineOf (by decide) (by decide)) hreturn,
        ih fun e he => hentries e (List.mem_cons_of_mem _ he)]
      rfl

/-! ## Reading lines back -/

theorem place_concat_self {entries : List (String × List CommitId)} {issue : String}
    (hbelow : ∀ e ∈ entries, e.1 < issue) (ids : List CommitId) (id : CommitId) :
    place issue id (entries ++ [(issue, ids)]) = entries ++ [(issue, ids ++ [id])] := by
  induction entries with
  | nil => simp [place]
  | cons e rest ih =>
      have he : e.1 < issue := hbelow e List.mem_cons_self
      have hrest := ih fun e he => hbelow e (List.mem_cons_of_mem _ he)
      obtain ⟨key, own⟩ := e
      rw [List.cons_append, place, if_neg (String.lt_asymm he), if_pos he, hrest]
      rfl

theorem place_of_below {entries : List (String × List CommitId)} {issue : String}
    (hbelow : ∀ e ∈ entries, e.1 < issue) (id : CommitId) :
    place issue id entries = entries ++ [(issue, [id])] := by
  induction entries with
  | nil => rfl
  | cons e rest ih =>
      have he : e.1 < issue := hbelow e List.mem_cons_self
      have hrest := ih fun e he => hbelow e (List.mem_cons_of_mem _ he)
      obtain ⟨key, own⟩ := e
      rw [place, if_neg (String.lt_asymm he), if_pos he, hrest]
      rfl

theorem readIds_cons {issue : String} (state : IssueMap × List String) {id : CommitId}
    (hid : id.IsFull) (words : List (List Char)) :
    readIds issue state (id.hex.toList :: words) =
      readIds issue (state.1.insert issue id, state.2) words := by
  unfold readIds
  rw [List.foldl_cons]
  dsimp only
  rw [String.ofList_toList, hid.ofText?_hex]

theorem readIds_of_last {entries : List (String × List CommitId)} {issue : String}
    (hbelow : ∀ e ∈ entries, e.1 < issue) {ids : List CommitId} (hids : ∀ id ∈ ids, id.IsFull)
    {before : List CommitId} (state : IssueMap × List String)
    (hstate : state.1.entries = entries ++ [(issue, before)]) :
    (readIds issue state (ids.map fun id => id.hex.toList)).1.entries =
        entries ++ [(issue, before ++ ids)] ∧
      (readIds issue state (ids.map fun id => id.hex.toList)).2 = state.2 := by
  induction ids generalizing before state with
  | nil =>
      rw [List.append_nil]
      exact ⟨hstate, rfl⟩
  | cons id ids ih =>
      have hinsert : (state.1.insert issue id).entries = entries ++ [(issue, before ++ [id])] := by
        change place issue id state.1.entries = _
        rw [hstate]
        exact place_concat_self hbelow before id
      have hrest := ih (fun other hother => hids other (List.mem_cons_of_mem _ hother))
        (state.1.insert issue id, state.2) hinsert
      rw [List.map_cons, readIds_cons state (hids id List.mem_cons_self)]
      rwa [List.append_assoc] at hrest

theorem readLine_lineOf {e : String × List CommitId} (he : IsWritable e)
    {state : IssueMap × List String} (hbelow : ∀ other ∈ state.1.entries, other.1 < e.1) :
    (readLine state (lineOf e)).1.entries = state.1.entries ++ [e] ∧
      (readLine state (lineOf e)).2 = state.2 := by
  obtain ⟨issue, ids⟩ := e
  have hline : readLine state (lineOf (issue, ids)) =
      readIds issue state (ids.map fun id => id.hex.toList) := by
    unfold readLine
    rw [he.words_lineOf]
    dsimp only
    rw [String.ofList_toList]
  rw [hline]
  cases ids with
  | nil => exact absurd rfl he.ne_nil
  | cons id ids =>
      have hinsert : (state.1.insert issue id).entries = state.1.entries ++ [(issue, [id])] :=
        place_of_below hbelow id
      rw [List.map_cons, readIds_cons state (he.full id List.mem_cons_self)]
      exact readIds_of_last hbelow
        (fun other hother => he.full other (List.mem_cons_of_mem _ hother))
        (state.1.insert issue id, state.2) hinsert

/-- The lines of ascending entries are read back behind smaller ones. -/
theorem foldl_readLine_lineOf {entries : List (String × List CommitId)}
    (hentries : ∀ e ∈ entries, IsWritable e) (state : IssueMap × List String)
    (hascending : ((state.1.entries ++ entries).map Prod.fst).Pairwise (· < ·)) :
    ((entries.map lineOf).foldl readLine state).1.entries = state.1.entries ++ entries ∧
      ((entries.map lineOf).foldl readLine state).2 = state.2 := by
  induction entries generalizing state with
  | nil =>
      rw [List.append_nil]
      exact ⟨rfl, rfl⟩
  | cons e rest ih =>
      have hbelow : ∀ other ∈ state.1.entries, other.1 < e.1 := by
        intro other hother
        rw [List.map_append, List.pairwise_append] at hascending
        exact hascending.2.2 other.1 (List.mem_map_of_mem hother) e.1 (by simp)
      obtain ⟨hread, hwarnings⟩ := readLine_lineOf (hentries e List.mem_cons_self) hbelow
      have hrest : ((((readLine state (lineOf e)).1.entries) ++ rest).map Prod.fst).Pairwise
          (· < ·) := by
        rw [hread, List.append_assoc]
        exact hascending
      obtain ⟨hall, hsame⟩ :=
        ih (fun other hother => hentries other (List.mem_cons_of_mem _ hother)) _ hrest
      rw [List.map_cons, List.foldl_cons, hall, hsame, hread, hwarnings, List.append_assoc]
      exact ⟨rfl, rfl⟩

theorem eq_of_entries_eq {m m' : IssueMap} (h : m.entries = m'.entries) : m = m' := by
  obtain ⟨entries, hascending⟩ := m
  obtain ⟨entries', hascending'⟩ := m'
  obtain rfl : entries = entries' := h
  rfl

/-- What is written is read back, without a warning. -/
theorem CanBeWritten.read_render {m : IssueMap} (hm : m.CanBeWritten) :
    read m.render = (m, []) := by
  obtain ⟨hentries, hwarnings⟩ :=
    foldl_readLine_lineOf hm (∅, []) m.ascending
  unfold read render
  rw [lines_render hm]
  exact Prod.ext (eq_of_entries_eq hentries) hwarnings

/-! ## Files -/

/-- A map that was saved is loaded, and saving it again writes the same text. -/
theorem CanBeWritten.load_of_save {m : IssueMap} (hm : m.CanBeWritten) {fs fs' : FileSystem}
    {path : String} (h : m.save fs path = .ok fs') :
    load fs' path = .ok (m, []) ∧
      ∃ fs'', m.save fs' path = .ok fs'' ∧ fs''.readText path = fs'.readText path := by
  have hread := FileSystem.readText_of_write h
  obtain ⟨fs'', hsave⟩ := FileSystem.exists_write_of_write h m.render
  refine ⟨?_, fs'', hsave, ?_⟩
  · unfold load
    rw [hread]
    exact congrArg Except.ok hm.read_render
  · rw [hread, FileSystem.readText_of_write hsave]

/-- A map that was saved is loaded as it was, without a warning, and saving what was loaded writes
the same text again.  Whatever text a file holds, it is loaded, and what was loaded is loaded once
more without a warning from wherever it is saved.  It can be saved in the place of that text, unless
the file may only be read. -/
theorem load_save_eq :
    (∀ m, Arises m → ∀ (fs : FileSystem) path fs', m.save fs path = .ok fs' →
      load fs' path = .ok (m, []) ∧
        ∃ fs'', m.save fs' path = .ok fs'' ∧ fs''.readText path = fs'.readText path) ∧
    ∀ (fs : FileSystem) path text, fs.readText path = .ok text →
      ∃ m warnings, load fs path = .ok (m, warnings) ∧
        (∀ (other : FileSystem) path' fs', m.save other path' = .ok fs' →
          load fs' path' = .ok (m, [])) ∧
        (¬ fs.IsReadOnly path → ∃ fs', m.save fs path = .ok fs') := by
  constructor
  · intro m hm fs path fs' hsave
    exact hm.canBeWritten.load_of_save hsave
  · intro fs path text htext
    have hload : load fs path = .ok (read text) := by
      unfold load
      rw [htext]
      rfl
    refine ⟨_, _, hload, ?_, ?_⟩
    · intro other path' fs' hsave
      exact ((canBeWritten_read text).load_of_save hsave).1
    · intro hwritable
      exact FileSystem.exists_write_of_readText htext hwritable _

/-- A disk with a map that nobody saved: there is a blank line, a word that is no id, and an id that
is short and in upper case. -/
def roughDisk : FileSystem :=
  { entries := [(["map"], .file (.text "\n5 x AB\r\n\n5 ab\n"))] }

/-- Two issues, one of them with two commits, are loaded as they were saved, and so is what the
rough text holds. -/
theorem load_save_eq_of_two_issues :
    ∃ m fs, Arises m ∧
      m.commits "42" = [⟨"".pushn 'a' 40⟩, ⟨"".pushn 'c' 40⟩] ∧
      m.save {} "/map" = .ok fs ∧ load fs "/map" = .ok (m, []) ∧
      ∃ rough warnings fs', load roughDisk "/map" = .ok (rough, warnings) ∧
        rough.save roughDisk "/map" = .ok fs' ∧ load fs' "/map" = .ok (rough, []) := by
  let m : IssueMap := (((∅ : IssueMap).insert "42" ⟨"".pushn 'a' 40⟩).insert "7"
    ⟨"".pushn 'b' 40⟩).insert "42" ⟨"".pushn 'c' 40⟩
  have hm : Arises m := by
    refine .insert (.insert (.insert .empty ?_ ?_) ?_ ?_) ?_ ?_
    all_goals decide +kernel
  have hcommits : m.commits "42" = [⟨"".pushn 'a' 40⟩, ⟨"".pushn 'c' 40⟩] := by
    decide +kernel
  have hsave : m.save {} "/map" = .ok (FileSystem.put {} ["map"] (.file (.text m.render))) := by
    decide +kernel
  have htext : roughDisk.readText "/map" = .ok "\n5 x AB\r\n\n5 ab\n" := by
    decide +kernel
  have hwritable : ¬ roughDisk.IsReadOnly "/map" := by
    rintro ⟨place, content, hpath, hget⟩
    have hlocated : roughDisk.locate "/map" =
        .ok (.existing ["map"] (.file (.text "\n5 x AB\r\n\n5 ab\n"))) := by
      decide +kernel
    rw [hpath.located, FileSystem.targetAt_of_some hget] at hlocated
    cases hlocated
  obtain ⟨hmaps, htexts⟩ := load_save_eq
  have hown := (hmaps m hm {} "/map" _ hsave).1
  obtain ⟨rough, warnings, hload, hsaves, hplaced⟩ := htexts roughDisk "/map" _ htext
  obtain ⟨fs', hrough⟩ := hplaced hwritable
  exact ⟨m, _, hm, hcommits, hsave, hown, rough, warnings, fs', hload, hrough,
    hsaves roughDisk "/map" fs' hrough⟩

end IssueTrace.IssueMap
