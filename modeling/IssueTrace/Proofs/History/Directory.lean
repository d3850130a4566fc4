import IssueTrace.History.Directory
import IssueTrace.Proofs.History.Leaves
import IssueTrace.Proofs.Text.WellFormed

/-!
# What can be read of a stored tree

A snapshot has what is stored under names that are texts.  A path finds in it what is stored at the
bytes of its names, and where the stored tree is sound so is the snapshot.
-/

namespace IssueTrace.History

open IssueTrace.Path (pieces)

namespace StoredNode

variable {entries : List (List UInt8 × StoredNode)} {text : String} {n : StoredNode}

/-! ## Stored trees -/

/-- The byte of a slash. -/
def slash : UInt8 := 47

/-- In each stored directory no name stands twice, and none is empty or has a slash. -/
inductive IsSound : StoredNode → Prop
  | leaf (l : Leaf) : IsSound (.leaf l)
  | directory {entries : List (List UInt8 × StoredNode)} (nodup : (entries.map Prod.fst).Nodup)
      (steps : ∀ e ∈ entries, slash ∉ e.1 ∧ e.1 ≠ []) (below : ∀ e ∈ entries, IsSound e.2) :
      IsSound (.directory entries)

/-- What is stored at the end of names. -/
def at? : StoredNode → List (List UInt8) → Option StoredNode
  | n, [] => some n
  | .leaf _, _ :: _ => none
  | .directory entries, name :: rest => (entries.lookup name).bind fun n => n.at? rest

/-- The leaf at a path below a root directory. -/
def leafAt? (entries : List (List UInt8 × StoredNode)) (path : String) : Option Leaf :=
  match (directory entries).at? ((pieces path).map Text.encode) with
  | some (.leaf l) => some l
  | _ => none

/-! ## The readable part -/

theorem lookup_readableEntries (entries : List (List UInt8 × StoredNode)) (text : String) :
    (readableEntries entries).lookup text = (entries.lookup (Text.encode text)).map readable := by
  induction entries with
  | nil => rw [readableEntries]; rfl
  | cons e entries ih =>
      obtain ⟨name, n⟩ := e
      rw [readableEntries, List.lookup_cons]
      cases hname : Text.decode? name with
      | some own =>
          have hbytes := Text.decode?_eq_some_iff.mp hname
          dsimp only
          rw [List.lookup_cons, ih, ← hbytes]
          by_cases hown : text = own
          · simp [hown]
          · have hbeq : (text == own) = false := by simpa using hown
            have hbeq' : (Text.encode text == Text.encode own) = false := by
              simpa [Text.encode_inj] using hown
            rw [hbeq, hbeq']
      | none =>
          have hne : Text.encode text ≠ name := by
            intro heq
            rw [Text.decode?_eq_some_iff.mpr heq] at hname
            cases hname
          have hbeq : (Text.encode text == name) = false := by simpa using hne
          rw [hbeq]
          exact ih

theorem at?_readable (n : StoredNode) (names : List String) :
    n.readable.at? names = (n.at? (names.map Text.encode)).map readable := by
  induction names generalizing n with
  | nil => rw [Node.at?_nil, List.map_nil, at?, Option.map_some]
  | cons name names ih =>
      cases n with
      | leaf l => rw [readable, Node.at?_leaf_cons, List.map_cons, at?, Option.map_none]
      | directory entries =>
          rw [readable, Node.at?_directory_cons, lookup_readableEntries, List.map_cons, at?]
          cases entries.lookup (Text.encode name) with
          | none => rfl
          | some m => exact ih m

theorem leaf?_ofStored (entries : List (List UInt8 × StoredNode)) (path : String) :
    (Snapshot.ofStored entries).leaf? (pieces path) = leafAt? entries path := by
  have hroot : Node.directory (Snapshot.ofStored entries).entries = (directory entries).readable := by
    rw [readable]
    rfl
  unfold Snapshot.leaf? leafAt?
  rw [hroot, at?_readable]
  cases (directory entries).at? ((pieces path).map Text.encode) with
  | none => rfl
  | some n =>
      cases n with
      | leaf l => rw [Option.map_some, readable]
      | directory entries => rw [Option.map_some, readable]

theorem exists_mem_of_mem_readableEntries {e : String × Node} (he : e ∈ readableEntries entries) :
    ∃ n, (Text.encode e.1, n) ∈ entries ∧ e.2 = n.readable := by
  induction entries with
  | nil => simp [readableEntries] at he
  | cons first entries ih =>
      obtain ⟨name, n⟩ := first
      have hlater (h : e ∈ readableEntries entries) :
          ∃ n', (Text.encode e.1, n') ∈ (name, n) :: entries ∧ e.2 = n'.readable :=
        (ih h).imp fun n' h => ⟨List.mem_cons_of_mem _ h.1, h.2⟩
      rw [readableEntries] at he
      split at he
      · rename_i own hname
        rcases List.mem_cons.mp he with rfl | he
        · rw [Text.decode?_eq_some_iff.mp hname]
          exact ⟨n, List.mem_cons_self, rfl⟩
        · exact hlater he
      · exact hlater he

theorem nodup_readableEntries (h : (entries.map Prod.fst).Nodup) :
    ((readableEntries entries).map Prod.fst).Nodup := by
  induction entries with
  | nil => simp [readableEntries]
  | cons first entries ih =>
      obtain ⟨name, n⟩ := first
      rw [List.map_cons, List.nodup_cons] at h
      rw [readableEntries]
      split
      · rename_i own hname
        rw [List.map_cons, List.nodup_cons]
        refine ⟨?_, ih h.2⟩
        intro hmem
        obtain ⟨e, he, rfl⟩ := List.mem_map.mp hmem
        obtain ⟨n', hn', -⟩ := exists_mem_of_mem_readableEntries he
        rw [Text.decode?_eq_some_iff.mp hname] at hn'
        exact h.1 (List.mem_map.mpr ⟨(name, n'), hn', rfl⟩)
      · exact ih h.2

theorem slash_mem_encode {name : String} (h : '/' ∈ name.toList) : slash ∈ Text.encode name := by
  rw [Text.encode_eq_flatMap]
  exact List.mem_flatMap.mpr ⟨'/', h, by decide⟩

theorem IsSound.readable (h : n.IsSound) : n.readable.IsSound := by
  induction h with
  | leaf l =>
      rw [StoredNode.readable]
      exact .leaf l
  | directory hnodup hsteps hbelow ih =>
      rw [StoredNode.readable]
      refine .directory (nodup_readableEntries hnodup) ?_ ?_
      · intro e he
        obtain ⟨n, hn, -⟩ := exists_mem_of_mem_readableEntries he
        obtain ⟨hslash, hne⟩ := hsteps _ hn
        refine ⟨fun hmem => hslash (slash_mem_encode hmem), ?_⟩
        intro hempty
        rw [hempty] at hne
        exact hne rfl
      · intro e he
        obtain ⟨n, hn, hread⟩ := exists_mem_of_mem_readableEntries he
        rw [hread]
        exact ih _ hn

theorem IsSound.ofStored (h : (StoredNode.directory entries).IsSound) :
    (Snapshot.ofStored entries).IsSound := by
  have hreadable := h.readable
  rw [StoredNode.readable] at hreadable
  exact hreadable

end StoredNode

end IssueTrace.History
