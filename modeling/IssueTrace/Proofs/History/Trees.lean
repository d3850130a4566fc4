import IssueTrace.History.Snapshot
import IssueTrace.Proofs.Storage.Pieces
import Mathlib.Data.List.Infix

/-!
# Files in a snapshot

A snapshot holds a set of files when its leaves are these files and there is no empty directory in
it.  Then a plain path leads to something exactly if a file lies at it or below it.  For every set of
files of which none lies below another there is such a snapshot.
-/

namespace IssueTrace.History

open IssueTrace.Path (IsPlain pieces)

namespace Node

@[simp]
theorem at?_nil (n : Node) : n.at? [] = some n := by
  rw [at?]

@[simp]
theorem at?_leaf_cons (l : Leaf) (name : String) (rest : List String) :
    (Node.leaf l).at? (name :: rest) = none := by
  rw [at?]

theorem at?_directory_cons (entries : List (String × Node)) (name : String)
    (rest : List String) : (Node.directory entries).at? (name :: rest) =
      (entries.lookup name).bind fun n => n.at? rest := by
  rw [at?]

theorem at?_append (n : Node) (names rest : List String) :
    n.at? (names ++ rest) = (n.at? names).bind fun m => m.at? rest := by
  induction names generalizing n with
  | nil => simp
  | cons name names ih =>
      cases n with
      | leaf l => simp
      | directory entries =>
          rw [List.cons_append, at?_directory_cons, at?_directory_cons]
          cases entries.lookup name with
          | none => rfl
          | some m => exact ih m

end Node

namespace Snapshot

/-- A plain path is looked up piece by piece. -/
theorem find?_eq_at? (s : Snapshot) {path : String} (h : IsPlain path) :
    s.find? path = (Node.directory s.entries).at? (pieces path) := by
  have hnames : namesOf path = (pieces path, false) := by
    have hlast : (pieces path).getLast? ≠ some "" := by
      intro hlast
      exact h "" (List.mem_of_getLast? hlast) rfl
    have hpieces : (Path.piecesFrom [] path.toList).map String.ofList = pieces path := rfl
    unfold namesOf
    rw [hpieces]
    split
    · rename_i hnil
      rw [hnil]
    · rename_i name hname
      rw [hname]
    · rw [if_neg hlast]
  unfold find?
  rw [hnames]
  cases hfound : (Node.directory s.entries).at? (pieces path) with
  | none => simp [hfound]
  | some n =>
      cases n with
      | leaf l => simp [hfound]
      | directory entries => simp [hfound]

theorem leaf?_eq_some_iff {s : Snapshot} {names : List String} {l : Leaf} :
    s.leaf? names = some l ↔ (Node.directory s.entries).at? names = some (.leaf l) := by
  unfold leaf?
  split
  · rename_i own hown
    simp [hown]
  · rename_i hnone
    constructor
    · intro h
      cases h
    · intro h
      exact absurd h (hnone l)

/-! ## Snapshots of files -/

/-- The leaves of the snapshot are the given files, and every directory in it leads to one of
them. -/
structure Holds (s : Snapshot) (files : List (String × String)) : Prop where
  leaf_of_file : ∀ path text, files.lookup path = some text →
    ∃ mode, s.leaf? (pieces path) = some (.file mode (Text.encode text))
  file_of_leaf : ∀ names l, s.leaf? names = some l →
    ∃ path text mode, files.lookup path = some text ∧ pieces path = names ∧
      l = .file mode (Text.encode text)
  inhabited : ∀ names entries, names ≠ [] →
    (Node.directory s.entries).at? names = some (.directory entries) →
      ∃ rest l, s.leaf? (names ++ rest) = some l

variable {s : Snapshot} {files : List (String × String)} {path : String}

/-- Something stands at a plain path exactly if a file lies at it or below it. -/
theorem Holds.isSome_find?_iff (h : s.Holds files) (hpath : IsPlain path) :
    (s.find? path).isSome = true ↔
      ∃ file text more, files.lookup file = some text ∧ pieces file = pieces path ++ more := by
  rw [s.find?_eq_at? hpath]
  constructor
  · intro hsome
    obtain ⟨n, hn⟩ := Option.isSome_iff_exists.mp hsome
    have hbelow : ∃ rest l, s.leaf? (pieces path ++ rest) = some l := by
      cases n with
      | leaf l => exact ⟨[], l, by rw [List.append_nil]; exact leaf?_eq_some_iff.mpr hn⟩
      | directory entries => exact h.inhabited _ entries (Path.pieces_ne_nil path) hn
    obtain ⟨rest, l, hleaf⟩ := hbelow
    obtain ⟨file, text, mode, hfile, hpieces, -⟩ := h.file_of_leaf _ l hleaf
    exact ⟨file, text, rest, hfile, hpieces⟩
  · rintro ⟨file, text, more, hfile, hpieces⟩
    obtain ⟨mode, hleaf⟩ := h.leaf_of_file file text hfile
    rw [hpieces, leaf?_eq_some_iff, Node.at?_append] at hleaf
    obtain ⟨n, hn, -⟩ := Option.bind_eq_some_iff.mp hleaf
    rw [hn]
    rfl

/-- The file at a plain path. -/
theorem Holds.file?_eq (h : s.Holds files) (hpath : IsPlain path) :
    s.file? path = (files.lookup path).map Text.encode := by
  unfold file?
  rw [s.find?_eq_at? hpath]
  cases hfile : files.lookup path with
  | some text =>
      obtain ⟨mode, hleaf⟩ := h.leaf_of_file path text hfile
      rw [leaf?_eq_some_iff.mp hleaf]
      rfl
  | none =>
      have hnone : ∀ l, (Node.directory s.entries).at? (pieces path) ≠ some (.leaf l) := by
        intro l hl
        obtain ⟨own, text, mode, hown, hpieces, -⟩ :=
          h.file_of_leaf _ l (leaf?_eq_some_iff.mpr hl)
        rw [Path.pieces_inj.mp hpieces, hfile] at hown
        cases hown
      split
      · rename_i mode bytes hfound
        exact absurd hfound (hnone _)
      · rfl

/-! ## Putting files into a snapshot -/

theorem lookup_setEntry (name : String) (n : Node) (entries : List (String × Node))
    (other : String) : (setEntry name n entries).lookup other =
      if other = name then some n else entries.lookup other := by
  unfold setEntry
  rw [List.lookup_cons]
  by_cases hother : other = name
  · simp [hother]
  · have hbeq : (other == name) = false := by simpa using hother
    rw [hbeq, if_neg hother]
    dsimp only
    induction entries with
    | nil => rfl
    | cons e entries ih =>
        obtain ⟨key, m⟩ := e
        by_cases hkey : key = name
        · have hne : (other == key) = false := by simpa [hkey] using hother
          rw [List.filter_cons_of_neg (by simpa using hkey), ih, List.lookup_cons, hne]
        · rw [List.filter_cons_of_pos (by simpa using hkey), List.lookup_cons, List.lookup_cons, ih]

/-- The entries of the directory under a name, none if there is no directory. -/
def entriesBelow (entries : List (String × Node)) (name : String) : List (String × Node) :=
  match entries.lookup name with
  | some (.directory below) => below
  | _ => []

theorem putIn_cons (name : String) {rest : List String} (hrest : rest ≠ []) (l : Leaf)
    (entries : List (String × Node)) : putIn (name :: rest) l entries =
      setEntry name (.directory (putIn rest l (entriesBelow entries name))) entries := by
  cases rest with
  | nil => exact absurd rfl hrest
  | cons next rest => rfl

/-- The leaf stands at the end of its names, and nothing stands behind it. -/
theorem at?_putIn_append {names : List String} (hnames : names ≠ []) (l : Leaf)
    (entries : List (String × Node)) (rest : List String) :
    (Node.directory (putIn names l entries)).at? (names ++ rest) = (Node.leaf l).at? rest := by
  induction names generalizing entries with
  | nil => exact absurd rfl hnames
  | cons name names ih =>
      by_cases hlast : names = []
      · rw [hlast, putIn, List.singleton_append, Node.at?_directory_cons, lookup_setEntry,
          if_pos rfl]
        rfl
      · rw [putIn_cons name hlast, List.cons_append, Node.at?_directory_cons, lookup_setEntry,
          if_pos rfl]
        exact ih hlast _

/-- On the way to the leaf there are directories. -/
theorem at?_putIn_of_front {names rest : List String} (hrest : rest ≠ []) (l : Leaf)
    (entries : List (String × Node)) :
    ∃ below, (Node.directory (putIn (names ++ rest) l entries)).at? names =
      some (.directory below) := by
  induction names generalizing entries with
  | nil => exact ⟨_, Node.at?_nil _⟩
  | cons name names ih =>
      rw [List.cons_append, putIn_cons name (by simp [hrest]), Node.at?_directory_cons,
        lookup_setEntry, if_pos rfl]
      exact ih _

/-- Names that go another way lead to what they led to. -/
theorem at?_putIn_of_apart {names other : List String} (l : Leaf)
    (entries : List (String × Node)) (hbehind : ¬ names <+: other) (hbefore : ¬ other <+: names) :
    (Node.directory (putIn names l entries)).at? other = (Node.directory entries).at? other := by
  induction names generalizing entries other with
  | nil => exact absurd List.nil_prefix hbehind
  | cons name names ih =>
      cases other with
      | nil => exact absurd List.nil_prefix hbefore
      | cons first other =>
          rw [Node.at?_directory_cons]
          by_cases hfirst : first = name
          · subst hfirst
            have hbehind' : ¬ names <+: other := fun h =>
              hbehind (List.cons_prefix_cons.mpr ⟨rfl, h⟩)
            have hbefore' : ¬ other <+: names := fun h =>
              hbefore (List.cons_prefix_cons.mpr ⟨rfl, h⟩)
            have hnames : names ≠ [] := by
              rintro rfl
              exact hbehind' List.nil_prefix
            have hother : other ≠ [] := by
              rintro rfl
              exact hbefore' List.nil_prefix
            rw [putIn_cons first hnames, Node.at?_directory_cons, lookup_setEntry, if_pos rfl]
            change (Node.directory (putIn names l (entriesBelow entries first))).at? other = _
            rw [ih _ hbehind' hbefore']
            obtain ⟨next, rest, rfl⟩ := List.exists_cons_of_ne_nil hother
            unfold entriesBelow
            cases entries.lookup first with
            | none => rfl
            | some m =>
                cases m with
                | leaf own => rfl
                | directory below => rfl
          · have hlookup : (putIn (name :: names) l entries).lookup first =
                entries.lookup first := by
              by_cases hlast : names = []
              · rw [hlast, putIn, lookup_setEntry, if_neg hfirst]
              · rw [putIn_cons name hlast, lookup_setEntry, if_neg hfirst]
            rw [Node.at?_directory_cons, hlookup]

/-- Neither path lies at or below the other. -/
def Apart (path other : String) : Prop :=
  ¬ pieces path <+: pieces other ∧ ¬ pieces other <+: pieces path

instance (path other : String) : Decidable (Apart path other) :=
  inferInstanceAs (Decidable (_ ∧ _))

theorem leaf?_put_self {l : Leaf} (hpath : IsPlain path) :
    (s.put path l).leaf? (pieces path) = some l := by
  have hfound := at?_putIn_append (Path.pieces_ne_nil path) l s.entries []
  rw [List.append_nil, Node.at?_nil] at hfound
  unfold put
  rw [hpath.names_eq]
  exact leaf?_eq_some_iff.mpr hfound

theorem leaf?_put_of_apart {l : Leaf} (hpath : IsPlain path) {names : List String}
    (hbehind : ¬ pieces path <+: names) (hbefore : ¬ names <+: pieces path) :
    (s.put path l).leaf? names = s.leaf? names := by
  unfold put leaf?
  rw [hpath.names_eq, at?_putIn_of_apart l s.entries hbehind hbefore]

/-- What is looked up after a leaf was put: the leaf, a directory on the way to it, or what was there
before. -/
theorem at?_put_cases {l : Leaf} (hpath : IsPlain path) {names : List String} {n : Node}
    (h : (Node.directory (s.put path l).entries).at? names = some n) :
    (names = pieces path ∧ n = .leaf l) ∨
    (∃ rest below, names ++ rest = pieces path ∧ n = .directory below) ∨
    (¬ pieces path <+: names ∧ ¬ names <+: pieces path ∧
      (Node.directory s.entries).at? names = some n) := by
  unfold Snapshot.put at h
  rw [hpath.names_eq] at h
  by_cases hbehind : pieces path <+: names
  · obtain ⟨rest, rfl⟩ := hbehind
    rw [at?_putIn_append (Path.pieces_ne_nil path)] at h
    cases rest with
    | nil =>
        rw [Node.at?_nil, Option.some.injEq] at h
        exact .inl ⟨List.append_nil _, h.symm⟩
    | cons next rest => simp at h
  · by_cases hbefore : names <+: pieces path
    · obtain ⟨rest, hrest⟩ := hbefore
      have hne : rest ≠ [] := by
        rintro rfl
        rw [List.append_nil] at hrest
        exact hbehind (hrest ▸ List.prefix_rfl)
      obtain ⟨below, hbelow⟩ := @at?_putIn_of_front names rest hne l s.entries
      rw [← hrest, hbelow, Option.some.injEq] at h
      exact .inr (.inl ⟨rest, below, hrest, h.symm⟩)
    · rw [at?_putIn_of_apart l s.entries hbehind hbefore] at h
      exact .inr (.inr ⟨hbehind, hbefore, h⟩)

/-- A snapshot of files takes one more file, if it lies apart from them. -/
theorem Holds.put (h : s.Holds files) (hpath : IsPlain path) (text : String)
    (hapart : ∀ f ∈ files, Apart path f.1) :
    (s.put path (.file .plain (Text.encode text))).Holds ((path, text) :: files) := by
  have hother : ∀ file own, files.lookup file = some own → Apart path file := by
    intro file own hown
    obtain ⟨before, behind, rfl, -⟩ := List.lookup_eq_some_iff.mp hown
    exact hapart (file, own) (by simp)
  have hkept : ∀ file own, files.lookup file = some own →
      ((path, text) :: files).lookup file = some own := by
    intro file own hown
    have hne : (file == path) = false := by
      rw [beq_eq_false_iff_ne]
      rintro rfl
      exact (hother file own hown).1 List.prefix_rfl
    rw [List.lookup_cons, hne]
    exact hown
  constructor
  case leaf_of_file =>
    intro file own hown
    rw [List.lookup_cons] at hown
    by_cases hfile : file = path
    · subst hfile
      obtain rfl : text = own := by simpa using hown
      exact ⟨.plain, leaf?_put_self hpath⟩
    · have hbeq : (file == path) = false := by simpa using hfile
      rw [hbeq] at hown
      obtain ⟨mode, hleaf⟩ := h.leaf_of_file file own hown
      have hways := hother file own hown
      exact ⟨mode, by rwa [leaf?_put_of_apart hpath hways.1 hways.2]⟩
  case file_of_leaf =>
    intro names l hl
    rcases at?_put_cases hpath (leaf?_eq_some_iff.mp hl) with ⟨rfl, hown⟩ | ⟨rest, below, -, hn⟩ |
      ⟨-, -, hold⟩
    · obtain rfl := Node.leaf.inj hown
      exact ⟨path, text, .plain, by simp, rfl, rfl⟩
    · cases hn
    · obtain ⟨file, own, mode, hown, hpieces, hleaf⟩ :=
        h.file_of_leaf names l (leaf?_eq_some_iff.mpr hold)
      exact ⟨file, own, mode, hkept file own hown, hpieces, hleaf⟩
  case inhabited =>
    intro names entries hnames hfound
    rcases at?_put_cases hpath hfound with ⟨-, hn⟩ | ⟨rest, below, hrest, -⟩ |
      ⟨hbehind, hbefore, hold⟩
    · cases hn
    · exact ⟨rest, _, by rw [hrest]; exact leaf?_put_self hpath⟩
    · obtain ⟨rest, l, hl⟩ := h.inhabited names entries hnames hold
      refine ⟨rest, l, ?_⟩
      rwa [leaf?_put_of_apart hpath]
      · intro hfront
        rcases List.prefix_or_prefix_of_prefix hfront (List.prefix_append names rest) with hp | hp
        · exact hbehind hp
        · exact hbefore hp
      · intro hfront
        exact hbefore ((List.prefix_append names rest).trans hfront)

/-- Plain paths of which none lies at or below another. -/
structure IsFileSet (files : List (String × String)) : Prop where
  plain : ∀ f ∈ files, IsPlain f.1
  apart : files.Pairwise fun f g => Apart f.1 g.1

/-- The snapshot with the given files. -/
def ofFiles (files : List (String × String)) : Snapshot :=
  files.foldr (fun f s => s.put f.1 (.file .plain (Text.encode f.2))) {}

/-- Every set of files has a snapshot. -/
theorem holds_ofFiles (h : IsFileSet files) : (ofFiles files).Holds files := by
  obtain ⟨hplain, hapart⟩ := h
  induction files with
  | nil =>
      have hnone : ∀ names, names ≠ [] → (Node.directory []).at? names = none := by
        intro names hnames
        obtain ⟨name, rest, rfl⟩ := List.exists_cons_of_ne_nil hnames
        rfl
      constructor
      · intro path text h
        cases h
      · intro names l hl
        rw [leaf?_eq_some_iff] at hl
        by_cases hnames : names = []
        · simp [hnames] at hl
        · change (Node.directory []).at? names = _ at hl
          rw [hnone names hnames] at hl
          cases hl
      · intro names entries hnames hfound
        change (Node.directory []).at? names = _ at hfound
        rw [hnone names hnames] at hfound
        cases hfound
  | cons f files ih =>
      obtain ⟨hfirst, hrest⟩ := List.pairwise_cons.mp hapart
      have hbelow := ih (fun g hg => hplain g (List.mem_cons_of_mem f hg)) hrest
      exact hbelow.put (hplain f List.mem_cons_self) f.2 hfirst

end Snapshot

end IssueTrace.History
