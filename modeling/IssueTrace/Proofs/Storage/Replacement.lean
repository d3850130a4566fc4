import IssueTrace.Proofs.Storage.Writing

/-!
# What stands in the way

Two file systems with the same entries cannot be told apart by reading and writing.  Whatever stands
at a place can be replaced, together with all below it, by a text or by nothing; everything else
stays as it is.
-/

namespace IssueTrace.FileSystem

variable {fs fs' : FileSystem} {place q : List String} {path text : String} {found : Option String}

/-! ## The same entries -/

/-- The same stands at every place. -/
structure SameEntries (fs fs' : FileSystem) : Prop where
  workDir_eq : fs'.workDir = fs.workDir
  get?_eq : ∀ place, fs'.get? place = fs.get? place

namespace SameEntries

theorem refl (fs : FileSystem) : SameEntries fs fs := ⟨rfl, fun _ => rfl⟩

theorem walk_eq (h : SameEntries fs fs') (place names : List String) :
    fs'.walk place names = fs.walk place names := by
  induction names generalizing place with
  | nil =>
      rw [walk_nil, walk_nil, targetAt, targetAt, h.get?_eq]
  | cons name names ih =>
      have hchild : fs'.child place name = fs.child place name := by
        rw [child, child, h.get?_eq, h.get?_eq]
      rw [walk_cons, walk_cons, hchild]
      simp only [ih]

theorem locate_eq (h : SameEntries fs fs') (path : String) : fs'.locate path = fs.locate path := by
  rw [locate, locate, h.workDir_eq, h.walk_eq]

theorem readText_eq (h : SameEntries fs fs') (path : String) :
    fs'.readText path = fs.readText path := by
  rw [readText, readText, h.locate_eq]

theorem put (h : SameEntries fs fs') (hplace : place ≠ []) (entry : Entry) :
    SameEntries (fs.put place entry) (fs'.put place entry) where
  workDir_eq := h.workDir_eq
  get?_eq q := by rw [get?_put hplace, get?_put hplace, h.get?_eq]

/-- A file is extended to the same effect, or for the same reason it is not. -/
theorem append_cases (h : SameEntries fs fs') (path text : String) :
    (∃ fault, fs.append path text = .error fault ∧ fs'.append path text = .error fault) ∨
      ∃ done done', fs.append path text = .ok done ∧ fs'.append path text = .ok done' ∧
        SameEntries done done' := by
  have hopen : fs'.openForWriting path = fs.openForWriting path := by
    rw [openForWriting, openForWriting, h.locate_eq]
  cases hfound : fs.openForWriting path with
  | error fault =>
      have hfails : ∀ own : FileSystem, own.openForWriting path = .error fault →
          own.append path text = .error fault := by
        intro own hown
        rw [append, hown]
        rfl
      exact .inl ⟨fault, hfails fs hfound, hfails fs' (hopen.trans hfound)⟩
  | ok found =>
      obtain ⟨place, before⟩ := found
      have hplace := ne_nil_of_get?_ne (get?_ne_directory (openForWriting_eq_ok hfound).2)
      exact .inr ⟨_, _, append_eq_ok_iff.mpr ⟨place, before, hfound, rfl⟩,
        append_eq_ok_iff.mpr ⟨place, before, hopen.trans hfound, rfl⟩, h.put hplace _⟩

end SameEntries

/-! ## Another file in place of what stands in the way -/

/-- The file system with a text at a place, or nothing, instead of what stands there and below. -/
def replaced (fs : FileSystem) (q : List String) (found : Option String) : FileSystem :=
  { fs with
    entries := (found.toList.map fun s => (q, .file (.text s))) ++
      fs.entries.filter fun e => !q.isPrefixOf e.1 }

theorem get?_replaced (hq : q ≠ []) (place : List String) :
    (fs.replaced q found).get? place =
      if place = q then found.map fun s => .file (.text s)
      else if q <+: place then none else fs.get? place := by
  cases place with
  | nil =>
      rw [if_neg hq.symm, if_neg (by simpa using hq)]
      rfl
  | cons name names =>
      have hrest := lookup_filter (fun p => !q.isPrefixOf p) fs.entries (q := name :: names)
      unfold get? replaced
      dsimp only
      rw [List.lookup_append, hrest]
      by_cases hplace : name :: names = q
      · have hprefix : q.isPrefixOf (name :: names) = true :=
          List.isPrefixOf_iff_prefix.mpr (hplace ▸ List.prefix_refl _)
        rw [if_pos hplace, hprefix, hplace]
        cases found with
        | none => rfl
        | some s => simp
      · have hfile : (found.toList.map fun s => (q, Entry.file (.text s))).lookup (name :: names) =
            none := by
          cases found with
          | none => rfl
          | some s => simp [List.lookup_cons, beq_eq_false_iff_ne.mpr hplace]
        rw [if_neg hplace, hfile, Option.none_or]
        by_cases hprefix : q <+: name :: names
        · rw [if_pos hprefix, List.isPrefixOf_iff_prefix.mpr hprefix]
          rfl
        · have hbeq : q.isPrefixOf (name :: names) = false := by
            rwa [← Bool.not_eq_true, List.isPrefixOf_iff_prefix]
          rw [if_neg hprefix, hbeq]
          rfl

theorem get?_replaced_self (hq : q ≠ []) :
    (fs.replaced q found).get? q = found.map fun s => .file (.text s) := by
  rw [get?_replaced hq, if_pos rfl]

/-- Nothing changes but at the place and below it. -/
theorem get?_replaced_of_not_prefix (hq : q ≠ []) (h : ¬ q <+: place) :
    (fs.replaced q found).get? place = fs.get? place := by
  have hne : place ≠ q := by
    rintro rfl
    exact h (List.prefix_refl _)
  rw [get?_replaced hq, if_neg hne, if_neg h]

/-- What is put elsewhere may be put before or after. -/
theorem replaced_put (hq : q ≠ []) (hplace : place ≠ []) (h : ¬ q <+: place) (entry : Entry) :
    SameEntries ((fs.replaced q found).put place entry) ((fs.put place entry).replaced q found) where
  workDir_eq := rfl
  get?_eq p := by
    rw [get?_put hplace]
    by_cases hp : p = place
    · rw [if_pos hp, hp, get?_replaced_of_not_prefix hq h, get?_put_self hplace]
    · rw [if_neg hp, get?_replaced hq, get?_replaced hq, get?_put_of_ne hplace hp]

end IssueTrace.FileSystem
