import IssueTrace.Proofs.Attribution.Entities
import IssueTrace.Proofs.Storage.Files
import IssueTrace.Proofs.Storage.NameLines

/-!
# The record of names in a file

A file records a set of names when it holds each of them on one line, in whatever order they were
added; for the empty set there is no file.  Adding names to a file keeps it a record, now of the
union, and takes nothing of its text away.
-/

namespace IssueTrace.GoldsetStore

open FileSystem (LeadsTo)

variable {fs fs' : FileSystem} {path : String} {place : List String}

/-- What is at the place are the lines of names, or nothing if there are no names. -/
def HoldsLines (fs : FileSystem) (place : List String) (xs : List String) : Prop :=
  fs.get? place = if xs = [] then none else some (.file (.text (linesOf xs)))

/-- The place records a set of names. -/
def Records (fs : FileSystem) (place : List String) (known : NameSet) : Prop :=
  ∃ xs, HoldsLines fs place xs ∧ xs.Nodup ∧ (∀ x ∈ xs, IsName x) ∧ ∀ x, x ∈ xs ↔ x ∈ known

theorem Records.congr {known known' : NameSet} (h : Records fs place known)
    (hget : fs'.get? place = fs.get? place) (hknown : ∀ x, x ∈ known ↔ x ∈ known') :
    Records fs' place known' := by
  obtain ⟨xs, hholds, hnodup, hnames, hmem⟩ := h
  refine ⟨xs, ?_, hnodup, hnames, fun x => (hmem x).trans (hknown x)⟩
  unfold HoldsLines at hholds ⊢
  rw [hget, hholds]

theorem Records.not_directory {known : NameSet} (h : Records fs place known) :
    fs.get? place ≠ some .directory := by
  obtain ⟨xs, hholds, -⟩ := h
  rw [hholds]
  split
  · simp
  · simp

/-! ## Reading -/

theorem HoldsLines.readNames {xs : List String} (h : HoldsLines fs place xs)
    (hpath : LeadsTo fs path place) (hnames : ∀ x ∈ xs, IsName x) :
    readNames fs path = .ok xs := by
  unfold HoldsLines at h
  unfold GoldsetStore.readNames
  by_cases hnil : xs = []
  · rw [if_pos hnil] at h
    rw [hpath.readText_of_none h, hnil]
  · rw [if_neg hnil] at h
    rw [hpath.readText_of_text h]
    exact congrArg Except.ok (namesIn_linesOf hnames)

/-- A record is read as the set that it records. -/
theorem Records.readNames {known : NameSet} (h : Records fs place known)
    (hpath : LeadsTo fs path place) :
    ∃ xs, readNames fs path = .ok xs ∧ NameSet.ofList xs = known := by
  obtain ⟨xs, hholds, -, hnames, hmem⟩ := h
  refine ⟨xs, hholds.readNames hpath hnames, ?_⟩
  apply NameSet.ext
  intro x
  rw [NameSet.mem_ofList, hmem]

theorem readNames_of_error {fault : IoFault} (h : fs.locate path = .error fault)
    (hfault : fault ≠ .notFound) : readNames fs path = .error fault := by
  unfold readNames
  rw [FileSystem.readText_of_error h]
  cases fault with
  | notFound => exact absurd rfl hfault
  | _ => rfl

/-! ## Adding names -/

/-- The names of a set that are not known, in the order of the set. -/
def unknown (known names : NameSet) : List String :=
  names.toList.filter (!known.contains ·)

theorem mem_unknown {known names : NameSet} {x : String} :
    x ∈ unknown known names ↔ x ∈ names ∧ x ∉ known := by
  unfold unknown NameSet.contains
  rw [List.mem_filter]
  simp [NameSet.mem_def]

theorem unknown_eq_nil_of_isEmpty {names : NameSet} (h : names.isEmpty = true) (known : NameSet) :
    unknown known names = [] := by
  rw [List.eq_nil_iff_forall_not_mem]
  intro x hx
  exact NameSet.isEmpty_eq_true_iff.mp h x (mem_unknown.mp hx).1

/-- The program looks the known names up in a list. -/
theorem filter_not_contains_eq_unknown {xs : List String} {known : NameSet}
    (hmem : ∀ x, x ∈ xs ↔ x ∈ known) (names : NameSet) :
    names.toList.filter (!xs.contains ·) = unknown known names := by
  apply List.filter_congr
  intro x _
  have hiff : xs.contains x = known.contains x := by
    rw [Bool.eq_iff_iff, List.contains_iff_mem, hmem, NameSet.contains, List.contains_iff_mem]
    rfl
  rw [hiff]

theorem unknown_nodup (known names : NameSet) : (unknown known names).Nodup := by
  have hnodup : names.toList.Nodup := names.ascending.imp fun h => String.ne_of_lt h
  exact hnodup.filter _

/-- What is at a place stays as it is, or it is a file whose text goes on behind what it was. -/
def Continues (fs fs' : FileSystem) (place : List String) : Prop :=
  ∀ entry, fs.get? place = some entry →
    fs'.get? place = some entry ∨
      ∃ s t, entry = .file (.text s) ∧ fs'.get? place = some (.file (.text (s ++ t)))

theorem Continues.trans {fs'' : FileSystem} (h : Continues fs fs' place)
    (h' : Continues fs' fs'' place) : Continues fs fs'' place := by
  intro entry hentry
  rcases h entry hentry with hsame | ⟨s, t, rfl, hlonger⟩
  · exact h' entry hsame
  · rcases h' (.file (.text (s ++ t))) hlonger with hsame | ⟨s', t', htext, hlonger'⟩
    · exact .inr ⟨s, t, rfl, hsame⟩
    · obtain rfl := Content.text.inj (Entry.file.inj htext)
      refine .inr ⟨s, t ++ t', rfl, ?_⟩
      rw [hlonger', String.append_assoc]

theorem Continues.of_eq (h : fs'.get? place = fs.get? place) : Continues fs fs' place := by
  intro entry hentry
  rw [h]
  exact .inl hentry

/-- What adding names to a record does: the file records the names as well, its text goes on, and
the names that were not known are counted.  Nothing happens anywhere else. -/
structure Adds (fs fs' : FileSystem) (place : List String) (known names : NameSet) (count : Nat) :
    Prop where
  records : Records fs' place (known.union names)
  count_eq : count = (unknown known names).length
  elsewhere : ∀ q, q ≠ place → fs'.get? q = fs.get? q
  continues : Continues fs fs' place
  workDir_eq : fs'.workDir = fs.workDir

theorem Adds.of_unknown_eq_nil {known names : NameSet} (hrecords : Records fs place known)
    (h : unknown known names = []) : Adds fs fs place known names 0 where
  records := by
    apply hrecords.congr rfl
    intro x
    rw [NameSet.mem_union]
    refine ⟨.inl, ?_⟩
    rintro (hx | hx)
    · exact hx
    · by_contra hnot
      have hmem := mem_unknown.mpr ⟨hx, hnot⟩
      simp [h] at hmem
  count_eq := by simp [h]
  elsewhere q _ := rfl
  continues := Continues.of_eq rfl
  workDir_eq := rfl

theorem HoldsLines.append {xs ys : List String} (h : HoldsLines fs place xs)
    (hpath : LeadsTo fs path place) :
    fs.append path (linesOf ys) = .ok (fs.put place (.file (.text (linesOf (xs ++ ys))))) := by
  unfold HoldsLines at h
  by_cases hnil : xs = []
  · rw [if_pos hnil] at h
    rw [hpath.append_of_none h, hnil, List.nil_append]
  · rw [if_neg hnil] at h
    rw [hpath.append_of_text h, linesOf_append]

theorem Adds.of_append {known names : NameSet} {xs : List String} (hplace : place ≠ [])
    (hholds : HoldsLines fs place xs) (hnodup : xs.Nodup) (hnames : ∀ x ∈ xs, IsName x)
    (hmem : ∀ x, x ∈ xs ↔ x ∈ known) (hadded : ∀ x ∈ names, IsName x)
    (hne : unknown known names ≠ []) :
    Adds fs (fs.put place (.file (.text (linesOf (xs ++ unknown known names))))) place known names
      (unknown known names).length where
  records := by
    refine ⟨xs ++ unknown known names, ?_, ?_, ?_, ?_⟩
    · unfold HoldsLines
      rw [FileSystem.get?_put_self hplace, if_neg (by simp [hne])]
    · refine List.nodup_append.mpr ⟨hnodup, unknown_nodup known names, ?_⟩
      rintro x hx y hy rfl
      exact (mem_unknown.mp hy).2 ((hmem x).mp hx)
    · intro x hx
      rcases List.mem_append.mp hx with hx | hx
      · exact hnames x hx
      · exact hadded x (mem_unknown.mp hx).1
    · intro x
      rw [List.mem_append, hmem, mem_unknown, NameSet.mem_union]
      by_cases hx : x ∈ known
      · simp [hx]
      · simp [hx]
  count_eq := rfl
  elsewhere q hq := FileSystem.get?_put_of_ne hplace hq
  continues := by
    intro entry hentry
    have hold : entry = .file (.text (linesOf xs)) := by
      unfold HoldsLines at hholds
      rw [hentry] at hholds
      split at hholds
      · cases hholds
      · simpa using hholds
    refine .inr ⟨linesOf xs, linesOf (unknown known names), hold, ?_⟩
    rw [FileSystem.get?_put_self hplace, linesOf_append]
  workDir_eq := rfl

/-- Whenever names can be added to a record, they are. -/
theorem appendNew_adds {dir name : String} {known names : NameSet} {count : Nat}
    (hdir : fs.locate dir = .ok (.existing place .directory)) (hname : Path.IsEntryName name)
    (hrecords : Records fs (place ++ [name]) known) (hnames : ∀ x ∈ names, IsName x)
    (h : appendNew fs (Path.join dir name) names = .ok (count, fs')) :
    Adds fs fs' (place ++ [name]) known names count := by
  unfold appendNew at h
  by_cases hempty : names.isEmpty = true
  · rw [if_pos hempty] at h
    obtain ⟨rfl, rfl⟩ : 0 = count ∧ fs = fs' := by simpa [pure, Except.pure] using h
    exact Adds.of_unknown_eq_nil hrecords (unknown_eq_nil_of_isEmpty hempty known)
  · rw [if_neg hempty] at h
    by_cases hadmits : FileSystem.Admits dir name
    · have hpath := FileSystem.leadsTo_join hdir hname hadmits
      obtain ⟨xs, hholds, hnodup, hown, hmem⟩ := hrecords
      have hfresh := filter_not_contains_eq_unknown hmem names
      rw [hholds.readNames hpath hown] at h
      simp only [bind, Except.bind, hfresh] at h
      by_cases hnone : unknown known names = []
      · rw [hnone, if_pos List.isEmpty_nil] at h
        obtain ⟨rfl, rfl⟩ : 0 = count ∧ fs = fs' := by simpa [pure, Except.pure] using h
        exact Adds.of_unknown_eq_nil ⟨xs, hholds, hnodup, hown, hmem⟩ hnone
      · rw [if_neg (by simpa using hnone), hholds.append hpath] at h
        obtain ⟨rfl, rfl⟩ : (unknown known names).length = count ∧
            fs.put (place ++ [name])
              (.file (.text (linesOf (xs ++ unknown known names)))) = fs' := by
          simpa [pure, Except.pure] using h
        exact Adds.of_append (by simp) hholds hnodup hown hmem hnames hnone
    · obtain ⟨fault, hlocate, hfault⟩ :=
        FileSystem.locate_join_of_not_admits hdir hname hadmits
      rw [readNames_of_error hlocate hfault] at h
      cases h

end IssueTrace.GoldsetStore
