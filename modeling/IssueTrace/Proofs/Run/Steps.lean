import IssueTrace.Run.Window

/-!
# Parts of a run

What it means that a part of a run gives a result, for each way in which parts are put together.
-/

namespace IssueTrace.Run

variable {α β : Type} {x : Run α} {f : α → Run β} {a a' : α} {b : β} {o o' : Output}
  {context : List String}

/-- From one state of the output a part of a run gives a result and leaves another state. -/
def Gives (x : Run α) (o : Output) (a : α) (o' : Output) : Prop := x.run o = (.ok a, o')

theorem gives_pure : Gives (pure a) o a' o' ↔ a = a' ∧ o = o' := by
  change ((Except.ok a : Except Trouble α), o) = (.ok a', o') ↔ _
  simp

theorem run_bind (x : Run α) (f : α → Run β) (o : Output) :
    (x >>= f).run o =
      match x.run o with
      | (.ok a, o') => (f a).run o'
      | (.error trouble, o') => (.error trouble, o') := by
  change (match x.run o with
    | (result, o') => (ExceptT.bindCont f result : StateM Output _) o') = _
  cases x.run o with
  | mk result o' =>
      cases result with
      | ok a => rfl
      | error trouble => rfl

theorem gives_bind : Gives (x >>= f) o b o' ↔ ∃ a o₁, Gives x o a o₁ ∧ Gives (f a) o₁ b o' := by
  unfold Gives
  rw [run_bind]
  constructor
  · intro h
    split at h
    · rename_i a o₁ hx
      exact ⟨a, o₁, hx, h⟩
    · cases (Prod.mk.inj h).1
  · rintro ⟨a, o₁, hx, hf⟩
    rw [hx]
    exact hf

theorem gives_get {own : Output} : Gives get o own o' ↔ own = o ∧ o = o' := by
  change ((Except.ok o : Except Trouble Output), o) = (.ok own, o') ↔ _
  rw [Prod.mk.injEq, Except.ok.injEq, eq_comm (a := o) (b := own)]

theorem gives_set {own : Output} {u : PUnit} : Gives (set own) o u o' ↔ own = o' := by
  change ((Except.ok PUnit.unit : Except Trouble PUnit), own) = (.ok u, o') ↔ _
  simp

theorem mapError_eq_ok {ε ε' : Type} {result : Except ε α} {wrap : ε → ε'} :
    result.mapError wrap = .ok a ↔ result = .ok a := by
  cases result with
  | ok own =>
      change Except.ok own = Except.ok a ↔ _
      simp
  | error cause =>
      change Except.error (wrap cause) = Except.ok a ↔ _
      simp

theorem gives_take {result : Except Failure α} :
    Gives (take context result) o a o' ↔ result = .ok a ∧ o = o' := by
  cases result with
  | ok own =>
      unfold take
      rw [gives_pure, Except.ok.injEq]
  | error cause =>
      change ((Except.error ⟨context, cause⟩ : Except Trouble α), o) = (.ok a, o') ↔ _
      simp

/-- Work on the files gives its result, and the log stays. -/
theorem gives_onFiles {work : FileSystem → Except IoFault α × FileSystem} :
    Gives (onFiles context work) o a o' ↔
      work o.files = (.ok a, o'.files) ∧ o'.log = o.log := by
  unfold onFiles
  simp only [gives_bind, gives_get, gives_set, gives_take, mapError_eq_ok]
  constructor
  · rintro ⟨_, _, ⟨rfl, rfl⟩, _, _, rfl, hresult, rfl⟩
    exact ⟨Prod.ext hresult rfl, rfl⟩
  · rintro ⟨hwork, hlog⟩
    refine ⟨o, o, ⟨rfl, rfl⟩, ⟨⟩, ⟨o'.files, o.log⟩, ?_, ?_, ?_⟩
    · rw [hwork]
    · rw [hwork]
    · rw [← hlog]

/-- Writing to the files leaves what was written, and the log stays. -/
theorem gives_writing {work : FileSystem → Except IoFault FileSystem} {u : Unit} :
    Gives (writing context work) o u o' ↔ work o.files = .ok o'.files ∧ o'.log = o.log := by
  unfold writing
  rw [gives_onFiles]
  cases work o.files with
  | ok files => simp
  | error fault => simp

theorem gives_warn {texts : List String} {u : Unit} :
    Gives (warn texts) o u o' ↔
      o' = { o with log := o.log ++ texts.map fun text => ⟨.warning, text⟩ } := by
  change ((Except.ok () : Except Trouble Unit),
    { o with log := o.log ++ texts.map fun text => ⟨.warning, text⟩ }) = (.ok u, o') ↔ _
  simp [eq_comm]

/-- Work with a journal gives its result and the counts, and the files stay. -/
theorem gives_withJournal {counts : Diagnostics} {work : Journal → α × Journal}
    {found : α × Diagnostics} :
    Gives (withJournal counts work) o found o' ↔
      found = ((work ⟨counts, o.log⟩).1, (work ⟨counts, o.log⟩).2.counts) ∧
        o' = { o with log := (work ⟨counts, o.log⟩).2.log } := by
  unfold withJournal
  simp only [gives_bind, gives_get, gives_set, gives_pure]
  constructor
  · rintro ⟨_, _, ⟨rfl, rfl⟩, _, _, rfl, rfl, rfl⟩
    exact ⟨rfl, rfl⟩
  · rintro ⟨rfl, rfl⟩
    exact ⟨o, o, ⟨rfl, rfl⟩, ⟨⟩, _, rfl, rfl, rfl⟩

/-! ## Going through a list -/

theorem gives_mapM_nil {f : α → Run β} {bs : List β} :
    Gives (([] : List α).mapM f) o bs o' ↔ bs = [] ∧ o = o' := by
  rw [List.mapM_nil, gives_pure, eq_comm]

theorem gives_mapM_cons {f : α → Run β} {xs : List α} {bs : List β} :
    Gives ((a :: xs).mapM f) o bs o' ↔
      ∃ b o₁ rest, Gives (f a) o b o₁ ∧ Gives (xs.mapM f) o₁ rest o' ∧ bs = b :: rest := by
  simp only [List.mapM_cons, gives_bind, gives_pure]
  constructor
  · rintro ⟨b, o₁, hfirst, rest, _, hrest, rfl, rfl⟩
    exact ⟨b, o₁, rest, hfirst, hrest, rfl⟩
  · rintro ⟨b, o₁, rest, hfirst, hrest, rfl⟩
    exact ⟨b, o₁, hfirst, rest, o', hrest, rfl, rfl⟩

/-- Going through one list after another. -/
theorem gives_mapM_append {f : α → Run β} {xs ys : List α} {bs : List β} :
    Gives ((xs ++ ys).mapM f) o bs o' ↔
      ∃ own o₁ rest, Gives (xs.mapM f) o own o₁ ∧ Gives (ys.mapM f) o₁ rest o' ∧
        bs = own ++ rest := by
  simp only [List.mapM_append, gives_bind, gives_pure]
  constructor
  · rintro ⟨own, o₁, hfirst, rest, _, hrest, rfl, rfl⟩
    exact ⟨own, o₁, rest, hfirst, hrest, rfl⟩
  · rintro ⟨own, o₁, rest, hfirst, hrest, rfl⟩
    exact ⟨own, o₁, hfirst, rest, o', hrest, rfl, rfl⟩

theorem length_of_gives_mapM {f : α → Run β} {xs : List α} {bs : List β}
    (h : Gives (xs.mapM f) o bs o') : bs.length = xs.length := by
  induction xs generalizing o bs with
  | nil => rw [(gives_mapM_nil.mp h).1]; rfl
  | cons x xs ih =>
      obtain ⟨b, o₁, rest, -, hrest, rfl⟩ := gives_mapM_cons.mp h
      rw [List.length_cons, List.length_cons, ih hrest]

end IssueTrace.Run
