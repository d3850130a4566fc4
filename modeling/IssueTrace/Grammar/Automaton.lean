import Std.Data.HashMap
import IssueTrace.Grammar.Production

/-!
# The automaton of a grammar

The states are sets of items with one token of lookahead: productions with a mark for how much of
them has been read, each with the set of tokens that may follow. A state is kept as its kernel, the
items whose mark has moved; the items that the kernel implies are given by their symbols alone,
since all productions of a symbol are implied together.

The automaton is built while it is used. It grows with each new state that a text leads to, and a
state keeps its number.

Where a token both ends one item and continues another, the levels and groupings of the items decide
between the two, and where they say nothing both readings are kept.
-/

namespace IssueTrace.Grammar

/-- An item, numbered by its mark first and its production second, with the tokens that may follow. -/
structure Item where
  number : Nat
  follow : TokenSet
  deriving BEq, Hashable, Inhabited

/-- A state: its kernel, the symbols implied by it with what may follow them, and the tokens that
it can read next. -/
structure State where
  kernel : Array Item
  implied : Array Item
  valid : TokenSet
  deriving Inhabited

/-- What a state does on a token: the productions that may be complete, and the state after reading
the token. -/
structure Action where
  reduce : Array Nat := #[]
  shift : Option Nat := none
  /-- The state after reading the token, where what is before it is put together first. -/
  postponed : Option Nat := none
  deriving Inhabited

/-- A grammar with what is computed from it once. -/
structure Machine where
  grammar : Flat
  /-- For each symbol the symbols with which it can begin, itself included, what may follow them
  inside it, and whether what follows it may follow them too. -/
  beginnings : Array (Array (Nat × TokenSet × Bool))
  /-- For each symbol the steps that open its productions, with these productions. -/
  openings : Array (Std.HashMap Nat (Array Nat))
  deriving Inhabited

/-- The states reached so far, and the actions that have been asked for. -/
structure Automaton where
  states : Array State := #[]
  numbers : Std.HashMap (Array Item) Nat := ∅
  moves : Std.HashMap Nat Nat := ∅
  actions : Std.HashMap Nat Action := ∅
  deriving Inhabited

namespace Machine

/-- One round of the computation of `beginnings` for a symbol. -/
def extendBeginnings (g : Flat) (found : Array (Nat × TokenSet × Bool)) :
    Array (Nat × TokenSet × Bool) :=
  found.foldl
    (fun acc (symbol, follow, through) =>
      (g.byLhs.getD symbol #[]).foldl
        (fun acc k =>
          let p := g.productions.getD k default
          match p.steps[0]? with
          | none => acc
          | some s =>
              if s.symbol < g.tokenCount then acc
              else
                let (follow, through) :=
                  match p.steps[1]? with
                  | some t => (g.first.getD t.symbol 0, false)
                  | none => (follow, through)
                match acc.findIdx? (·.1 == s.symbol) with
                | some i => acc.modify i fun (n, f, t) => (n, f ||| follow, t || through)
                | none => acc.push (s.symbol, follow, through))
        acc)
    found

/-- Extends the beginnings of a symbol until a round adds nothing. -/
def saturate (g : Flat) : Nat → Array (Nat × TokenSet × Bool) → Array (Nat × TokenSet × Bool)
  | 0, found => found
  | n + 1, found =>
      let next := extendBeginnings g found
      if next == found then found else saturate g n next

def ofGrammar (g : Flat) : Machine where
  grammar := g
  beginnings := Array.ofFn fun (k : Fin g.symbols.size) =>
    if k.val < g.tokenCount then #[]
    else saturate g (4 * g.symbols.size) #[(k.val, 0, true)]
  openings := Array.ofFn fun (k : Fin g.symbols.size) =>
    (g.byLhs.getD k.val #[]).foldl
      (fun table p =>
        match (g.productions.getD p default).steps[0]? with
        | some s => table.insert s.symbol ((table.getD s.symbol #[]).push p)
        | none => table)
      ∅

/-- The number of the item of a production with the mark after `mark` steps. -/
def itemNumber (m : Machine) (production mark : Nat) : Nat :=
  mark * m.grammar.productions.size + production

def production (m : Machine) (item : Item) : Production :=
  m.grammar.productions.getD (item.number % m.grammar.productions.size) default

def mark (m : Machine) (item : Item) : Nat := item.number / m.grammar.productions.size

/-- The step after the mark. -/
def nextStep? (m : Machine) (item : Item) : Option Step := (m.production item).steps[m.mark item]?

/-- The step before the mark. -/
def lastStep? (m : Machine) (item : Item) : Option Step :=
  (m.production item).steps[m.mark item - 1]?

/-- The tokens that may come after the step after the mark. -/
def followOfNext (m : Machine) (item : Item) : TokenSet :=
  match (m.production item).steps[m.mark item + 1]? with
  | some s => m.grammar.first.getD s.symbol 0
  | none => item.follow

/-- Adds a symbol with what may follow it. -/
def addImplied (implied : Array Item) (symbol : Nat) (follow : TokenSet) : Array Item :=
  match implied.findIdx? (·.number == symbol) with
  | some i => implied.modify i fun e => { e with follow := e.follow ||| follow }
  | none => implied.push ⟨symbol, follow⟩

/-- The symbols whose productions begin where an item of the kernel stands. -/
def impliedBy (m : Machine) (kernel : Array Item) : Array Item :=
  kernel.foldl
    (fun acc item =>
      match m.nextStep? item with
      | none => acc
      | some s =>
          let follow := m.followOfNext item
          (m.beginnings.getD s.symbol #[]).foldl
            (fun acc (symbol, inner, through) =>
              addImplied acc symbol (if through then inner ||| follow else inner))
            acc)
    #[]

/-- The tokens on which a state has something to do. -/
def validTokens (m : Machine) (kernel implied : Array Item) : TokenSet :=
  let ofKernel := kernel.foldl
    (fun set item =>
      match m.nextStep? item with
      | some s => set ||| m.grammar.first.getD s.symbol 0
      | none => set ||| item.follow) 0
  implied.foldl
    (fun set e =>
      if (m.grammar.byLhs.getD e.number #[]).any fun k =>
          (m.grammar.productions.getD k default).steps.isEmpty then set ||| e.follow else set)
    ofKernel

def stateOf (m : Machine) (kernel : Array Item) : State :=
  let implied := m.impliedBy kernel
  ⟨kernel, implied, m.validTokens kernel implied⟩

/-- The number of the state with a kernel. -/
def intern (m : Machine) (kernel : Array Item) : StateM Automaton Nat := fun a =>
  match a.numbers[kernel]? with
  | some n => (n, a)
  | none =>
      let n := a.states.size
      (n, { a with states := a.states.push (m.stateOf kernel)
                   numbers := a.numbers.insert kernel n })

/-- The kernel after reading a symbol. -/
def advanced (m : Machine) (s : State) (symbol : Nat) : Array Item :=
  let moved := s.kernel.filterMap fun item =>
    match m.nextStep? item with
    | some step =>
        if step.symbol == symbol then
          some ⟨item.number + m.grammar.productions.size, item.follow⟩
        else none
    | none => none
  let opened := s.implied.foldl
    (fun acc e =>
      match (m.openings.getD e.number ∅)[symbol]? with
      | some ps => acc ++ ps.map fun p => ⟨m.itemNumber p 1, e.follow⟩
      | none => acc)
    (#[] : Array Item)
  (opened ++ moved).qsort fun a b => a.number < b.number

/-- The state after reading a symbol. -/
def move? (m : Machine) (state symbol : Nat) : StateM Automaton (Option Nat) := do
  let key := state * m.grammar.symbols.size + symbol
  match (← get).moves[key]? with
  | some n => return some n
  | none =>
      let s := (← get).states.getD state default
      let kernel := m.advanced s symbol
      if kernel.isEmpty then return none
      else
        let n ← m.intern kernel
        modify fun a => { a with moves := a.moves.insert key n }
        return some n

/-- The complete items of a state that a token may follow, as productions. -/
def completed (m : Machine) (s : State) (token : Nat) : Array Nat :=
  let ofKernel := s.kernel.filterMap fun item =>
    if (m.nextStep? item).isNone && item.follow.mem token then
      some (item.number % m.grammar.productions.size)
    else none
  let ofImplied := s.implied.foldl
    (fun acc e =>
      if e.follow.mem token then
        acc ++ (m.grammar.byLhs.getD e.number #[]).filter fun k =>
          (m.grammar.productions.getD k default).steps.isEmpty
      else acc)
    #[]
  ofImplied ++ ofKernel

/-- The level at which a production is complete. -/
def levelOf (m : Machine) (production : Nat) : Int :=
  (((m.grammar.productions.getD production default).steps.back?).bind (·.level)).getD 0

def assocOf (m : Machine) (production : Nat) : Option Assoc :=
  ((m.grammar.productions.getD production default).steps.back?).bind (·.assoc)

def highest (m : Machine) (productions : Array Nat) : Array Nat :=
  productions.filter fun p => productions.all fun q => m.levelOf q ≤ m.levelOf p

/-- The items of a kernel that a token continues. -/
def continued (m : Machine) (s : State) (token : Nat) : Array Item :=
  s.kernel.filter fun item =>
    match m.nextStep? item with
    | some step => m.mark item != 0 && (m.grammar.first.getD step.symbol 0).mem token
    | none => false

/-- Whether a token stands inside a repetition and nowhere else. -/
def inRepetition (m : Machine) (s : State) (token : Nat) (all : Array Nat) : Bool :=
  let parents := (m.continued s token).map (fun i => (m.production i).lhs)
    ++ all.map fun p => (m.grammar.productions.getD p default).lhs
  let parent := parents.getD 0 0
  (m.grammar.symbols.getD parent default).repetition && parents.all (· == parent)

/-- Whether a token may be read where it may also end the given productions, and which of these
remain. Inside a repetition, what has been read is put together first. -/
def resolve (m : Machine) (s : State) (token : Nat) (all best : Array Nat) : Bool × Array Nat :=
  if m.inRepetition s token all then (false, best)
  else
    let going := m.continued s token
    let level := (best[0]?.map m.levelOf).getD 0
    let levels := going.map fun i => ((m.lastStep? i).bind (·.level)).getD 0
    let more := levels.any (· > level)
    let less := levels.any (· < level)
    if more && !less then (true, #[])
    else if less && !more then (false, best)
    else if more && less then (true, best)
    else if best.all fun p => m.assocOf p == some .left then (false, best)
    else if best.all fun p => m.assocOf p == some .right then (true, #[])
    else (true, best)

def action (m : Machine) (state token : Nat) : StateM Automaton Action := do
  let key := state * m.grammar.symbols.size + token
  match (← get).actions[key]? with
  | some r => return r
  | none =>
      let s := (← get).states.getD state default
      let all := m.completed s token
      let best := m.highest all
      let target ← m.move? state token
      let r : Action :=
        match target with
        | none => { reduce := best }
        | some n =>
            if best.isEmpty then { shift := some n }
            else
              let (reads, kept) := m.resolve s token all best
              { reduce := kept
                shift := if reads then some n else none
                postponed := if m.inRepetition s token all then some n else none }
      let r : Action := if r.reduce.isEmpty && r.shift.isNone && m.grammar.extras.mem token
        then { shift := some state } else r
      modify fun a => { a with actions := a.actions.insert key r }
      return r

/-- The tokens that a state can read, those that may stand anywhere included. -/
def valid (m : Machine) (state : Nat) (a : Automaton) : TokenSet :=
  (a.states.getD state default).valid ||| m.grammar.extras

end Machine

end IssueTrace.Grammar
