import IssueTrace.Grammar.Automaton

/-!
# Derivations

Reads a text by the automaton of its grammar. Where the grammar leaves a choice, all readings are
followed side by side, each with its own stack; two readings that have come to the same states at
the same place differ only in what lies behind them, and the heavier one goes on.

The tokens come from a scanner that is told which tokens the automaton can read at this point, so
that a word is a keyword only where a keyword can stand.
-/

namespace IssueTrace.Grammar

/-- How a text is built from productions. -/
inductive Derivation where
  /-- A token of the text, between two offsets. An extra token fills no step of a production. -/
  | token (symbol start stop : Nat) (extra : Bool)
  | node (production : Nat) (parts : List Derivation)
  deriving Inhabited

namespace Derivation

def isExtra : Derivation → Bool
  | .token _ _ _ extra => extra
  | .node _ _ => false

end Derivation

/-- A token as the scanner found it. -/
structure Lexeme where
  symbol : Nat
  start : Nat
  stop : Nat
  /-- The token as which it is read where its own symbol cannot stand. -/
  fallback : Option Nat
  deriving Inhabited

/-- A scanner: from what can be read and the place reached, the next token and the place after it. -/
structure Scanner (σ : Type) where
  next : TokenSet → σ → Option (Lexeme × σ)
  offset : σ → Nat
  /-- Whether two places can be continued alike. -/
  agree : σ → σ → Bool

/-- An entry of a stack: what has been read, and the state it led to. -/
structure Frame where
  state : Nat
  part : Derivation
  deriving Inhabited

/-- A reading of the text so far. -/
structure Reading (σ : Type) where
  stack : List Frame
  place : σ
  weight : Int

namespace Reading

variable {σ : Type}

def state (r : Reading σ) : Nat := (r.stack.head?.map (·.state)).getD 0

/-- Whether two readings have gone through the same states. -/
def sameStates : List Frame → List Frame → Bool
  | [], [] => true
  | f :: fs, g :: gs => f.state == g.state && sameStates fs gs
  | _, _ => false

/-- Adds a reading to others: of two that can be continued alike the heavier one stays. -/
def insert (s : Scanner σ) (r : Reading σ) : List (Reading σ) → List (Reading σ)
  | [] => [r]
  | q :: rest =>
      if s.agree r.place q.place && sameStates r.stack q.stack then
        (if q.weight < r.weight then r else q) :: rest
      else q :: insert s r rest

/-- The heaviest reading, the first one of several. -/
def heaviest? : List (Reading σ) → Option (Reading σ)
  | [] => none
  | r :: rest =>
      match heaviest? rest with
      | some q => if r.weight < q.weight then some q else some r
      | none => some r

end Reading

/-- Takes entries off a stack until the given number of steps is filled. -/
def popSteps : Nat → List Frame → List Derivation → Option (List Derivation × List Frame)
  | 0, frames, parts => some (parts, frames)
  | _ + 1, [], _ => none
  | n + 1, f :: frames, parts =>
      if f.part.isExtra then popSteps (n + 1) frames (f.part :: parts)
      else popSteps n frames (f.part :: parts)

/-- Puts the entries of a production together. Extra tokens at the end stay outside. -/
def reduceBy {σ : Type} (m : Machine) (production : Nat) (r : Reading σ) :
    StateM Automaton (Option (Reading σ)) := do
  let p := m.grammar.productions.getD production default
  let (trailing, frames) := r.stack.span (·.part.isExtra)
  match popSteps p.steps.size frames [] with
  | none => return none
  | some (parts, below) =>
      let base := (below.head?.map (·.state)).getD 0
      match ← m.move? base p.lhs with
      | none => return none
      | some n =>
          let top := trailing.map fun f => { f with state := n }
          return some { r with
            stack := top ++ ⟨n, .node production parts⟩ :: below
            weight := r.weight + p.weight }

/-- What becomes of a reading on a token: the readings that go on after it, and those that are
complete. -/
structure Outcome (σ : Type) where
  onward : List (Reading σ) := []
  complete : List (Reading σ) := []

namespace Outcome

def append {σ : Type} (a b : Outcome σ) : Outcome σ :=
  ⟨a.onward ++ b.onward, a.complete ++ b.complete⟩

end Outcome

/-- Reads a token: puts together what it ends, in every way that the automaton allows, and then
enters it. -/
def readToken {σ : Type} (m : Machine) (token : Lexeme) (after : σ) :
    Nat → Reading σ → StateM Automaton (Outcome σ)
  | 0, _ => return {}
  | fuel + 1, r => do
      let a ← m.action r.state token.symbol
      let reduced ← a.reduce.toList.mapM fun p => do
        if p == 0 then return ({ complete := [r] } : Outcome σ)
        else
          match ← reduceBy m p r with
          | some q => readToken m token after fuel q
          | none => return {}
      let shifted : Outcome σ :=
        match a.shift with
        | some n =>
            let extra := m.grammar.extras.mem token.symbol
            let frame : Frame := ⟨n, .token token.symbol token.start token.stop extra⟩
            { onward := [{ r with stack := frame :: r.stack, place := after }] }
        | none => {}
      return (reduced ++ [shifted]).foldl Outcome.append {}

/-- Reads the next token of a reading. A word that is a keyword is read as a plain word where the
keyword cannot stand. -/
def advance {σ : Type} (m : Machine) (s : Scanner σ) (r : Reading σ) :
    StateM Automaton (Outcome σ) := do
  let valid := m.valid r.state (← get)
  match s.next valid r.place with
  | none => return {}
  | some (token, after) =>
      let fuel := 64 * (r.stack.length + m.grammar.symbols.size)
      let outcome ← readToken m token after fuel r
      match token.fallback, outcome.onward, outcome.complete with
      | some word, [], [] => readToken m { token with symbol := word, fallback := none } after fuel r
      | _, _, _ => return outcome

/-- Follows readings to the end of the text, those that lie behind first. -/
def follow {σ : Type} (m : Machine) (s : Scanner σ) :
    Nat → List (Reading σ) → List (Reading σ) → StateM Automaton (List (Reading σ))
  | 0, _, complete => return complete
  | _ + 1, [], complete => return complete
  | fuel + 1, first :: rest, complete => do
      let least := rest.foldl (fun k r => min k (s.offset r.place)) (s.offset first.place)
      let (now, later) := (first :: rest).partition fun r => s.offset r.place == least
      let outcomes ← now.mapM (advance m s)
      let outcome := outcomes.foldl Outcome.append {}
      let onward := (later ++ outcome.onward).foldl (fun rs r => r.insert s rs) []
      follow m s fuel onward (complete ++ outcome.complete)

/-- The derivation of a text, as the parts of the whole from the first to the last, extra tokens
included. -/
def derive? {σ : Type} (m : Machine) (s : Scanner σ) (start : σ) (fuel : Nat) :
    StateM Automaton (Option (List Derivation)) := do
  let _ ← m.intern #[⟨0, TokenSet.single 0⟩]
  let complete ← follow m s fuel [⟨[], start, 0⟩] []
  return (Reading.heaviest? complete).map fun r => (r.stack.map (·.part)).reverse

end IssueTrace.Grammar
