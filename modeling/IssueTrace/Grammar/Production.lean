import Std.Data.HashMap
import IssueTrace.Grammar.Rule

/-!
# Productions

The flat form of a grammar. Every repetition becomes a symbol of its own with the productions
"two repetitions" and "one body", every choice becomes several productions, inlined rules are
substituted, and names become numbers: the tokens come first, so a symbol is a token exactly when
its number is below `tokenCount`. Token `0` is the end of the input.
-/

namespace IssueTrace.Grammar

/-- A set of tokens, as the number whose binary digits are its membership. -/
abbrev TokenSet := Nat

namespace TokenSet

def single (token : Nat) : TokenSet := 1 <<< token

def mem (set : TokenSet) (token : Nat) : Bool := set.testBit token

end TokenSet

/-- What is known about a symbol. -/
structure Symbol where
  name : String
  /-- Whether the symbol is a token of a fixed text, which is then its name. -/
  fixed : Bool := false
  /-- Whether the symbol leaves a node in the tree. -/
  visible : Bool
  /-- Whether that node is a named one. -/
  isNamed : Bool
  /-- Whether the symbol stands for a repetition. -/
  repetition : Bool
  deriving Inhabited

structure Step where
  symbol : Nat
  level : Option Int
  assoc : Option Assoc
  /-- The name under which the part appears, when it is not its own. -/
  label : Option String
  /-- The field that the part fills. -/
  field : Option String
  deriving BEq, Inhabited

/-- One way to build a symbol. -/
structure Production where
  lhs : Nat
  steps : Array Step
  weight : Int
  deriving BEq, Inhabited

/-- What a symbol is known by: a token of a fixed text and a rule may have the same letters. -/
inductive Name where
  | rule (name : String)
  | text (literal : String)
  deriving BEq, Hashable

/-- A grammar in flat form, with the sets that the automaton asks for. -/
structure Flat where
  symbols : Array Symbol
  tokenCount : Nat
  /-- The productions, those of one symbol together and in the order of the symbols. The first one
  stands for the whole text and has the start rule as its only step. -/
  productions : Array Production
  /-- For each symbol the numbers of its productions. -/
  byLhs : Array (Array Nat)
  /-- For each symbol the tokens with which it can begin. -/
  first : Array TokenSet
  extras : TokenSet
  numbers : Std.HashMap Name Nat
  deriving Inhabited

/-- The number of a rule or a named token. -/
def Flat.numberOf (g : Flat) (name : String) : Nat := g.numbers.getD (.rule name) 0

/-- The number of the token of a fixed text. -/
def Flat.numberOfText (g : Flat) (text : String) : Nat := g.numbers.getD (.text text) 0

namespace Rule

/-- Replaces each repetition by the symbol of its body, and collects the bodies. -/
def liftRepetitions : Rule → StateM (Array Rule) Rule
  | .blank => pure .blank
  | .sym n => pure (.sym n)
  | .lit t => pure (.lit t)
  | .seq a b => do
      let a ← a.liftRepetitions
      return .seq a (← b.liftRepetitions)
  | .choice a b => do
      let a ← a.liftRepetitions
      return .choice a (← b.liftRepetitions)
  | .many1 r => do
      let r ← r.liftRepetitions
      let bodies ← get
      match bodies.idxOf? r with
      | some k => return .sym s!"repetition {k}"
      | none =>
          set (bodies.push r)
          return .sym s!"repetition {bodies.size}"
  | .prec l a r => return .prec l a (← r.liftRepetitions)
  | .weigh w r => return .weigh w (← r.liftRepetitions)
  | .named n r => return .named n (← r.liftRepetitions)
  | .field f r => return .field f (← r.liftRepetitions)

/-- The literal tokens of a rule, in order, with repetitions. -/
def literals : Rule → List String
  | .blank | .sym _ => []
  | .lit t => [t]
  | .seq a b | .choice a b => a.literals ++ b.literals
  | .many1 r | .prec _ _ r | .weigh _ r | .named _ r | .field _ r => r.literals

/-- The annotations in force around a part of a rule. -/
structure Context where
  level : Option Int := none
  assoc : Option Assoc := none
  label : Option String := none
  field : Option String := none

/-- Sets the annotations of the last step. -/
def relabelLast (steps : Array Step) (change : Step → Step) : Array Step :=
  steps.modify (steps.size - 1) change

/-- The sequences of steps that a rule stands for, with their weights. After a part with a binding
level of its own the level around it applies again, unless the part ends the rule. -/
def sequences (number : Name → Nat) :
    Rule → Context → Bool → List (Array Step × Int)
  | .blank, _, _ => [(#[], 0)]
  | .sym n, c, _ => [(#[⟨number (.rule n), c.level, c.assoc, c.label, c.field⟩], 0)]
  | .lit t, c, _ => [(#[⟨number (.text t), c.level, c.assoc, c.label, c.field⟩], 0)]
  | .seq a b, c, atEnd =>
      (a.sequences number c false).flatMap fun (s, v) =>
        (b.sequences number c atEnd).map fun (t, w) =>
          (s ++ t, if v.natAbs < w.natAbs then w else v)
  | .choice a b, c, atEnd => a.sequences number c atEnd ++ b.sequences number c atEnd
  | .many1 r, c, atEnd => r.sequences number c atEnd
  | .prec l a r, c, atEnd =>
      let inner := { c with level := some l, assoc := a.orElse fun _ => c.assoc }
      (r.sequences number inner atEnd).map fun (s, w) =>
        if atEnd then (s, w)
        else
          let restore := fun (last : Step) =>
            { last with level := c.level, assoc := if a.isSome then c.assoc else last.assoc }
          (relabelLast s restore, w)
  | .weigh v r, c, atEnd =>
      (r.sequences number c atEnd).map fun (s, w) =>
        (s, if v.natAbs < w.natAbs then w else v)
  | .named n r, c, atEnd => r.sequences number { c with label := some n } atEnd
  | .field f r, c, atEnd => r.sequences number { c with field := some f } atEnd

end Rule

/-- The elements without later repetitions. -/
def distinct {α : Type} [BEq α] (xs : List α) : List α :=
  xs.foldl (fun seen x => if seen.contains x then seen else seen ++ [x]) []

/-- Replaces the first inlined step by the steps of each of its productions. The last of them takes
the level and the grouping of the replaced step where it has none. -/
def inlineStep (inlined : Nat → Bool) (bodies : Nat → List (Array Step × Int))
    (p : Array Step × Int) : List (Array Step × Int) :=
  match p.1.findIdx? (inlined ·.symbol) with
  | none => [p]
  | some i =>
      let old := p.1[i]!
      (bodies old.symbol).map fun (body, w) =>
        let body := body.map fun s =>
          { s with label := old.label.orElse fun _ => s.label
                   field := old.field.orElse fun _ => s.field }
        let body := Rule.relabelLast body fun s =>
          { s with level := s.level.orElse fun _ => old.level
                   assoc := s.assoc.orElse fun _ => old.assoc }
        (p.1.extract 0 i ++ body ++ p.1.extract (i + 1) p.1.size,
          if p.2.natAbs < w.natAbs then w else p.2)

/-- Replaces inlined steps for the given number of rounds. -/
def inlineSteps (inlined : Nat → Bool) (bodies : Nat → List (Array Step × Int)) :
    Nat → List (Array Step × Int) → List (Array Step × Int)
  | 0, ps => ps
  | n + 1, ps => inlineSteps inlined bodies n (ps.flatMap (inlineStep inlined bodies))

/-- One round of the computation of the sets of first tokens: each symbol takes over what the first
steps of its productions can begin with. -/
def firstRound (productions : Array Production) (first : Array TokenSet) : Array TokenSet :=
  productions.foldl
    (fun sets p =>
      match p.steps[0]? with
      | some s => sets.modify p.lhs (· ||| sets.getD s.symbol 0)
      | none => sets)
    first

def repetitionName (k : Nat) : String := s!"repetition {k}"

/-- The rules with their repetitions replaced by symbols, and the bodies of the repetitions. -/
def liftRules (rules : List (String × Rule)) : List (String × Rule) × Array Rule :=
  rules.foldl
    (fun (done, bodies) (name, rule) =>
      let (lifted, bodies) := rule.liftRepetitions.run bodies
      (done ++ [(name, lifted)], bodies))
    ([], #[])

/-- The rules of the symbols that stand for repetitions. -/
def repetitionRules (bodies : Array Rule) : List (String × Rule) :=
  bodies.toList.zipIdx.map fun (body, k) =>
    let self := Rule.sym (repetitionName k)
    (repetitionName k, .choice (.seq self self) body)

/-- The name of the symbol that stands for the whole text. -/
def wholeName : String := "whole text"

/-- The symbols of a grammar: the end of the input, the word, the tokens of a fixed text, the other
tokens, the rules, the repetitions, the whole text. -/
def Spec.symbols (g : Spec) (rules repetitions : List (String × Rule)) : List Symbol :=
  let literals := distinct ((rules ++ repetitions).flatMap (·.2.literals))
  let hidden := fun (n : String) => n.startsWith "_" || g.transparent.contains n
  let ending : Symbol := ⟨"end", false, true, false, false⟩
  let whole : Symbol := ⟨wholeName, false, false, false, false⟩
  let tokens : List Symbol :=
    g.tokens.map fun n => ⟨n, false, !n.startsWith "_", g.named.contains n, false⟩
  [ending]
    ++ tokens.take 1
    ++ literals.map (fun t => ⟨t, true, true, false, false⟩)
    ++ tokens.drop 1
    ++ rules.map (fun r => ⟨r.1, false, !hidden r.1, true, false⟩)
    ++ repetitions.map (fun r => ⟨r.1, false, false, false, true⟩)
    ++ [whole]

/-- The productions of a grammar, with names turned into numbers. -/
def Spec.productions (g : Spec) (rules : List (String × Rule)) (number : Name → Nat) :
    Array Production :=
  let sequences : Std.HashMap Nat (List (Array Step × Int)) :=
    rules.foldl (fun m r => m.insert (number (.rule r.1)) (distinct (r.2.sequences number {} true))) ∅
  let inlined := g.inlined.map fun n => number (.rule n)
  let complete := fun (n : String) =>
    distinct <| inlineSteps inlined.contains (fun k => sequences.getD k []) 4
      (sequences.getD (number (.rule n)) [])
  let root := (rules.head?.map (·.1)).getD ""
  let whole : Production := ⟨number (.rule wholeName), #[⟨number (.rule root), none, none, none, none⟩], 0⟩
  let names := (rules.map (·.1)).filter fun n => !g.inlined.contains n
  (whole :: names.flatMap fun n => (complete n).map fun q => ⟨number (.rule n), q.1, q.2⟩).toArray

/-- The flat form of a grammar. -/
def Spec.flatten (g : Spec) : Flat :=
  let lifted := liftRules g.rules
  let repetitions := repetitionRules lifted.2
  let symbols := (g.symbols lifted.1 repetitions).toArray
  let numbers : Std.HashMap Name Nat := symbols.toList.zipIdx.foldl
    (fun m (s, k) => m.insert (if s.fixed then .text s.name else .rule s.name) k) ∅
  let number := fun n => numbers.getD n 0
  let productions := g.productions (lifted.1 ++ repetitions) number
  let tokenCount := number (.rule ((g.rules.head?.map (·.1)).getD ""))
  let empty : Array (Array Nat) := Array.replicate symbols.size #[]
  let byLhs := productions.toList.zipIdx.foldl (fun t p => t.modify p.1.lhs (·.push p.2)) empty
  let ownFirst := Array.ofFn fun (k : Fin symbols.size) =>
    if k.val < tokenCount then TokenSet.single k.val else 0
  { symbols
    tokenCount
    productions
    byLhs
    first := (List.range symbols.size).foldl (fun sets _ => firstRound productions sets) ownFirst
    extras := g.extras.foldl (fun set n => set ||| TokenSet.single (number (.rule n))) 0
    numbers }

end IssueTrace.Grammar
