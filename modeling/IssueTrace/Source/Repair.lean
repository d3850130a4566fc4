import IssueTrace.Grammar.Repair.Basic
import IssueTrace.Source.Parse

/-!
# Reading a faulty source text

The tree of a text that fits no rule. Where none of the tokens that can come begins at a place, the
scanner looks for any token at all, and passes over the characters that begin none. What had to be
passed over stands in the tree under a node that is an error, and a token that had to be supplied is
a missing one.
-/

namespace IssueTrace.Source

open Grammar Grammar.Repair

/-- The set of the tokens of the given numbers. -/
def tokensOf (numbers : List Nat) : TokenSet :=
  numbers.foldl (fun set n => set ||| TokenSet.single n) 0

/-- What the scanner looks for when it is not told what can come. -/
structure Wanted where
  /-- All tokens but the text of a format specification, which is not told from other text. -/
  anything : TokenSet
  /-- The tokens that begin an expression and never follow one, and the end of the text. -/
  openers : TokenSet
  /-- A token of expressions only, and one that follows an expression only. -/
  ellipsis : Nat
  dot : Nat
  /-- The token before the type of a result. -/
  arrow : Nat

def wanted : Wanted :=
  let g := machine.grammar
  let all := (1 <<< g.tokenCount) - 1
  { anything := all ^^^ TokenSet.single (g.numberOf "_format_text")
    openers := tokensOf
      ([0, g.numberOf "integer", g.numberOf "float"] ++ ["...", "~", "\x7b"].map g.numberOfText)
    ellipsis := g.numberOfText "..."
    dot := g.numberOfText "."
    arrow := g.numberOfText "->" }

/-- The tokens that are told apart where the given ones can come. They are more than these, for all
places where much the same can come are scanned alike. -/
def Wanted.among (w : Wanted) (valid : TokenSet) : TokenSet :=
  if valid.mem w.arrow then valid
  else if valid.mem w.dot && !valid.mem w.ellipsis then
    valid ||| (w.anything ^^^ w.openers)
  else w.anything

namespace Place

/-- The token at a place among all tokens, given the keywords that can come. -/
def anything? (v : Vocabulary) (w : Wanted) (keywords : TokenSet) (p : Place) :
    Option (Lexeme × Place) :=
  match p.layout.scan? { v.expected w.anything with anything := true } p.rest with
  | some f => some (p.take (v.numberOf f.token) f.skipped f.length none f.layout)
  | none =>
      match first? v.adjacent w.anything p.rest with
      | some (symbol, n) => some (p.take symbol 0 n none p.layout)
      | none => p.plain? v keywords w.anything

/-- The token at a place where the given ones can come, of those that are told apart there. A line
end counts only where one may come again. -/
def likely? (v : Vocabulary) (w : Wanted) (valid : TokenSet) (advanced : Bool) (p : Place) :
    Option (Lexeme × Place) :=
  let ofLayout := (p.layout.scan? (v.expected valid) p.rest).filter fun f =>
    f.skipped + f.length != 0 || f.layout != p.layout || advanced
  match ofLayout with
  | some f => some (p.take (v.numberOf f.token) f.skipped f.length none f.layout)
  | none =>
      match first? v.adjacent valid p.rest with
      | some (symbol, n) => some (p.take symbol 0 n none p.layout)
      | none => p.plain? v valid (w.among valid)

/-- The place after a number of characters. -/
def skip (p : Place) (n : Nat) : Place := ⟨p.offset + n, p.rest.drop n, p.layout⟩

/-- The place after the characters that begin no token, given the place after the last of them that
is known. -/
def skipUnreadable (v : Vocabulary) (w : Wanted) (keywords : TokenSet) : Nat → Place → Place
  | 0, p => p
  | fuel + 1, p =>
      match p.anything? v w keywords with
      | some _ => p
      | none =>
          let gap := (p.rest.takeWhile isBlank).length
          skipUnreadable v w keywords fuel (p.skip (if gap > 0 then gap else 1))

def sight (p : Place) (found : Lexeme × Place) : Sight Place where
  symbol := some found.1.symbol
  start := found.1.start
  stop := found.1.stop
  fallback := found.1.fallback
  after := found.2
  memorable := found.2.layout != p.layout

/-- What comes next at a place: a token of those that can come, any token, or characters that begin
none. -/
def look (v : Vocabulary) (w : Wanted) (valid : Option TokenSet) (advanced : Bool) (p : Place) :
    Sight Place :=
  let keywords := valid.getD w.anything
  let found := (valid.bind fun set => p.likely? v w set advanced).orElse fun _ =>
    p.anything? v w keywords
  match found with
  | some f => p.sight f
  | none =>
      let start := p.skip (p.rest.takeWhile isBlank).length
      let after := skipUnreadable v w keywords start.rest.length (start.skip 1)
      { symbol := none, start := start.offset, stop := after.offset, after }

end Place

/-- How many bytes stand before each character, the end included. -/
def byteOffsets (text : Text) : Array Nat :=
  text.chars.foldl (fun offsets c => offsets.push (offsets.back?.getD 0 + c.utf8Size)) #[0]

def gaugeOf (text : Text) : Gauge :=
  let offsets := byteOffsets text
  { bytes := fun a b => offsets.getD b 0 - offsets.getD a 0
    lines := fun a b => (text.point b).row - (text.point a).row }

def setting (text : Text) : Setting Place where
  machine := machine
  gauge := gaugeOf text
  look := Place.look vocabulary wanted
  agree p q := p.layout == q.layout

mutual

/-- Puts the nodes of a fragment before those given, with the name and the field that its parent asks
for. -/
def treesOfFragment (g : Flat) (text : Text) :
    Fragment → Option String → Option String → List Tree → List Tree
  | .token symbol _ m, label, field, after =>
      treesOf g text (.token symbol m.start m.stop false) label field after
  | .supplied symbol m, label, field, after =>
      (treesOf g text (.token symbol m.start m.stop false) label field []).map
          (fun t => Tree.make { t.info with flaw := some .missing } [])
        ++ after
  | .unreadable m, _, field, after =>
      Tree.make (faultInfo text field m) [] :: after
  | .node production parts m, label, field, after =>
      let p := g.productions.getD production default
      let s := g.symbols.getD p.lhs default
      if label.isSome || s.visible then
        let info : NodeInfo :=
          { kind := label.getD s.name
            isNamed := true
            start := text.point m.start
            stop := text.point m.stop
            field }
        .node info (m.cost > 0) (treesOfFragments g text parts p.steps.toList []) :: after
      else treesOfFragments g text parts p.steps.toList after
  | .fault _ parts m, _, field, after =>
      Tree.make (faultInfo text field m) (treesOfFragments g text parts [] []) :: after
  | .passed parts _, _, _, after => treesOfFragments g text parts [] after

/-- Puts the nodes of the parts of a production before those given. -/
def treesOfFragments (g : Flat) (text : Text) :
    List Fragment → List Step → List Tree → List Tree
  | [], _, after => after
  | f :: fs, steps, after =>
      match f.isExtra, steps with
      | false, s :: rest =>
          treesOfFragment g text f s.label s.field (treesOfFragments g text fs rest after)
      | _, _ => treesOfFragment g text f none none (treesOfFragments g text fs steps after)

/-- What is known of a node that fits no rule. -/
def faultInfo (text : Text) (field : Option String) (m : Measure) : NodeInfo :=
  { kind := "ERROR"
    isNamed := true
    flaw := some .error
    start := text.point m.start
    stop := text.point m.stop
    field }

end

/-- The tree of a text of which nothing is known but that it fits no rule. -/
def faulty (text : Text) : Tree :=
  Tree.make (faultInfo text none { gap := 0, start := 0, stop := text.chars.size }) []

/-- The tree of a text that fits no rule. -/
def repair (chars : List Char) : Tree :=
  let text := Text.ofList chars
  let start := Place.ofText chars
  let fuel := 16 * (chars.length + 16)
  match read? (setting text) start start.offset fuel with
  | some f => (treesOfFragment machine.grammar text f none none []).headD (faulty text)
  | none => faulty text

/-- The concrete syntax tree of a text. -/
def parse (source : String) : Tree :=
  let chars := source.toList
  (parse? chars).getD (repair chars)

end IssueTrace.Source
