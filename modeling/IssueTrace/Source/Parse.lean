import IssueTrace.Grammar.Derivation
import IssueTrace.Source.Layout
import IssueTrace.Source.Rules
import IssueTrace.Source.Token
import IssueTrace.Source.Tree

/-!
# Reading a source text

Turns a source text into its concrete syntax tree: the scanner puts layout, strings and plain tokens
together, the automaton of the grammar finds the derivation, and the derivation is laid out as a
tree. Symbols whose names begin with a low line leave no node; their parts belong to the node above.
-/

namespace IssueTrace.Source

open Grammar

/-- The automaton's view of the grammar. -/
def machine : Machine := Machine.ofGrammar grammar.flatten

/-- The numbers of the tokens, by what the scanner does with them. -/
structure Vocabulary where
  newline : Nat
  indent : Nat
  dedent : Nat
  stringStart : Nat
  stringContent : Nat
  escapeInterpolation : Nat
  stringEnd : Nat
  closers : List Nat
  exceptWord : Nat
  identifier : Nat
  /-- The words that are tokens of their own. -/
  keywords : Std.HashMap String Nat
  /-- The tokens of a fixed text that is not a word. -/
  literals : List (List Char × Nat)
  /-- The other tokens that may follow a gap. -/
  shapes : List (Nat × (List Char → Option Nat))
  /-- The tokens that a gap does not precede, the preferred ones first. -/
  adjacent : List (Nat × (List Char → Option Nat))

def isWord (text : String) : Bool := Token.word? text.toList == some text.length

def vocabulary : Vocabulary :=
  let g := machine.grammar
  let fixed := g.symbols.toList.filter (·.fixed)
  { newline := g.numberOf "_newline"
    indent := g.numberOf "_indent"
    dedent := g.numberOf "_dedent"
    stringStart := g.numberOf "string_start"
    stringContent := g.numberOf "_string_content"
    escapeInterpolation := g.numberOf "escape_interpolation"
    stringEnd := g.numberOf "string_end"
    closers := [")", "]", "\x7d"].map g.numberOfText
    exceptWord := g.numberOfText "except"
    identifier := g.numberOf "identifier"
    keywords := (fixed.filter (isWord ·.name)).foldl (fun m s => m.insert s.name (g.numberOfText s.name)) ∅
    literals := (fixed.filter (!isWord ·.name)).map fun s => (s.name.toList, g.numberOfText s.name)
    shapes :=
      [(g.numberOf "integer", Token.integer?), (g.numberOf "float", Token.float?),
        (g.numberOf "type_conversion", Token.typeConversion?), (g.numberOf "comment", Token.comment?),
        (g.numberOf "line_continuation", Token.lineContinuation?)]
    adjacent :=
      [(g.numberOf "_format_text", Token.formatText?), (g.numberOf "escape_sequence", Token.escape?),
        (g.numberOf "_not_escape_sequence", Token.loneBackslash?)] }

namespace Vocabulary

def numberOf (v : Vocabulary) : LayoutToken → Nat
  | .newline => v.newline
  | .indent => v.indent
  | .dedent => v.dedent
  | .stringStart => v.stringStart
  | .stringContent => v.stringContent
  | .escapeInterpolation => v.escapeInterpolation
  | .stringEnd => v.stringEnd

/-- What the layout has to know of the tokens that can come. -/
def expected (v : Vocabulary) (valid : TokenSet) : Expected where
  newline := valid.mem v.newline
  indent := valid.mem v.indent
  dedent := valid.mem v.dedent
  stringStart := valid.mem v.stringStart
  stringContent := valid.mem v.stringContent
  escapeInterpolation := valid.mem v.escapeInterpolation
  insideBrackets := v.closers.any valid.mem
  exceptClause := valid.mem v.exceptWord

end Vocabulary

/-- A place in a text: how far it has been read, what is left, and the layout so far. -/
structure Place where
  offset : Nat
  rest : List Char
  layout : Layout

namespace Place

/-- A token at a place, after a gap. -/
def take (p : Place) (symbol gap length : Nat) (fallback : Option Nat) (layout : Layout) :
    Lexeme × Place :=
  let start := p.offset + gap
  (⟨symbol, start, start + length, fallback⟩, ⟨start + length, p.rest.drop (gap + length), layout⟩)

/-- The first of the given tokens that can come and that the text begins with. -/
def first? (tokens : List (Nat × (List Char → Option Nat))) (valid : TokenSet)
    (text : List Char) : Option (Nat × Nat) :=
  tokens.findSome? fun (symbol, shape) =>
    match shape text with
    | some n => if valid.mem symbol then some (symbol, n) else none
    | none => none

/-- The longer of two matches, the first one if they are equally long. -/
def longer (a b : Option (Nat × Nat)) : Option (Nat × Nat) :=
  match a, b with
  | some x, some y => if x.2 < y.2 then b else a
  | none, b => b
  | a, none => a

/-- The longest token that can come among literals and shapes. -/
def longest? (v : Vocabulary) (valid : TokenSet) (text : List Char) : Option (Nat × Nat) :=
  let ofLiterals := v.literals.foldl
    (fun best (literal, symbol) =>
      match Token.literal? literal text with
      | some n => if valid.mem symbol then longer best (some (symbol, n)) else best
      | none => best) none
  v.shapes.foldl
    (fun best (symbol, shape) =>
      match shape text with
      | some n => if valid.mem symbol then longer best (some (symbol, n)) else best
      | none => best) ofLiterals

/-- The token at the head of a text that follows a gap, among those that are looked for. A word is a
keyword if that can come, and reads as a plain word otherwise. -/
def plain? (v : Vocabulary) (valid sought : TokenSet) (p : Place) : Option (Lexeme × Place) :=
  let gap := (p.rest.takeWhile isBlank).length
  let text := p.rest.drop gap
  if text.isEmpty then if sought.mem 0 then some (p.take 0 gap 0 none p.layout) else none
  else
    let other := (longest? v valid text).orElse fun _ => longest? v sought text
    match if sought.mem v.identifier then Token.word? text else none with
    | some n =>
        if (other.map (·.2)).any (n < ·) then
          other.map fun (symbol, n) => p.take symbol gap n none p.layout
        else
          match v.keywords[String.ofList (text.take n)]? with
          | some k =>
              if valid.mem k then some (p.take k gap n (some v.identifier) p.layout)
              else some (p.take v.identifier gap n none p.layout)
          | none => some (p.take v.identifier gap n none p.layout)
    | none => other.map fun (symbol, n) => p.take symbol gap n none p.layout

/-- The next token of those that can come. -/
def next? (v : Vocabulary) (valid : TokenSet) (p : Place) : Option (Lexeme × Place) :=
  match p.layout.scan? (v.expected valid) p.rest with
  | some f => some (p.take (v.numberOf f.token) f.skipped f.length none f.layout)
  | none =>
      match first? v.adjacent valid p.rest with
      | some (symbol, n) => some (p.take symbol 0 n none p.layout)
      | none => p.plain? v valid (valid ||| TokenSet.single 0 ||| TokenSet.single v.identifier)

end Place

/-- The scanner of source texts. -/
def scanner (v : Vocabulary) : Scanner Place where
  next := Place.next? v
  offset := Place.offset
  agree p q := p.offset == q.offset && p.layout == q.layout

/-- A text with the place of each of its characters. -/
structure Text where
  chars : Array Char
  points : Array Point

namespace Text

/-- The places of the characters from a given place on, the end included. -/
def pointsFrom : List Char → Point → List Point → List Point
  | [], p, done => (p :: done).reverse
  | c :: rest, p, done =>
      let next := if c == '\n' then ⟨p.row + 1, 0⟩ else ⟨p.row, p.column + c.utf8Size⟩
      pointsFrom rest next (p :: done)

def ofList (text : List Char) : Text :=
  ⟨text.toArray, (pointsFrom text ⟨0, 0⟩ []).toArray⟩

def point (t : Text) (offset : Nat) : Point := t.points.getD offset ⟨0, 0⟩

/-- The text between two offsets. -/
def slice (t : Text) (start stop : Nat) : String :=
  String.ofList (t.chars.extract start stop).toList

end Text

mutual

/-- The offsets between which a derivation stands. -/
def spanOf : Derivation → Option (Nat × Nat)
  | .token _ start stop _ => some (start, stop)
  | .node _ parts => spanOfAll parts

def spanOfAll : List Derivation → Option (Nat × Nat)
  | [] => none
  | d :: ds =>
      match spanOf d, spanOfAll ds with
      | some (a, _), some (_, b) => some (a, b)
      | none, s => s
      | s, none => s

end

mutual

/-- Puts the nodes of a derivation before those given, with the name and the field that its parent
asks for. -/
def treesOf (g : Flat) (text : Text) :
    Derivation → Option String → Option String → List Tree → List Tree
  | .token symbol start stop _, label, field, after =>
      let s := g.symbols.getD symbol default
      if label.isSome || s.visible then
        let info : NodeInfo :=
          { kind := label.getD s.name
            isNamed := label.isSome || s.isNamed
            start := text.point start
            stop := text.point stop
            field
            text := text.slice start stop }
        Tree.make info [] :: after
      else after
  | .node production parts, label, field, after =>
      let p := g.productions.getD production default
      let s := g.symbols.getD p.lhs default
      if label.isSome || s.visible then
        let (start, stop) := (spanOfAll parts).getD (0, 0)
        let info : NodeInfo :=
          { kind := label.getD s.name
            isNamed := true
            start := text.point start
            stop := text.point stop
            field }
        Tree.make info (treesOfAll g text parts p.steps.toList []) :: after
      else treesOfAll g text parts p.steps.toList after

/-- Puts the nodes of the parts of a production before those given. -/
def treesOfAll (g : Flat) (text : Text) :
    List Derivation → List Step → List Tree → List Tree
  | [], _, after => after
  | d :: ds, steps, after =>
      match d.isExtra, steps with
      | false, s :: rest => treesOf g text d s.label s.field (treesOfAll g text ds rest after)
      | _, _ => treesOf g text d none none (treesOfAll g text ds steps after)

end

/-- The tree of a text from the parts of the whole. Extra tokens around the text belong to it. -/
def moduleOf (g : Flat) (text : Text) (parts : List Derivation) : Tree :=
  let children := parts.foldr
    (fun d after =>
      match d with
      | .node production inner =>
          treesOfAll g text inner (g.productions.getD production default).steps.toList after
      | token => treesOf g text token none none after)
    []
  let stop := text.point text.chars.size
  Tree.make { kind := "module", isNamed := true, start := ⟨0, 0⟩, stop } children

def derivation? (start : Place) : Option (List Derivation) :=
  let fuel := 16 * (start.rest.length + 16)
  ((derive? machine (scanner vocabulary) start fuel).run {}).1

/-- Where reading begins: after a byte order mark. -/
def Place.ofText (chars : List Char) : Place :=
  if chars.head? == some '\uFEFF' then ⟨1, chars.tail, {}⟩ else ⟨0, chars, {}⟩

/-- The concrete syntax tree of a text that fits the rules. -/
def parse? (chars : List Char) : Option Tree :=
  (derivation? (Place.ofText chars)).map (moduleOf machine.grammar (Text.ofList chars))

end IssueTrace.Source
