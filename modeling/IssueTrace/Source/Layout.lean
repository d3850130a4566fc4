/-!
# Layout and strings

The part of the scanner that looks at indentation and at the inside of strings. It decides from the
tokens that the grammar can take whether a line ends, whether a block begins or ends, and how far the
text of a string reaches; all else is left to the plain tokens.
-/

namespace IssueTrace.Source

/-- How a string was opened. -/
structure Delimiter where
  quote : Char
  triple : Bool := false
  /-- The string holds replacement fields in braces. -/
  format : Bool := false
  raw : Bool := false
  bytes : Bool := false
  deriving DecidableEq, Repr, Inhabited

/-- What the scanner remembers: the indents of the open blocks and the open strings, innermost
first. -/
structure Layout where
  indents : List Nat := [0]
  delimiters : List Delimiter := []
  insideFormat : Bool := false
  deriving DecidableEq, Repr, Inhabited

/-- The tokens that depend on the layout. -/
inductive LayoutToken where
  | newline
  | indent
  | dedent
  | stringStart
  | stringContent
  | escapeInterpolation
  | stringEnd
  deriving DecidableEq, Repr

/-- Which of these tokens the grammar can take, and what else bears on the layout. -/
structure Expected where
  newline : Bool
  indent : Bool
  dedent : Bool
  stringStart : Bool
  stringContent : Bool
  escapeInterpolation : Bool
  /-- A closing bracket can come, so line ends do not count. -/
  insideBrackets : Bool
  /-- The keyword of an exception clause can come. -/
  exceptClause : Bool
  /-- Every token is looked for, since none fits. Then a line does not end, and the inside of a string
  is read like any text. -/
  anything : Bool := false

/-- A token found at the head of a text: how many characters stand before it, and how many it has. -/
structure LayoutMatch where
  token : LayoutToken
  skipped : Nat
  length : Nat
  layout : Layout
  deriving DecidableEq, Repr

/-- How the reading of a string's text ended. -/
inductive ContentEnd where
  | found (token : LayoutToken) (length : Nat)
  /-- No token of a string begins here. -/
  | nothing
  /-- The text stops inside the string. -/
  | openEnded
  deriving DecidableEq, Repr

/-- How many characters a backslash of a raw string takes along, itself not counted. -/
def rawEscapeLength (quote : Char) : List Char → Nat
  | c :: rest =>
      let own := if c == quote || c == '\\' then 1 else 0
      let lineEnd := fun (cs : List Char) =>
        match cs with
        | '\r' :: '\n' :: _ => 2
        | '\r' :: _ => 1
        | '\n' :: _ => 1
        | _ => 0
      own + lineEnd (if own == 1 then rest else c :: rest)
  | [] => 0

/-- Reads the text of a string, given how many characters have been read, whether they count as
text, and how many more are to be passed over. -/
def scanContent (d : Delimiter) : List Char → Nat → Bool → Nat → ContentEnd
  | [], _, _, _ => .openEnded
  | _ :: rest, n, hasText, pass + 1 => scanContent d rest (n + 1) hasText pass
  | c :: rest, n, hasText, 0 =>
      let text : ContentEnd := if hasText then .found .stringContent n else .nothing
      if c == '\x00' then .openEnded
      else if (c == '\x7b' || c == '\x7d') && d.format then text
      else if c == '\\' then
        if d.raw then scanContent d rest (n + 1) hasText (rawEscapeLength d.quote rest)
        else if d.bytes then
          match rest with
          | 'N' :: _ | 'u' :: _ | 'U' :: _ => scanContent d rest (n + 1) true 2
          | _ => text
        else text
      else if c == d.quote then
        if d.triple then
          match rest with
          | c₂ :: c₃ :: _ =>
              if c₂ == d.quote && c₃ == d.quote then
                if hasText then text else .found .stringEnd (n + 3)
              else .found .stringContent (if c₂ == d.quote then n + 2 else n + 1)
          | [c₂] => .found .stringContent (if c₂ == d.quote then n + 2 else n + 1)
          | [] => .found .stringContent (n + 1)
        else if hasText then text
        else .found .stringEnd (n + 1)
      else if c == '\n' && hasText && !d.triple then .nothing
      else scanContent d rest (n + 1) true 0

/-- What stands between two tokens: how many characters, whether a line ended, the indent of the
text after it, and the indent of the first comment on a line of its own. -/
structure Gap where
  length : Nat := 0
  lineEnded : Bool := false
  indent : Nat := 0
  commentIndent : Option Nat := none
  deriving DecidableEq, Repr

/-- Reads the space before the next token, with how far a comment or an escaped line end has been
entered. Comments are passed over when `comments` holds and they stand on a line of their own. There
is no layout to speak of when it stops at a comment after code, or at a lone backslash. -/
def scanGap (comments : Bool) : List Char → Gap → Bool → Option (Gap × List Char)
  | [], g, _ => some ({ g with lineEnded := true, indent := 0 }, [])
  | c :: rest, g, true =>
      -- inside a comment
      let g := { g with length := g.length + 1 }
      if c == '\n' || c == '\x00' then scanGap comments rest { g with indent := 0 } false
      else scanGap comments rest g true
  | c :: rest, g, false =>
      let next := { g with length := g.length + 1 }
      if c == '\n' then scanGap comments rest { next with lineEnded := true, indent := 0 } false
      else if c == ' ' then scanGap comments rest { next with indent := g.indent + 1 } false
      else if c == '\r' || c == '\x0c' then scanGap comments rest { next with indent := 0 } false
      else if c == '\t' then scanGap comments rest { next with indent := g.indent + 8 } false
      else if c == '#' && comments then
        if g.lineEnded then
          let first := g.commentIndent.getD g.indent
          scanGap comments rest { next with commentIndent := some first } true
        else none
      else if c == '\\' then
        match rest with
        | '\r' :: '\n' :: more => scanGap comments more { g with length := g.length + 3 } false
        | ['\r'] => scanGap comments [] { g with length := g.length + 2 } false
        | '\n' :: more => scanGap comments more { g with length := g.length + 2 } false
        | [] => scanGap comments [] next false
        | _ => none
      else some (g, c :: rest)

/-- The opening of a string at the head of a text, with its length. -/
def scanOpening : List Char → Delimiter → Nat → Option (Delimiter × Nat)
  | [], _, _ => none
  | c :: rest, d, n =>
      if c == 'f' || c == 'F' then scanOpening rest { d with format := true } (n + 1)
      else if c == 'r' || c == 'R' then scanOpening rest { d with raw := true } (n + 1)
      else if c == 'b' || c == 'B' then scanOpening rest { d with bytes := true } (n + 1)
      else if c == 'u' || c == 'U' then scanOpening rest d (n + 1)
      else if c == '\x60' then some ({ d with quote := c }, n + 1)
      else if c == '\'' || c == '"' then
        match rest with
        | c₂ :: c₃ :: _ =>
            if c₂ == c && c₃ == c then some ({ d with quote := c, triple := true }, n + 3)
            else some ({ d with quote := c }, n + 1)
        | _ => some ({ d with quote := c }, n + 1)
      else none

namespace Layout

/-- The token of a string's inside at the head of a text. -/
def scanInside (e : Expected) (d : Delimiter) (text : List Char) : ContentEnd :=
  match text with
  | c :: rest =>
      if e.escapeInterpolation && (c == '\x7b' || c == '\x7d') && d.format then
        if rest.head? == some c then .found .escapeInterpolation 2 else .nothing
      else if e.stringContent then scanContent d (c :: rest) 0 false 0
      else .openEnded
  | [] => .openEnded

/-- The token at the end of a line, if the layout calls for one. A block ends only when all comments
at its own depth have been passed. -/
def lineToken? (l : Layout) (e : Expected) (g : Gap) (rest : List Char) :
    Option (LayoutToken × Layout) :=
  let quoteNext := rest.head? == some '"' || rest.head? == some '\'' || rest.head? == some '\x60'
  let dedentFits := e.dedent ||
    (!e.newline && !(e.stringStart && quoteNext) && !e.insideBrackets)
  let newline := if e.newline && !e.anything then some (LayoutToken.newline, l) else none
  match l.indents with
  | [] => newline
  | current :: outer =>
      if e.indent && g.indent > current then
        some (.indent, { l with indents := g.indent :: l.indents })
      else if dedentFits && g.indent < current && !l.insideFormat
          && g.commentIndent.all (· < current) then
        some (.dedent, { l with indents := outer })
      else newline

/-- The token that the layout calls for at the head of a text. -/
def scan? (l : Layout) (e : Expected) (text : List Char) : Option LayoutMatch :=
  let inside :=
    match l.delimiters with
    | d :: _ =>
        if (e.escapeInterpolation || e.stringContent) && !e.anything then scanInside e d text
        else .openEnded
    | [] => .openEnded
  match inside with
  | .nothing => none
  | .found token length =>
      let layout := match token with
        | .stringEnd => { l with delimiters := l.delimiters.tail, insideFormat := false }
        | _ => l
      some ⟨token, 0, length, layout⟩
  | .openEnded =>
      if e.stringContent && !l.delimiters.isEmpty && !e.anything then none
      else
        let comments := e.indent || e.dedent || e.newline || e.exceptClause
        match scanGap comments text {} false with
        | none => none
        | some (g, rest) =>
            match if g.lineEnded then l.lineToken? e g rest else none with
            | some (token, layout) => some ⟨token, 0, 0, layout⟩
            | none =>
                if e.stringStart && g.commentIndent.isNone then
                  match scanOpening rest ⟨' ', false, false, false, false⟩ 0 with
                  | some (d, n) =>
                      some ⟨.stringStart, g.length, n,
                        { l with delimiters := d :: l.delimiters, insideFormat := d.format }⟩
                  | none => none
                else none

end Layout

end IssueTrace.Source
