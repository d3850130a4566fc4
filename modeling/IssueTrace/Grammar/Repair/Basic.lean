import IssueTrace.Grammar.Repair.Contest

/-!
# Reading a faulty text

Reads a text that fits no rule. A reading goes on by the automaton for as long as it can. When no
reading can take its next token, the best one loses the thread, and is taken up again in one of these
ways: a token that is lacking is supplied; what was read since an earlier state is passed over, so
that the next token fits; or the next token is passed over. All of them are tried side by side, and
what comes out is the cheapest reading of the whole text.
-/

namespace IssueTrace.Grammar.Repair

variable {σ : Type}

/-- The fragment of a token at the end of what has been read. -/
def Sight.fragment (t : Sight σ) (offset : Nat) (extra : Bool) : Fragment :=
  let m : Measure := { gap := t.start - offset, start := t.start, stop := t.stop }
  match t.symbol with
  | some s => .token s extra m
  | none => .unreadable m

/-- The state after a symbol. -/
def goto (e : Setting σ) (state : Option Nat) (symbol : Nat) : SessionM σ (Option Nat) :=
  match state with
  | some n => onAutomaton (e.machine.move? n symbol)
  | none => return none

def actionOn (e : Setting σ) (state : Option Nat) (symbol : Option Nat) : SessionM σ Action :=
  match state, symbol with
  | some n, some s => onAutomaton (e.machine.action n s)
  | _, _ => return {}

def hasActions (e : Setting σ) (state symbol : Option Nat) : SessionM σ Bool := do
  let a ← actionOn e state symbol
  return !a.reduce.isEmpty || a.shift.isSome

/-- The sequence of parts that makes the best whole. -/
def bestParts (make : List Fragment → Fragment) : List (List Fragment) → List Fragment
  | [] => []
  | parts :: rest =>
      rest.foldl
        (fun best other =>
          let whole := fun ps => make (Fragment.splitExtras ps).1
          if (whole best).improves (whole other) then other else best)
        parts

/-- Puts the parts of a production together on a new reading, and joins it to an earlier one if it
can go on as that. -/
def reduceTo (e : Setting σ) (v production knot : Nat) (sequences : List (List Fragment)) :
    SessionM σ Unit := do
  let w := (← get).heads.size
  if w > readingLimit + readingOverflow then return ()
  else
    let w ← addHead v knot
    let s ← get
    let offset := s.offset w
    let make := Fragment.ofProduction e.machine.grammar offset production
    let (parts, extras) := Fragment.splitExtras (bestParts make sequences)
    let lhs := (e.machine.grammar.productions.getD production default).lhs
    let next ← goto e (s.state w) lhs
    push e w (some (make parts)) next
    extras.forM fun f => push e w (some f) next
    let _ ← (List.range w).findM? fun u => if u == v then pure false else merge e u w

/-- Puts the parts of a production together. Gives the first of the readings that this adds. -/
def reduce (e : Setting σ) (v production : Nat) : SessionM σ (Option Nat) := do
  let s ← get
  let before := s.heads.size
  let steps := (e.machine.grammar.productions.getD production default).steps.size
  let knot := (s.heads[v]?.map (·.knot)).getD 0
  (popCount s.knots knot steps).forM fun (k, sequences) => reduceTo e v production k sequences
  return if (← get).heads.size > before then some before else none

/-- The productions that a state may complete on the given tokens, one of each symbol and length,
and whether it can read one of the tokens. -/
def prospects (e : Setting σ) (state : Option Nat) (tokens : List Nat) :
    SessionM σ (Array Nat × Bool) := do
  let production := fun p => e.machine.grammar.productions.getD p default
  let alike := fun p q =>
    (production p).lhs == (production q).lhs && (production p).steps.size == (production q).steps.size
  tokens.foldlM
    (fun (found, reads) t => do
      let a ← actionOn e state (some t)
      let found := a.reduce.foldl
        (fun found p =>
          if p == 0 || (production p).steps.isEmpty || found.any (alike p) then found
          else found.push p)
        found
      let own := a.shift.isSome && !e.machine.grammar.extras.mem t
      return (found, reads || own))
    (#[], false)

/-- Puts together all that can be put together, before any of the given tokens, on a reading and on
those that arise from it. Gives whether one of them can read such a token; where only some tokens
count, the readings that cannot are given up. -/
def reduceAll (e : Setting σ) (start first : Nat) (lookahead : Option Nat) :
    Nat → Nat → Nat → Bool → SessionM σ Bool
  | 0, _, _, reads => return reads
  | fuel + 1, round, v, reads => do
      let s ← get
      let count := s.heads.size
      if count ≤ v then return reads
      else
        let joined ← (List.range' first (v - first)).findM? fun u => merge e u v
        if joined.isSome then reduceAll e start first lookahead fuel (round + 1) v reads
        else
          let tokens := match lookahead with
            | some t => [t]
            | none => (List.range e.machine.grammar.tokenCount).drop 1
          let (found, own) ← prospects e (s.state v) tokens
          let added ← found.foldlM (fun _ p => reduce e v p) (none : Option Nat)
          match own, added with
          | false, some w =>
              if round < readingLimit then
                replaceHead v w
                reduceAll e start first lookahead fuel (round + 1) v reads
              else
                if lookahead.isSome then removeHead v
                reduceAll e start first lookahead fuel (round + 1)
                  (if v == start then count else v + 1) reads
          | false, none =>
              if lookahead.isSome then removeHead v
              reduceAll e start first lookahead fuel (round + 1)
                (if v == start then count else v + 1) reads
          | true, _ =>
              reduceAll e start first lookahead fuel (round + 1)
                (if v == start then count else v + 1) true

/-- Puts together all that can be put together. The end of the text stands for any token. -/
def reduceAllFrom (e : Setting σ) (v : Nat) (lookahead : Option Nat) : SessionM σ Bool := do
  let first := (← get).heads.size
  let fuel := 64 * (first + readingLimit + e.machine.grammar.symbols.size)
  reduceAll e v first (lookahead.filter (· != 0)) fuel 0 v false

/-- Takes a reading as complete. -/
def accept (e : Setting σ) (v : Nat) (next : Sight σ) : SessionM σ Unit := do
  let s ← get
  let g := e.machine.grammar
  let knot := (s.heads[v]?.map (·.knot)).getD 0
  let bottom := (s.knots.getD 0 default).offset
  let wholes := ((popAll s.knots knot).flatMap (·.2)).map fun parts =>
    let parts := parts ++ [next.fragment (s.offset v) true]
    let (after, before) := parts.reverse.span (·.isExtra)
    match before with
    | [] => Fragment.ofFault g e.gauge bottom false parts
    | root :: before =>
        let parts := before.reverse ++ root.parts ++ after.reverse
        match root with
        | .node p _ _ => Fragment.ofProduction g bottom p parts
        | _ => Fragment.ofFault g e.gauge bottom false parts
  modify fun s =>
    { s with
      accepted := s.accepted + wholes.length
      finished := wholes.foldl
        (fun best f =>
          match best with
          | some b => if Fragment.improves b f then some f else some b
          | none => some f)
        s.finished }
  modifyHead v fun h => { h with status := .halted }

/-- Goes back to a state below, and passes over all that was read since. -/
def recoverTo (e : Setting σ) (v depth : Nat) (goal : Option Nat) : SessionM σ Bool := do
  let s ← get
  let g := e.machine.grammar
  let knot := (s.heads[v]?.map (·.knot)).getD 0
  (popCount s.knots knot depth).foldlM
    (fun done (k, sequences) => do
      let s ← get
      if (s.knots.getD k default).state != goal then return done
      else
        let parts := sequences.headD []
        let (k, parts) := match popFault? s.knots k with
          | some (below, fault) => (below, fault.parts ++ parts)
          | none => (k, parts)
        let w ← addHead v k
        let (parts, extras) := Fragment.splitExtras parts
        let offset := (← get).offset w
        if !parts.isEmpty then push e w (some (.ofFault g e.gauge offset true parts)) goal
        extras.forM fun f => push e w (some f) goal
        return true)
    false

/-- Tries to go back to one of the marked states in which the next token can stand. -/
def recoverToMark (e : Setting σ) (v : Nat) (next : Sight σ) (since cost : Nat) (others : Nat) :
    List Mark → SessionM σ Bool
  | [] => return false
  | mark :: marks => do
      let s ← get
      let offset := s.offset v
      let redundant := (List.range others).any fun w =>
        s.state w == mark.state && s.offset w == offset
      if mark.state.isNone || mark.offset == offset || redundant then
        recoverToMark e v next since cost others marks
      else if ← isOutdone e v false (cost + e.gauge.cost mark.offset offset) then return false
      else
        let depth := if since > 0 then mark.depth + 1 else mark.depth
        if ← hasActions e mark.state next.symbol then
          if ← recoverTo e v depth mark.state then return true
          else recoverToMark e v next since cost others marks
        else recoverToMark e v next since cost others marks

/-- Passes over the next token. -/
def passOver (e : Setting σ) (v : Nat) (next : Sight σ) (since : Nat) : SessionM σ Unit := do
  let g := e.machine.grammar
  let s ← get
  let offset := s.offset v
  let extra := (next.symbol.map g.extras.mem).getD false
  let passed := Fragment.ofPassed g e.gauge offset [next.fragment offset extra]
  if since > 0 then
    let knot := (s.heads[v]?.map (·.knot)).getD 0
    match popCount s.knots knot 1 with
    | (k, sequences) :: _ =>
        let w ← addHead v k
        replaceHead v w
        let offset := (← get).offset v
        push e v (some (.ofPassed g e.gauge offset (sequences.headD [] ++ [passed]))) none
    | [] => push e v (some passed) none
  else push e v (some passed) none
  modifyHead v fun h => { h with place := next.after }

def halt (v : Nat) : SessionM σ Unit := modifyHead v fun h => { h with status := .halted }

/-- Goes on with a reading that has lost the thread. -/
def recover (e : Setting σ) (v : Nat) (next : Sight σ) : SessionM σ Unit := do
  let s ← get
  let others := s.heads.size
  let offset := s.offset v
  let marks := ((s.heads[v]?.bind (·.marks)).getD #[]).toList
  let since ← countSinceFault v
  let cost := s.cost v
  let found ← if next.symbol.isSome then recoverToMark e v next since cost others marks
    else pure false
  if next.symbol == some 0 then
    push e v (some (.ofFault e.machine.grammar e.gauge offset false [])) (some 0)
    accept e v next
  else
    let crowded := (← get).heads.size > readingLimit
    if found && (crowded || next.memorable) then halt v
    else if ← isOutdone e v false (cost + Cost.node + e.gauge.cost offset next.stop) then halt v
    else passOver e v next since

/-- Supplies the first token after which the next one completes something. -/
def supply (e : Setting σ) (v : Nat) (next : Sight σ) : SessionM σ Bool := do
  let s ← get
  let state := s.state v
  let tokens := (List.range e.machine.grammar.tokenCount).drop 1
  let supplied ← tokens.findM? fun t => do
    let a ← actionOn e state (some t)
    match a.shift.orElse fun _ => a.postponed with
    | none => return false
    | some after =>
        if state == some after then return false
        else
          let b ← actionOn e (some after) next.symbol
          if b.reduce.isEmpty || b.reduce == #[0] then return false
          else
            let s ← get
            let h := s.heads[v]?
            let w ← addHead v ((h.map (·.knot)).getD 0)
            push e w (some (.ofMissing (s.offset v) t)) (some after)
            reduceAllFrom e w next.symbol
  return supplied.isSome

/-- Loses the thread on several readings, after trying to supply a token to one of them. -/
def loseThread (e : Setting σ) (next : Sight σ) : List Nat → Bool → SessionM σ Unit
  | [], _ => return ()
  | v :: vs, supplied => do
      let supplied ← if supplied then pure true else supply e v next
      push e v none none
      loseThread e next vs supplied

/-- Begins to recover a reading that cannot take its next token. -/
def handleFault (e : Setting σ) (v : Nat) (next : Sight σ) : SessionM σ Unit := do
  let before := (← get).heads.size
  let _ ← reduceAllFrom e v none
  let after := (← get).heads.size
  loseThread e next (v :: List.range' before (after - before)) false
  (List.range (after - before)).forM fun _ => do
    let _ ← merge e v before
  modify fun s =>
    let knot := (s.heads[v]?.map (·.knot)).getD 0
    let marks := marksBelow s.knots knot
    { s with heads := s.heads.modify v fun h => { h with marks := some marks } }
  recover e v next

/-- Whether a reading has taken in some text since it lost the thread. -/
def hasAdvanced (s : Session σ) (h : Head σ) : Nat → Nat → Bool
  | 0, _ => false
  | fuel + 1, knot =>
      let k := s.knots.getD knot default
      match k.links[0]?.bind fun l => l.part.map fun f => (l.below, f) with
      | some (below, f) =>
          if f.measure.gap + (f.measure.stop - f.measure.start) > 0 then true
          else if k.count > h.countAtFault && f.cost == 0 then hasAdvanced s h fuel below
          else false
      | none => false

/-- What comes next for a reading. -/
def lookAhead (e : Setting σ) (v : Nat) : SessionM σ (Option (Sight σ)) := do
  let s ← get
  match s.heads[v]? with
  | none => return none
  | some h =>
      let valid := (s.state v).map fun n => e.machine.valid n s.automaton
      let advanced := (s.knotOf v).cost == 0 || hasAdvanced s h s.knots.size h.knot
      return some (e.look valid advanced h.place)

/-- Puts a token on top of a reading. -/
def shift (e : Setting σ) (v : Nat) (next : Sight σ) (state : Option Nat) (extra : Bool) :
    SessionM σ Unit := do
  let offset := (← get).offset v
  push e v (some (next.fragment offset extra)) state
  modifyHead v fun h => { h with place := next.after }

/-- Reads the next token of a reading: puts together what it completes, in every way, and then
enters it. A keyword is read as a plain word where it cannot stand. A reading that can take neither
is set aside. -/
def readNext (e : Setting σ) (v : Nat) : Nat → Sight σ → SessionM σ Unit
  | 0, _ => halt v
  | fuel + 1, next => do
      let state := (← get).state v
      let isExtra := (next.symbol.map e.machine.grammar.extras.mem).getD false
      match state with
      | none =>
          if isExtra then shift e v next none true else recover e v next
      | some _ =>
          let a ← actionOn e state next.symbol
          if a.reduce.contains 0 then accept e v next
          else
            let added ← a.reduce.foldlM
              (fun last p => do return (← reduce e v p).orElse fun _ => last) (none : Option Nat)
            match a.shift, added with
            | some after, _ => shift e v next (some after) (isExtra && state == some after)
            | none, some w =>
                replaceHead v w
                readNext e v fuel next
            | none, none =>
                let word := { next with symbol := next.fallback, fallback := none }
                if next.fallback.isSome && (← hasActions e state next.fallback) then
                  readNext e v fuel word
                else
                  modifyHead v fun h => { h with status := .paused next }
                  let count := ((← get).knotOf v).count
                  modifyHead v fun h => { h with countAtFault := count }

/-- Goes on with a reading until it has come further than the others. -/
def advance (e : Setting σ) (v : Nat) : Nat → Nat → SessionM σ Nat
  | 0, last => return last
  | fuel + 1, last => do
      let s ← get
      if !s.isActive v then return last
      else
        match ← lookAhead e v with
        | none => return last
        | some next =>
            readNext e v (1024 + 8 * s.knots.size) next
            let offset := (← get).offset v
            if offset > last || (v > 0 && offset == last) then return offset
            else advance e v fuel last

/-- Goes on with each reading. -/
def advanceAll (e : Setting σ) : Nat → Nat → Nat → SessionM σ Nat
  | 0, _, last => return last
  | fuel + 1, v, last => do
      if (← get).heads.size ≤ v then return last
      else
        let last ← advance e v 1024 last
        advanceAll e fuel (v + 1) last

/-- Takes up the best of the readings that have been set aside, if no reading before it goes on, and
gives up the others. Gives the least cost. -/
def resume (e : Setting σ) : Nat → Nat → Bool → Option Nat → SessionM σ (Option Nat)
  | 0, _, _, least => return least
  | left + 1, v, going, least => do
      let s ← get
      match s.heads[v]? with
      | none => return least
      | some h =>
          match h.status with
          | .paused next =>
              if !going && s.accepted < readingLimit then
                let cost := s.cost v
                modifyHead v fun h => { h with status := .active }
                handleFault e v next
                resume e left (v + 1) true (some cost)
              else
                removeHead v
                resume e left v going least
          | _ => resume e left (v + 1) true least

/-- Gives up the readings that are outdone, and takes up the best one if none goes on. Gives the
least cost of those that go on. -/
def condense (e : Setting σ) : SessionM σ (Option Nat) := do
  let least ← compareAll e (4 * (← get).heads.size + 4) 0 none
  modify fun s => { s with heads := s.heads.extract 0 readingLimit }
  resume e (← get).heads.size 0 false least

/-- Follows the readings to the end of the text. -/
def follow (e : Setting σ) : Nat → Nat → SessionM σ Unit
  | 0, _ => return ()
  | fuel + 1, last => do
      let last ← advanceAll e (4 * (readingLimit + readingOverflow)) 0 last
      let least ← condense e
      let s ← get
      let settled := match s.finished, least with
        | some f, some cost => decide (f.cost < cost)
        | some _, none => true
        | none, _ => false
      if settled || s.heads.isEmpty then return ()
      else follow e fuel last

/-- The cheapest reading of a text. -/
def read? (e : Setting σ) (start : σ) (offset fuel : Nat) : Option Fragment :=
  let run : SessionM σ Unit := do
    let n ← onAutomaton (e.machine.intern #[⟨0, TokenSet.single 0⟩])
    set ({ automaton := (← get).automaton
           knots := #[{ state := some n, offset }]
           heads := #[{ knot := 0, place := start }] } : Session σ)
    follow e fuel 0
  (run.run {}).2.finished

end IssueTrace.Grammar.Repair
