/-
Patterns and what they match. The meaning of a pattern is the list of places where a match
that starts at a given place can end; a text matches when some place in it has an end. A
place knows the character before it and the text after it, which is all that a pattern can
ask of its surroundings.
-/
import ValidatorGen.Pattern.CharSet

namespace ValidatorGen

/-- A condition on a place between characters. -/
inductive Pattern.Look
  | startText
  | endText
  | startLine
  | endLine
  /-- Start of a line where carriage returns end lines as well. -/
  | startLineCR
  /-- End of a line where carriage returns end lines as well. -/
  | endLineCR
  | wordBoundary
  | noWordBoundary
  | wordStart
  | wordEnd
  | wordStartHalf
  | wordEndHalf
  deriving DecidableEq, Repr

/-- A pattern. -/
inductive Pattern
  | empty
  | one (set : Pattern.CharSet)
  | look (condition : Pattern.Look)
  | seq (a b : Pattern)
  | alt (a b : Pattern)
  | rep (a : Pattern) (min : Nat) (max : Option Nat)
  deriving Repr

namespace Pattern

open Text

/-- A place in a text. -/
structure Place where
  before : Option Char
  rest : List Char
  deriving DecidableEq, Repr

/-- The places of a text, from its start to its end. -/
def places : Option Char → List Char → List Place
  | before, [] => [⟨before, []⟩]
  | before, c :: rest => ⟨before, c :: rest⟩ :: places (some c) rest

/-- Whether a condition holds at a place. -/
def Look.holds (p : Place) : Look → Bool :=
  let after := p.rest.head?
  let wordBefore := p.before.any isWordChar
  let wordAfter := after.any isWordChar
  fun
  | .startText => p.before.isNone
  | .endText => after.isNone
  | .startLine => p.before.isNone || p.before == some '\n'
  | .endLine => after.isNone || after == some '\n'
  | .startLineCR =>
    p.before.isNone || p.before == some '\n' || (p.before == some '\r' && after != some '\n')
  | .endLineCR =>
    after.isNone || after == some '\r' || (after == some '\n' && p.before != some '\r')
  | .wordBoundary => wordBefore != wordAfter
  | .noWordBoundary => wordBefore == wordAfter
  | .wordStart => !wordBefore && wordAfter
  | .wordEnd => wordBefore && !wordAfter
  | .wordStartHalf => !wordBefore
  | .wordEndHalf => !wordAfter

/-- Adds the places that are not there yet. In one text a place is known by what comes
after it. -/
def addPlaces (known new : List Place) : List Place :=
  new.foldl (fun known p =>
    if known.any fun q => q.rest.length == p.rest.length then known else known ++ [p]) known

/-- The places reached from some places in one step. -/
def stepAll (step : Place → List Place) (ps : List Place) : List Place :=
  addPlaces [] (ps.flatMap step)

/-- The places reached in exactly `n` steps; none are left once there is nowhere to go. -/
def exactly (step : Place → List Place) : Nat → List Place → List Place
  | 0, ps => ps
  | n + 1, ps =>
    let next := stepAll step ps
    -- a step that stays everywhere, or that leads nowhere, ends the walk
    if next.isEmpty || next == ps then next else exactly step n next

/-- The places reached in at most `n` steps. -/
def atMost (step : Place → List Place) : Nat → List Place → List Place
  | 0, ps => ps
  | n + 1, ps =>
    let next := addPlaces ps (stepAll step ps)
    if next.length == ps.length then ps else atMost step n next

/-- Where a match that starts at a place can end. -/
def ends : Pattern → Place → List Place
  | .empty, p => [p]
  | .one set, p =>
    match p.rest with
    | [] => []
    | c :: rest => if set.mem c then [⟨some c, rest⟩] else []
  | .look condition, p => if condition.holds p then [p] else []
  | .seq a b, p => stepAll b.ends (a.ends p)
  | .alt a b, p => addPlaces (a.ends p) (b.ends p)
  | .rep a min max, p =>
    let start := exactly a.ends min [p]
    match max with
    | none => atMost a.ends (p.rest.length + 1) start
    | some max => atMost a.ends (max - min) start

/-- Whether the pattern matches somewhere in the text. -/
def isMatch (pattern : Pattern) (text : String) : Bool :=
  (places none text.toList).any fun p => !(pattern.ends p).isEmpty

/-- How much room a set takes once it is laid out, in bytes, roughly. -/
def CharSet.weight : CharSet → Nat
  | .empty => 10
  | .range _ last => if last < 0x80 then 24 else 200
  | .digit => 5000
  | .blank => 500
  | .word => 48000
  | .table rows => 64 * rows.length
  | .union a b => a.weight + b.weight
  | .inter a b => a.weight + b.weight
  | .diff a b => a.weight + b.weight
  | .symmDiff a b => a.weight + b.weight
  | .compl a => a.weight + 200
  | .anyCase a => 2 * a.weight

/-- How much room a pattern takes once its repetitions are laid out, in bytes, roughly. -/
def weight : Pattern → Nat
  | .empty => 24
  | .one set => set.weight
  | .look _ => 24
  | .seq a b => a.weight + b.weight
  | .alt a b => a.weight + b.weight + 24
  | .rep a min max => a.weight * (1 + (max.getD (min + 1) - 1)) + 24

/-- Patterns that take more room than this are refused. -/
def weightLimit : Nat := 10 * (1 <<< 20)

end Pattern

end ValidatorGen
