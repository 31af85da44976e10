import PathAudit.ModuleCode.Automaton
import PathAudit.ModuleCode.Layout
import PathAudit.ModuleCode.Lexeme

/-! Reading a source. Where the grammar leaves several ways open, all of them are followed side by
side, each with its own view of where lines and blocks end; a way that comes to a token it has no
use for is given up. The source makes sense if some way leads to its end. -/
namespace PathAudit.ModuleCode

/-- A statement of the source, or a continued line among the statements. -/
structure Shown where
  /-- Whether it does something when the module is loaded. -/
  runs : Bool
  start : Nat
  finish : Nat
  deriving DecidableEq, Repr, Inhabited

inductive Display where
  | empty
  | one (item : Shown)
  | both (first second : Display)
  deriving Repr, Inhabited

namespace Display

def before (rest : List Shown) : Display → List Shown
  | .empty => rest
  | .one item => item :: rest
  | .both first second => first.before (second.before rest)

def toList (d : Display) : List Shown := d.before []

def count : Display → Nat
  | .empty => 0
  | .one _ => 1
  | .both first second => first.count + second.count

def append : Display → Display → Display
  | .empty, d => d
  | d, .empty => d
  | d, e => .both d e

end Display

structure Part where
  /-- Whether it is a comment or a continued line. -/
  aside : Bool := false
  start : Nat
  finish : Nat
  shown : Display := .empty
  deriving Repr, Inhabited

structure Frame where
  state : State
  part : Part
  deriving Inhabited

structure Reading where
  /-- The parts read so far, the last one first, each with the state after it. -/
  stack : List Frame := []
  place : Cursor
  layout : Layout := {}
  weight : Int := 0
  deriving Inhabited

namespace Rule

def runs : Rule → Bool
  | .importing | .importingFrom | .futureImport | .functionDefinition | .classDefinition
  | .decorated => false
  | _ => true

end Rule

namespace Part

/-- The rules whose parts stand side by side with what is around them. -/
private def isTransparent (rule : Nat) : Bool :=
  rule = Rule.statement.number || rule = Rule.line.number || Automaton.isRepetition rule

private def runsRule (rule : Nat) : Bool := (Rule.ofNat rule).runs

def ofParts (rule : Nat) (parts : List Part) : Part :=
  let start := (parts.head?.map (·.start)).getD 0
  let finish := (parts.getLast?.map (·.finish)).getD 0
  let shown := if isTransparent rule then parts.foldl (fun d part => d.append part.shown) .empty
    else .one ⟨runsRule rule, start, finish⟩
  ⟨false, start, finish, shown⟩

def ofAside (comment : Bool) (start finish : Nat) : Part :=
  ⟨true, start, finish, if comment then .empty else .one ⟨true, start, finish⟩⟩

end Part

namespace Reading

def state (r : Reading) : State :=
  match r.stack with
  | frame :: _ => frame.state
  | [] => .initial

def shown (r : Reading) : List Shown :=
  r.stack.foldl (fun rest frame => frame.part.shown.before rest) []

def count (r : Reading) : Nat := r.stack.foldl (fun n frame => n + frame.part.shown.count) 0

/-- The better of two readings of the same text: the one worth more, or else the one with fewer
statements, or else the first. -/
def better (a b : Reading) : Reading :=
  if a.weight < b.weight || (a.weight = b.weight && b.count < a.count) then b else a

private def split : Nat → List Frame → List Part → List Part × List Frame
  | 0, stack, parts => (parts, stack)
  | _, [], parts => (parts, [])
  | count + 1, frame :: stack, parts =>
    split (if frame.part.aside then count + 1 else count) stack (frame.part :: parts)

private def push (r : Reading) (state : State) (part : Part) : Reading :=
  { r with stack := ⟨state, part⟩ :: r.stack }

/-- Puts a finished production in the place of its parts. The asides after them stay where they
are. -/
def reduce? (r : Reading) (production : Nat) : Option Reading := do
  let p := Automaton.productionAt production
  let after := r.stack.takeWhile (·.part.aside)
  let (parts, below) := split p.steps.size (r.stack.drop after.length) []
  let base : Reading := { r with stack := below, weight := r.weight + p.weight }
  let state ← base.state.move? (.rule p.rule)
  let read := base.push state (.ofParts p.rule parts)
  return after.foldr (fun frame r => r.push state frame.part) read

def take? (r : Reading) (lexeme : Lexeme) : Option Reading := do
  let state ← r.state.move? (.token lexeme.token.index)
  let taken := r.push state { start := lexeme.start, finish := lexeme.after.offset }
  return { taken with place := lexeme.after }

structure Outcome where
  next : Option Reading := none
  branches : List Reading := []
  result : Option Reading := none
  deriving Inhabited

private def isWhole (production : Nat) : Bool :=
  (Automaton.productionAt production).rule = Automaton.whole

/-- The word as a name, where it means nothing else. -/
private def asName (state : State) (t : Token) : Option Token :=
  match t with
  | .word text =>
    if !Token.reservedWords.contains text && state.next.has .name then some .name else none
  | _ => none

/-- Puts finished productions in the place of their parts until the token can be taken. Of several
productions the last one is followed at once; the others look at the text anew. -/
def settle : Nat → Reading → Lexeme → Outcome
  | 0, _, _ => {}
  | fuel + 1, r, lexeme =>
    let choice := r.state.choose lexeme.token.index
    if lexeme.token = .finish && (r.stack.all (·.part.aside) || choice.finished.any isWhole) then
      { result := some r }
    else
      let reduced := choice.finished.filterMap r.reduce?
      if choice.taken then { next := r.take? lexeme, branches := reduced }
      else
        match reduced.getLast? with
        | some last =>
          let outcome := settle fuel last lexeme
          { outcome with branches := reduced.dropLast ++ outcome.branches }
        | none =>
          match asName r.state lexeme.token with
          | some t => settle fuel r { lexeme with token := t }
          | none => {}

/-- Reads one token, or what may stand between tokens; before a token is taken, at most `patience`
productions may be finished. -/
def step (patience : Nat) (r : Reading) : Outcome :=
  let valid := r.state.next
  match r.layout.find? valid r.place with
  | some (lexeme, layout) => settle patience { r with layout } lexeme
  | none =>
    match Finding.find? valid r.place with
    | some (.token lexeme) => settle patience r lexeme
    | some (.aside comment start after) =>
      let part := Part.ofAside comment start after.offset
      { next := some { r.push r.state part with place := after } }
    | none => {}

/-- Whether two readings can no longer be told apart by what follows. -/
def same (a b : Reading) : Bool :=
  a.place.offset = b.place.offset && a.layout = b.layout && a.stack.length = b.stack.length &&
    (a.stack.zip b.stack).all fun (f, g) => f.state.items == g.state.items

/-- Adds a reading; one that cannot be told apart from it gives way to the better of the two. -/
def add : List Reading → Reading → List Reading
  | [], r => [r]
  | old :: rest, r => if old.same r then old.better r :: rest else old :: add rest r

def limit : Nat := 64

def slowest? : List Reading → Option (List Reading × Reading × List Reading)
  | [] => none
  | r :: rest =>
    match slowest? rest with
    | none => some ([], r, [])
    | some (before, s, after) =>
      if s.place.offset < r.place.offset then some (r :: before, s, after) else some ([], r, rest)

/-- Follows the readings, the slowest first, until none is left. The best of those that have reached
the end is kept in `best`. -/
def run : Nat → Option Reading → List Reading → Option Reading
  | 0, best, _ => best
  | fuel + 1, best, readings =>
    match slowest? readings with
    | none => best
    | some (before, r, after) =>
      let outcome := r.step (fuel + 1)
      let next := before ++ outcome.next.toList ++ after ++ outcome.branches
      run fuel (Option.merge better best outcome.result) ((next.foldl add []).take limit)

def source? (s : List Char) : Option (List Shown) :=
  (run (limit * (8 * s.length + 64)) none [{ place := .ofText s }]).map shown

end Reading

end PathAudit.ModuleCode
