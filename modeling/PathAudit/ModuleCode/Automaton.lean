import PathAudit.ModuleCode.Grammar

/-! What may follow what has been read. A state holds the productions that are being read, how far
each has been read, and the tokens that may come after it. From a state and a symbol there is one
next state; from a state and a token it follows whether the token is taken or a finished production
is put in its place. Where both are possible the ranks decide, and where they leave it open all ways
are gone. -/
namespace PathAudit.ModuleCode

/-- A production read up to a place, and the tokens that may follow it. -/
structure Item where
  production : Nat
  read : Nat
  ahead : TokenSet
  deriving DecidableEq, Repr, Inhabited

/-- A rule that something read as another rule may start with. -/
structure Corner where
  rule : Nat
  /-- Tokens that may follow the rule within the other one. -/
  ahead : TokenSet
  /-- Whether what follows the other rule may follow this one. -/
  inherits : Bool
  deriving DecidableEq, Repr, Inhabited

namespace Automaton

def whole : Nat := Rule.module.number

def productionAt (i : Nat) : Production := Grammar.productions.getD i default

def ruleCount : Nat := Grammar.productions.foldl (fun n p => max n (p.rule + 1)) 0

def isRepetition (rule : Nat) : Bool := Grammar.rules.length ≤ rule

private def firstIn (table : Array TokenSet) : Symbol → TokenSet
  | .token n => 1 <<< n
  | .rule r => table.getD r 0

/-- What a rule may start with, as far as `rounds` looks at the productions show. -/
def firstsAfter : Nat → Array TokenSet
  | 0 => .replicate ruleCount 0
  | rounds + 1 =>
    Grammar.productions.foldl (fun table p =>
      match p.symbolAt? 0 with
      | some symbol => table.modify p.rule (· ||| firstIn table symbol)
      | none => table) (firstsAfter rounds)

/-- The tokens each rule may start with. Productions start with each other at most 24 deep. -/
def firsts : Array TokenSet := firstsAfter 24

def first (s : Symbol) : TokenSet := firstIn firsts s

def nearCorners (rule : Nat) : List Corner :=
  Grammar.productions.toList.filterMap fun p =>
    match p.symbolAt? 0 with
    | some (.rule r) =>
      if p.rule = rule then
        match p.symbolAt? 1 with
        | some symbol => some ⟨r, first symbol, false⟩
        | none => some ⟨r, 0, true⟩
      else none
    | _ => none

def nearCornerTable : Array (List Corner) :=
  ((List.range ruleCount).map nearCorners).toArray

private def through (c : Corner) (d : Corner) : Corner :=
  if d.inherits then { d with ahead := d.ahead ||| c.ahead, inherits := c.inherits } else d

private def record (found : Array (Option Corner)) (c : Corner) : Array (Option Corner) × Bool :=
  match found.getD c.rule none with
  | none => (found.setIfInBounds c.rule (some c), true)
  | some old =>
    let ahead := old.ahead ||| c.ahead
    let inherits := old.inherits || c.inherits
    if ahead = old.ahead && inherits = old.inherits then (found, false)
    else (found.setIfInBounds c.rule (some ⟨c.rule, ahead, inherits⟩), true)

private def spread : Nat → List Nat → Array (Option Corner) → Array (Option Corner)
  | 0, _, found => found
  | _, [], found => found
  | fuel + 1, rule :: rest, found =>
    match found.getD rule none with
    | none => spread fuel rest found
    | some c =>
      let step := fun (found, todo) d =>
        let (found, news) := record found (through c d)
        (found, if news then d.rule :: todo else todo)
      let (found, todo) := (nearCornerTable.getD rule []).foldl step (found, rest)
      spread fuel todo found

/-- All rules that something read as the rule may start with, itself included. -/
def corners (rule : Nat) : List Corner :=
  let start := (Array.replicate ruleCount none).setIfInBounds rule (some ⟨rule, 0, true⟩)
  (spread (100 * ruleCount) [rule] start).toList.filterMap id

def cornerTable : Array (List Corner) := ((List.range ruleCount).map corners).toArray

def startingWithToken : Array (List Nat) :=
  (Grammar.productions.toList.zipIdx).foldr (fun (p, i) table =>
    match p.symbolAt? 0 with
    | some (.token n) => table.modify n (i :: ·)
    | _ => table) (.replicate (Token.kinds + Token.words.length + Token.marks.length) [])

def startingWithRule : Array (List Nat) :=
  (Grammar.productions.toList.zipIdx).foldr (fun (p, i) table =>
    match p.symbolAt? 0 with
    | some (.rule r) => table.modify r (i :: ·)
    | _ => table) (.replicate ruleCount [])

def startingWith : Symbol → List Nat
  | .token n => startingWithToken.getD n []
  | .rule r => startingWithRule.getD r []

end Automaton

open Automaton

namespace Item

def symbol? (i : Item) : Option Symbol := (productionAt i.production).symbolAt? i.read

def standing (i : Item) : Standing :=
  match (productionAt i.production).steps[i.read - 1]? with
  | some step => step.standing
  | none => {}

def rule (i : Item) : Nat := (productionAt i.production).rule

def next (i : Item) : TokenSet :=
  match i.symbol? with
  | some s => first s
  | none => i.ahead

def afterNext (i : Item) : TokenSet :=
  match (productionAt i.production).symbolAt? (i.read + 1) with
  | some symbol => first symbol
  | none => i.ahead

end Item

structure State where
  items : List Item
  next : TokenSet
  /-- For each rule that may start here, the tokens that may follow it. -/
  follow : Array TokenSet
  deriving Inhabited

namespace State

private def addCorners (follow : Array TokenSet) (i : Item) : Array TokenSet :=
  match i.symbol? with
  | some (.rule r) =>
    let after := i.afterNext
    (cornerTable.getD r []).foldl (fun follow c =>
      follow.modify c.rule (· ||| c.ahead ||| if c.inherits then after else 0)) follow
  | _ => follow

private def startsRule (i : Item) : Bool :=
  match i.symbol? with
  | some (.rule _) => true
  | _ => false

def ofItems (items : List Item) : State where
  items
  next := items.foldl (fun set i => set ||| i.next) 0
  follow :=
    if items.any startsRule then items.foldl addCorners (.replicate ruleCount 0) else #[]

/-- The state in which nothing has been read: every production of the whole is open, and the text
may be empty. -/
def initial : State :=
  let openings := (Grammar.productions.toList.zipIdx).filterMap fun (p, i) =>
    if p.rule = whole then some ⟨i, 0, .single .finish⟩ else none
  let state := ofItems openings
  { state with next := state.next ||| .single .finish }

def move? (s : State) (x : Symbol) : Option State :=
  let further := s.items.filterMap fun i =>
    if i.symbol? = some x then some { i with read := i.read + 1 } else none
  let begun := (startingWith x).filterMap fun p =>
    match s.follow.getD (productionAt p).rule 0 with
    | 0 => none
    | ahead => some ⟨p, 1, ahead⟩
  match further ++ begun with
  | [] => none
  | items => some (ofItems items)

structure Choice where
  /-- The productions that are finished and may be put in the place of their parts. -/
  finished : List Nat
  taken : Bool
  deriving Repr

def completed (s : State) (token : Nat) : List Item :=
  s.items.filter fun i => i.symbol?.isNone && i.ahead.testBit token

private def highest (items : List Item) : List Item :=
  items.filter fun i => items.all fun j => j.standing.rank ≤ i.standing.rank

def carriedOn (s : State) (token : Nat) : List Item :=
  s.items.filter fun i => i.symbol?.isSome && i.next.testBit token

/-- What the ranks leave of the two ways, given the items finished and those carried on. A
repetition is always finished first. -/
private def weigh (all finished carried : List Item) : Choice :=
  let rank := (finished.head?.map (·.standing.rank)).getD 0
  let rules := (carried ++ all).map (·.rule)
  let more := carried.any fun i => rank < i.standing.rank
  let less := carried.any fun i => i.standing.rank < rank
  let sides := finished.map (·.standing.side)
  let finish : Choice := ⟨finished.map (·.production), false⟩
  let take : Choice := ⟨[], true⟩
  if (rules.head?.any isRepetition) && rules.all (some · == rules.head?) then finish
  else if more && !less then take
  else if less && !more then finish
  else if !more && !less && sides.all (· == some .left) then finish
  else if !more && !less && sides.all (· == some .right) then take
  else { finish with taken := true }

def choose (s : State) (token : Nat) : Choice :=
  let all := s.completed token
  let finished := highest all
  let carried := s.carriedOn token
  match finished, carried with
  | [], carried => ⟨[], !carried.isEmpty⟩
  | finished, [] => ⟨finished.map (·.production), false⟩
  | finished, carried => weigh all finished carried

end State

end PathAudit.ModuleCode
