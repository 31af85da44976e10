import PathAudit.ModuleCode.Token

/-! How the rules of a grammar are written, and the productions they stand for. A phrase may leave
parts open; its productions are all the plain sequences of symbols that it allows. A repetition
becomes a rule of its own, which is one item or two shorter repetitions. -/
namespace PathAudit.ModuleCode

inductive Side where
  | left
  | right
  deriving DecidableEq, Repr

/-- What a production, once part of it is read, is worth against its rivals. -/
structure Standing where
  rank : Int := 0
  side : Option Side := none
  deriving DecidableEq, Repr, Inhabited

inductive Phrase (ρ : Type) where
  | token (t : Token)
  | rule (r : ρ)
  | nothing
  | pair (first second : Phrase ρ)
  | either (first second : Phrase ρ)
  | many (item : Phrase ρ)
  | standing (s : Standing) (inner : Phrase ρ)
  /-- Readings with a greater weight are preferred. -/
  | weighing (weight : Int) (inner : Phrase ρ)

namespace Phrase

variable {ρ : Type}

def word (text : String) : Phrase ρ := .token (.word text)

def mark (text : String) : Phrase ρ := .token (.mark text)

def all : List (Phrase ρ) → Phrase ρ
  | [] => .nothing
  | [p] => p
  | p :: ps => .pair p (all ps)

def any : List (Phrase ρ) → Phrase ρ
  | [] => .nothing
  | [p] => p
  | p :: ps => .either p (any ps)

def anyWord (texts : List String) : Phrase ρ := any (texts.map word)

def anyMark (texts : List String) : Phrase ρ := any (texts.map mark)

def opt (p : Phrase ρ) : Phrase ρ := .either p .nothing

def repeated (p : Phrase ρ) : Phrase ρ := opt (.many p)

def divided (divider : String) (p : Phrase ρ) : Phrase ρ :=
  .pair p (repeated (.pair (mark divider) p))

def series (p : Phrase ρ) : Phrase ρ := divided "," p

/-- A series that may end in a comma. -/
def list (p : Phrase ρ) : Phrase ρ := .pair (series p) (opt (mark ","))

def between (left right : String) (p : Phrase ρ) : Phrase ρ := all [mark left, p, mark right]

def ranked (rank : Int) (p : Phrase ρ) : Phrase ρ := .standing { rank } p

def leftward (rank : Int) (p : Phrase ρ) : Phrase ρ := .standing ⟨rank, some .left⟩ p

def rightward (rank : Int) (p : Phrase ρ) : Phrase ρ := .standing ⟨rank, some .right⟩ p

end Phrase

/-- A part of a production: a token or a rule, both by their number. -/
inductive Symbol where
  | token (number : Nat)
  | rule (number : Nat)
  deriving DecidableEq, Repr, Inhabited

structure Step where
  symbol : Symbol
  standing : Standing
  deriving DecidableEq, Repr, Inhabited

structure Sequence where
  steps : List Step := []
  weight : Int := 0
  deriving DecidableEq, Repr, Inhabited

namespace Sequence

def append (a b : Sequence) : Sequence := ⟨a.steps ++ b.steps, a.weight + b.weight⟩

def single (symbol : Symbol) (standing : Standing) : Sequence := ⟨[⟨symbol, standing⟩], 0⟩

end Sequence

/-- The repetitions found so far, each with the sequences of one item. -/
abbrev Repetitions := Array (List Sequence)

namespace Phrase

variable {ρ : Type}

/-- The sequences that a phrase allows. A repetition is the rule whose number is `base` more than
its place among the repetitions. -/
def sequences (number : ρ → Nat) (base : Nat) :
    Phrase ρ → Standing → Repetitions → List Sequence × Repetitions
  | .token t, s, reps => ([.single (.token t.index) s], reps)
  | .rule r, s, reps => ([.single (.rule (number r)) s], reps)
  | .nothing, _, reps => ([{}], reps)
  | .pair first second, s, reps =>
    let (before, reps) := sequences number base first s reps
    let (after, reps) := sequences number base second s reps
    (before.flatMap fun a => after.map a.append, reps)
  | .either first second, s, reps =>
    let (one, reps) := sequences number base first s reps
    let (other, reps) := sequences number base second s reps
    (one ++ other.filter fun q => !one.contains q, reps)
  | .many item, s, reps =>
    let (inner, reps) := sequences number base item {} reps
    ([.single (.rule (base + reps.size)) s], reps.push inner)
  | .standing s inner, _, reps => sequences number base inner s reps
  | .weighing weight inner, s, reps =>
    let (inner, reps) := sequences number base inner s reps
    (inner.map fun q => { q with weight := q.weight + weight }, reps)

end Phrase

structure Production where
  rule : Nat
  steps : Array Step
  weight : Int
  deriving DecidableEq, Repr, Inhabited

namespace Production

def symbolAt? (p : Production) (i : Nat) : Option Symbol := p.steps[i]?.map (·.symbol)

def ofSequence (rule : Nat) (q : Sequence) : Production := ⟨rule, q.steps.toArray, q.weight⟩

/-- The productions of a repetition: its items, and two repetitions in a row. -/
def ofRepetition (rule : Nat) (items : List Sequence) : List Production :=
  let twice : Step := ⟨.rule rule, {}⟩
  ⟨rule, #[twice, twice], 0⟩ :: items.map (ofSequence rule)

def ofRules {ρ : Type} (number : ρ → Nat) (phrases : List (Phrase ρ)) : List Production :=
  let base := phrases.length
  let (own, reps) := phrases.foldl (fun (found, reps) p =>
    let (sequences, reps) := p.sequences number base {} reps
    (sequences :: found, reps)) ([], (#[] : Repetitions))
  let ofRule := fun (sequences, rule) =>
    (sequences.filter fun q : Sequence => !q.steps.isEmpty).map (ofSequence rule)
  own.reverse.zipIdx.flatMap ofRule ++
    (reps.toList.zipIdx base).flatMap fun (items, rule) => ofRepetition rule items

end Production

end PathAudit.ModuleCode
