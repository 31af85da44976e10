/-! Patterns over texts in which a percent sign stands for any characters and an underscore for any
one. The case of the letters A to Z does not count. -/
namespace PathAudit.Pattern

def suffixes {α : Type} : List α → List (List α)
  | [] => [[]]
  | a :: rest => (a :: rest) :: suffixes rest

def standsFor (p c : Char) : Bool := p = '_' || p.toLower == c.toLower

def accepts : List Char → List Char → Bool
  | [], s => s.isEmpty
  | p :: rest, s =>
    if p = '%' then (suffixes s).any (accepts rest)
    else
      match s with
      | [] => false
      | c :: s => standsFor p c && accepts rest s

def anyFrom : List Bool → List Bool
  | [] => []
  | b :: rest => (b || rest.any id) :: anyFrom rest

/-- From the answers for a pattern's rest on all ends of a text, those for the pattern. -/
def answersBefore (p : Char) (text : List Char) (answers : List Bool) : List Bool :=
  if p = '%' then anyFrom answers
  else List.zipWith (fun c answer => standsFor p c && answer) text (answers.drop 1) ++ [false]

/-- For each end of the text, the whole text first, whether it is of the pattern's form. -/
def answers : List Char → List Char → List Bool
  | [], text => (suffixes text).map List.isEmpty
  | p :: rest, text => answersBefore p text (answers rest text)

theorem anyFrom_map {α : Type} (accept : List α → Bool) (s : List α) :
    anyFrom ((suffixes s).map accept) = (suffixes s).map fun t => (suffixes t).any accept := by
  induction s with
  | nil => simp [suffixes, anyFrom]
  | cons a rest ih =>
    simp only [suffixes, List.map_cons, anyFrom, ih, List.any_cons, List.any_map,
      Function.comp_def, id]

theorem zipWith_map {α : Type} (here : α → Bool) (accept : List α → Bool) (s : List α) :
    List.zipWith (fun a answer => here a && answer) s (((suffixes s).map accept).drop 1) ++
        [false] =
      (suffixes s).map fun t =>
        match t with
        | [] => false
        | a :: rest => here a && accept rest := by
  induction s with
  | nil => simp [suffixes]
  | cons a rest ih =>
    cases rest with
    | nil => simp [suffixes]
    | cons b rest => simpa [suffixes] using ih

theorem answers_eq (p s : List Char) : answers p s = (suffixes s).map (accepts p) := by
  induction p with
  | nil => simp [answers, accepts]
  | cons p rest ih =>
    simp only [answers, answersBefore, ih]
    split
    · next any => simp [anyFrom_map, accepts, any]
    · next one =>
      rw [zipWith_map]
      congr 1
      funext t
      cases t <;> simp [accepts, one]

/-- The same as `accepts`, in time that grows with the product of the two lengths. -/
def decides (p s : List Char) : Bool := (answers p s).headD false

theorem decides_eq_accepts (p s : List Char) : decides p s = accepts p s := by
  rw [decides, answers_eq]
  cases s <;> rfl

/-- Patterns and texts are read up to their first null character. -/
def upToNull (s : List Char) : List Char := s.takeWhile (· != '\x00')

def around (inner : List Char) : List Char := upToNull ('%' :: inner ++ ['%'])

end PathAudit.Pattern
