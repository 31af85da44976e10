/-! Totals over a list. -/
namespace PathAudit

variable {α : Type}

def total (f : α → Nat) : List α → Nat
  | [] => 0
  | a :: rest => f a + total f rest

@[simp] theorem total_nil (f : α → Nat) : total f [] = 0 := rfl

@[simp] theorem total_cons (f : α → Nat) (a : α) (rest : List α) :
    total f (a :: rest) = f a + total f rest := rfl

@[simp] theorem total_append (f : α → Nat) (front back : List α) :
    total f (front ++ back) = total f front + total f back := by
  induction front with
  | nil => simp
  | cons a front ih => simp [ih, Nat.add_assoc]

end PathAudit
