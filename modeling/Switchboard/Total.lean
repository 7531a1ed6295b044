/-!
# Totals

The sum of a number over the items of a list.
-/

set_option autoImplicit false

namespace Switchboard

/-- The sum of a number for each of the items. -/
def total {α : Type} (amount : α → Nat) (items : List α) : Nat :=
  items.foldr (fun item sum => amount item + sum) 0

section Total

variable {α : Type} {amount : α → Nat}

@[simp] theorem total_nil : total amount [] = 0 := rfl

@[simp] theorem total_cons (item : α) (rest : List α) :
    total amount (item :: rest) = amount item + total amount rest := rfl

end Total

end Switchboard
