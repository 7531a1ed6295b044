/-!
# Hexadecimal digits
-/

set_option autoImplicit false

namespace Switchboard.Hex

/-- The value of a digit. -/
def value? (c : Char) : Option Nat :=
  if '0' ≤ c ∧ c ≤ '9' then some (c.toNat - '0'.toNat)
  else if 'a' ≤ c ∧ c ≤ 'f' then some (c.toNat - 'a'.toNat + 10)
  else if 'A' ≤ c ∧ c ≤ 'F' then some (c.toNat - 'A'.toNat + 10)
  else none

/-- The lower-case digit of a number below 16. -/
def digit (n : Nat) : Char := Nat.digitChar n

/-- The number that digits stand for, most significant first. -/
def number? (digits : List Char) : Option Nat :=
  digits.foldlM (fun n d => (value? d).map fun v => n * 16 + v) 0

end Switchboard.Hex
