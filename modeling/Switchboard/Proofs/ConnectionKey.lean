import Switchboard.Gateway.Session
import Mathlib.Data.List.TakeWhile

/-!
# Connection keys

The key of a connection is a tag chosen by its worker, a hyphen and the number of the connection in
decimal. Whatever the tag, the number is what stands behind the last hyphen, so it can be read off the
key (`keyNumber_connectionKey`) and two connections with different numbers have different keys
(`connectionKey_inj`).
-/

set_option autoImplicit false

namespace Switchboard.Gateway

/-- What stands behind the last hyphen of a text, the whole text if it has none. -/
def behindHyphen (cs : List Char) : List Char :=
  (cs.reverse.takeWhile fun c => c != '-').reverse

/-- The number of a key: the digits behind its last hyphen, read in decimal. -/
def keyNumber (key : String) : Nat := Nat.ofDigitChars 10 (behindHyphen key.toList) 0

/-- A decimal number has no hyphen in it. -/
theorem hyphen_notMem_toDigits (n : Nat) : '-' ∉ Nat.toDigits 10 n := by
  intro h
  have digit : '-'.isDigit = true := Nat.isDigit_of_mem_toDigits (by decide) (by decide) h
  exact absurd digit (by decide)

theorem toList_connectionKey (tag : String) (n : Nat) :
    (connectionKey tag n).toList = tag.toList ++ '-' :: Nat.toDigits 10 n := by
  simp [connectionKey]

/-- Hyphens further to the front do not matter. -/
theorem behindHyphen_append {front back : List Char} (none : '-' ∉ back) :
    behindHyphen (front ++ '-' :: back) = back := by
  have keep : ∀ c ∈ back.reverse, (c != '-') = true := by
    intro c mem
    have : c ≠ '-' := by
      rintro rfl
      exact none (List.mem_reverse.1 mem)
    simpa using this
  rw [behindHyphen, List.reverse_append, List.reverse_cons, List.append_assoc,
    List.takeWhile_append_of_pos keep]
  simp

/-- The number of a connection is read off its key, whatever its tag is. -/
theorem keyNumber_connectionKey (tag : String) (n : Nat) : keyNumber (connectionKey tag n) = n := by
  rw [keyNumber, toList_connectionKey, behindHyphen_append (hyphen_notMem_toDigits n),
    Nat.ofDigitChars_ten_toDigits]

/-- Connections with the same key have the same number. -/
theorem connectionKey_inj {tag tag' : String} {m n : Nat}
    (h : connectionKey tag m = connectionKey tag' n) : m = n := by
  rw [← keyNumber_connectionKey tag m, h, keyNumber_connectionKey]

end Switchboard.Gateway
