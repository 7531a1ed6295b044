/-!
# White space

The characters that count as white space, in ASCII and beyond.
-/

set_option autoImplicit false

namespace Switchboard.Text

/-- The ranges of white space. -/
def whiteSpace : List (Nat × Nat) :=
  [(0x9, 0xd), (0x20, 0x20), (0x85, 0x85), (0xa0, 0xa0), (0x1680, 0x1680), (0x2000, 0x200a),
    (0x2028, 0x2029), (0x202f, 0x202f), (0x205f, 0x205f), (0x3000, 0x3000)]

/-- A character is white space. -/
def isWhiteSpace (c : Char) : Bool :=
  whiteSpace.any fun (first, last) => first ≤ c.toNat && c.toNat ≤ last

/-- A text holds nothing but white space. -/
def isBlank (text : String) : Bool := text.toList.all isWhiteSpace

end Switchboard.Text
