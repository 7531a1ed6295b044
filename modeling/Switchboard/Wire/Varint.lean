/-!
# Variable-length integers

An unsigned integer takes one byte up to 250. Larger ones start with a tag, 251, 252 or 253, and
go on with 2, 4 or 8 bytes, least significant first. The writer takes the shortest form; the
reader takes any of them. The tags 254 and 255 start no integer.
-/

set_option autoImplicit false

namespace Switchboard.Wire

/-- Why a frame body cannot be read. -/
inductive DecodeError
  /-- The body ends before the field does. -/
  | unexpectedEnd
  /-- The first byte of an integer is 254 or 255. -/
  | invalidInteger
  /-- The bytes of a text are not UTF-8. -/
  | invalidText
  deriving DecidableEq, Repr, Inhabited

/-- The lowest `width` bytes of `n`, least significant first. -/
def littleEndian : Nat → Nat → List UInt8
  | 0, _ => []
  | width + 1, n => UInt8.ofNat (n % 256) :: littleEndian width (n / 256)

/-- The number that bytes stand for, least significant first. -/
def ofLittleEndian : List UInt8 → Nat
  | [] => 0
  | b :: rest => b.toNat + 256 * ofLittleEndian rest

/-- The first `n` bytes and the rest, if there are as many. -/
def split (n : Nat) (bytes : List UInt8) : Except DecodeError (List UInt8 × List UInt8) :=
  if (bytes.take n).length = n then .ok (bytes.take n, bytes.drop n) else .error .unexpectedEnd

namespace Varint

/-- The shortest form of `n`. -/
def encode (n : Nat) : List UInt8 :=
  if n ≤ 250 then [UInt8.ofNat n]
  else if n < UInt16.size then 251 :: littleEndian 2 n
  else if n < UInt32.size then 252 :: littleEndian 4 n
  else 253 :: littleEndian 8 n

/-- The number of bytes of the shortest form of `n`. -/
def size (n : Nat) : Nat :=
  if n ≤ 250 then 1 else if n < UInt16.size then 3 else if n < UInt32.size then 5 else 9

/-- The number of bytes that follow a first byte, none if it starts no integer. -/
def widthAfter (tag : UInt8) : Option Nat :=
  if tag ≤ 250 then some 0
  else if tag = 251 then some 2
  else if tag = 252 then some 4
  else if tag = 253 then some 8
  else none

/-- Reads an integer in any of its forms. -/
def decode : List UInt8 → Except DecodeError (Nat × List UInt8)
  | [] => .error .unexpectedEnd
  | tag :: rest =>
    match widthAfter tag with
    | none => .error .invalidInteger
    | some 0 => .ok (tag.toNat, rest)
    | some width => do
      let (bytes, rest) ← split width rest
      return (ofLittleEndian bytes, rest)

end Varint

end Switchboard.Wire
