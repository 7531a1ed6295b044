import Mathlib.Algebra.Group.Nat.Defs
import Switchboard.Proofs.Codes
import Switchboard.Wire.Body

/-!
# Bodies read back

A reader takes from the front of some bytes just what a writer put there, whatever follows: an
integer in its shortest form, a run of bytes behind its number, a text, and so the seven fields of
an envelope (`decodeFields_encodeBody`). The length of a body is known without writing it
(`length_encodeBody`).

The number in front of a run has 64 bits, and a command is read as the one that has the code, so
the lengths are below 2^64 and the command is one that a code can stand for.
-/

set_option autoImplicit false

namespace Switchboard

namespace Text

theorem ofUtf8?_utf8 (text : String) : ofUtf8? (utf8 text) = some text := by
  have bytes : (⟨(utf8 text).toArray⟩ : ByteArray) = text.toByteArray := by
    simp [utf8]
  rw [ofUtf8?, bytes, String.fromUTF8?, dif_pos text.isValidUTF8]
  rfl

theorem length_utf8 (text : String) : (utf8 text).length = text.utf8ByteSize := by
  simp [utf8]

end Text

namespace Wire

/-- What was read is passed on. -/
@[simp] theorem ok_bind {ε α β : Type} (a : α) (f : α → Except ε β) :
    (Except.ok a >>= f) = f a := rfl

@[simp] theorem length_littleEndian (width n : Nat) : (littleEndian width n).length = width := by
  induction width generalizing n with
  | zero => rfl
  | succ width ih => rw [littleEndian, List.length_cons, ih]

theorem ofLittleEndian_littleEndian {width n : Nat} (h : n < 256 ^ width) :
    ofLittleEndian (littleEndian width n) = n := by
  induction width generalizing n with
  | zero =>
    rw [Nat.pow_zero] at h
    rw [littleEndian, ofLittleEndian]
    omega
  | succ width ih =>
    have low : (UInt8.ofNat (n % 256)).toNat = n % 256 :=
      UInt8.toNat_ofNat_of_lt' (Nat.mod_lt n (by decide))
    have high : n / 256 < 256 ^ width := by
      rw [Nat.pow_succ] at h
      omega
    rw [littleEndian, ofLittleEndian, low, ih high]
    omega

@[simp] theorem split_append (bytes rest : List UInt8) :
    split bytes.length (bytes ++ rest) = .ok (bytes, rest) := by
  simp [split]

namespace Varint

theorem length_encode (n : Nat) : (encode n).length = size n := by
  rw [encode, size]
  split
  · rfl
  · split
    · rw [List.length_cons, length_littleEndian]
    · split
      · rw [List.length_cons, length_littleEndian]
      · rw [List.length_cons, length_littleEndian]

/-- An integer behind its tag. -/
theorem decode_tagged {tag : UInt8} {width n : Nat} (wide : widthAfter tag = some (width + 1))
    (h : n < 256 ^ (width + 1)) (rest : List UInt8) :
    decode (tag :: littleEndian (width + 1) n ++ rest) = .ok (n, rest) := by
  have taken := split_append (littleEndian (width + 1) n) rest
  rw [length_littleEndian] at taken
  simp only [List.cons_append, decode, wide, taken, ok_bind, ofLittleEndian_littleEndian h]
  rfl

theorem decode_encode {n : Nat} (h : n < UInt64.size) (rest : List UInt8) :
    decode (encode n ++ rest) = .ok (n, rest) := by
  rw [encode]
  split
  -- the byte is the integer, and no tag
  · rename_i short
    have low : (UInt8.ofNat n).toNat = n := UInt8.toNat_ofNat_of_lt' (by
      rw [UInt8.size]
      omega)
    have untagged : widthAfter (UInt8.ofNat n) = some 0 := by
      rw [widthAfter, if_pos]
      rw [UInt8.le_iff_toNat_le, low]
      exact short
    rw [List.singleton_append, decode, untagged]
    exact congrArg (fun m => Except.ok (m, rest)) low
  · split
    · exact decode_tagged rfl ‹_› rest
    · split
      · exact decode_tagged rfl ‹_› rest
      · exact decode_tagged rfl h rest

end Varint

section Fields

variable {bytes rest : List UInt8} {text : String}

theorem decodeBytes_encodeBytes (short : bytes.length < UInt64.size) :
    decodeBytes (encodeBytes bytes ++ rest) = .ok (bytes, rest) := by
  rw [encodeBytes, List.append_assoc, decodeBytes, Varint.decode_encode short, ok_bind]
  exact split_append bytes rest

theorem decodeText_encodeText (short : text.utf8ByteSize < UInt64.size) :
    decodeText (encodeText text ++ rest) = .ok (text, rest) := by
  have read : decodeBytes (encodeText text ++ rest) = .ok (Text.utf8 text, rest) :=
    decodeBytes_encodeBytes (by rwa [Text.length_utf8])
  simp only [decodeText, read, ok_bind, Text.ofUtf8?_utf8]
  rfl

theorem length_encodeBytes : (encodeBytes bytes).length = countedSize bytes.length := by
  rw [encodeBytes, List.length_append, Varint.length_encode, countedSize]

theorem length_encodeText : (encodeText text).length = countedSize text.utf8ByteSize := by
  rw [encodeText, length_encodeBytes, Text.length_utf8]

theorem le_countedSize (n : Nat) : n ≤ countedSize n := Nat.le_add_left n _

end Fields

section Body

variable {e : Envelope}

theorem length_encodeBody (e : Envelope) : (encodeBody e).length = bodySize e := by
  simp only [encodeBody, bodySize, List.length_append, length_encodeText, length_encodeBytes,
    Varint.length_encode]

/-- The seven fields are read back, and what follows them is left. -/
theorem decodeFields_encodeBody (readable : e.command.Readable) (short : bodySize e < UInt64.size)
    (rest : List UInt8) : decodeFields (encodeBody e ++ rest) = .ok (e, rest) := by
  -- no field is longer than the body
  have code := le_countedSize e.command.code.utf8ByteSize
  have token := le_countedSize e.token.utf8ByteSize
  have signature := le_countedSize e.signature.utf8ByteSize
  have params := le_countedSize e.params.utf8ByteSize
  have payload := le_countedSize e.payload.length
  have traceId := le_countedSize e.traceId.utf8ByteSize
  rw [bodySize, Command.toText_eq_code] at short
  simp only [encodeBody, Command.toText_eq_code, List.append_assoc, decodeFields]
  rw [decodeText_encodeText (by omega), ok_bind, decodeText_encodeText (by omega), ok_bind,
    Varint.decode_encode e.correlationId.toNat_lt, ok_bind,
    decodeText_encodeText (by omega), ok_bind, decodeText_encodeText (by omega), ok_bind,
    decodeBytes_encodeBytes (by omega), ok_bind, decodeText_encodeText (by omega), ok_bind,
    Command.ofText_eq_ofCode, readable.ofCode_code, UInt64.ofNat_toNat]
  rfl

theorem decodeBody_encodeBody (readable : e.command.Readable) (short : bodySize e < UInt64.size)
    (rest : List UInt8) : decodeBody (encodeBody e ++ rest) = .ok e := by
  rw [decodeBody, decodeFields_encodeBody readable short]
  rfl

end Body

end Wire

end Switchboard
