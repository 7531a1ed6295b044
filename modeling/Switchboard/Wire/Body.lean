import Switchboard.Envelope
import Switchboard.Text.Utf8
import Switchboard.Wire.Varint

/-!
# Frame bodies

The body of a frame holds the seven fields of an envelope one after another: command code, token,
correlation id, signature, params, payload, trace id. A text is its length in bytes and its
UTF-8, the payload its length and its bytes, the id an integer. What follows the last field is
ignored by the reader.
-/

set_option autoImplicit false

namespace Switchboard.Wire

/-- Bytes behind their number. -/
def encodeBytes (bytes : List UInt8) : List UInt8 := Varint.encode bytes.length ++ bytes

def encodeText (text : String) : List UInt8 := encodeBytes (Text.utf8 text)

def decodeBytes (bytes : List UInt8) : Except DecodeError (List UInt8 × List UInt8) := do
  let (length, rest) ← Varint.decode bytes
  split length rest

def decodeText (bytes : List UInt8) : Except DecodeError (String × List UInt8) := do
  let (raw, rest) ← decodeBytes bytes
  match Text.ofUtf8? raw with
  | some text => return (text, rest)
  | none => throw .invalidText

/-- The body of an envelope. -/
def encodeBody (e : Envelope) : List UInt8 :=
  encodeText e.command.toText ++ encodeText e.token ++ Varint.encode e.correlationId.toNat ++
    encodeText e.signature ++ encodeText e.params ++ encodeBytes e.payload ++ encodeText e.traceId

/-- The number of bytes a counted run of `n` bytes takes. -/
def countedSize (n : Nat) : Nat := Varint.size n + n

/-- The length of the body of an envelope, found without writing it. -/
def bodySize (e : Envelope) : Nat :=
  countedSize e.command.toText.utf8ByteSize + countedSize e.token.utf8ByteSize +
    Varint.size e.correlationId.toNat + countedSize e.signature.utf8ByteSize +
    countedSize e.params.utf8ByteSize + countedSize e.payload.length +
    countedSize e.traceId.utf8ByteSize

/-- Reads the seven fields in order, and gives what follows them. -/
def decodeFields (bytes : List UInt8) : Except DecodeError (Envelope × List UInt8) := do
  let (code, bytes) ← decodeText bytes
  let (token, bytes) ← decodeText bytes
  let (id, bytes) ← Varint.decode bytes
  let (signature, bytes) ← decodeText bytes
  let (params, bytes) ← decodeText bytes
  let (payload, bytes) ← decodeBytes bytes
  let (traceId, bytes) ← decodeText bytes
  let envelope : Envelope :=
    { command := .ofText code
      token
      correlationId := UInt64.ofNat id
      signature, params, payload, traceId }
  return (envelope, bytes)

/-- Reads an envelope from the body of a frame. -/
def decodeBody (body : List UInt8) : Except DecodeError Envelope :=
  (decodeFields body).map (·.1)

end Switchboard.Wire
