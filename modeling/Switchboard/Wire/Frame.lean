import Switchboard.Wire.Body

/-!
# Frames

A frame is the length of a body, four bytes with the most significant first, and the body. This
module writes frames under a limit, and says what the bytes of a stream amount to: `Frame.next`
is the first thing a reader can tell from them and from what follows them, and `Frame.parse` is all
of it if the stream ends behind them.
-/

set_option autoImplicit false

namespace Switchboard.Wire

/-- Why a stream of frames cannot go on. -/
inductive CodecError
  /-- The stream ended after one, two or three bytes of a header. -/
  | headerCut
  /-- The stream ended inside a body. -/
  | bodyCut
  /-- Reading failed with an I/O error, which has this text. -/
  | io (text : String)
  /-- The other side no longer reads. -/
  | brokenPipe
  /-- A body is longer than the limit allows. -/
  | tooLarge (limit got : Nat)
  /-- A body is no envelope. -/
  | undecodable (cause : DecodeError)
  deriving DecidableEq, Repr, Inhabited

/-- The text of a codec error. A body that is no envelope has none. -/
def CodecError.message : CodecError → Option String
  | headerCut => some "I/O error: stream closed inside a frame header"
  | bodyCut => some "I/O error: early eof"
  | io text => some s!"I/O error: {text}"
  | brokenPipe => some "I/O error: broken pipe"
  | tooLarge limit got => some s!"frame too large: max {limit} got {got}"
  | undecodable _ => none

/-- The number of bytes in front of a body. -/
def headerSize : Nat := 4

/-- The length in front of a body, most significant byte first. -/
def encodeHeader (length : Nat) : List UInt8 := (littleEndian headerSize length).reverse

/-- The length that a header announces. -/
def decodeHeader (header : List UInt8) : Nat := ofLittleEndian header.reverse

/-- What follows the bytes of a stream that have come. -/
inductive Tail
  /-- Bytes may still come. -/
  | more
  /-- The other side has closed the stream. -/
  | ended
  /-- Reading on fails with an I/O error, which has this text. -/
  | failed (text : String)
  deriving DecidableEq, Repr, Inhabited

namespace Frame

/-- The largest length that a header can hold. -/
def maxLength : Nat := UInt32.size - 1

/-- A body of `length` bytes may be written under `limit`. -/
def fits (limit length : Nat) : Bool := length ≤ limit && length ≤ maxLength

/-- Writes a frame, unless its body is over the limit or over what a header can say. -/
def encode (limit : Nat) (e : Envelope) : Except CodecError (List UInt8) :=
  if fits limit (bodySize e) then .ok (encodeHeader (bodySize e) ++ encodeBody e)
  else .error (.tooLarge limit (bodySize e))

/-- Writes frames one after another: what each writing comes to, and the bytes on the stream. -/
def writeAll (limit : Nat) : List Envelope → List (Except CodecError Unit) × List UInt8
  | [] => ([], [])
  | e :: later =>
    let (outcomes, stream) := writeAll limit later
    match encode limit e with
    | .ok frame => (.ok () :: outcomes, frame ++ stream)
    | .error cause => (.error cause :: outcomes, stream)

/-- What a reader can tell from the front of a stream. -/
inductive Next
  /-- The bytes do not make up a frame yet, and more may come. -/
  | incomplete
  /-- The stream ended between two frames. -/
  | finished
  /-- A frame, and the bytes behind it. -/
  | frame (e : Envelope) (rest : List UInt8)
  | failed (cause : CodecError)
  deriving DecidableEq, Repr, Inhabited

/-- What a reader can tell when the bytes end inside a frame: the stream is cut off there, if it has
ended. -/
def inside (cut : CodecError) : Tail → Next
  | .more => .incomplete
  | .ended => .failed cut
  | .failed text => .failed (.io text)

/-- The first frame of `bytes`, which `tail` follows. A length over the limit is told without waiting
for the body, and a frame that is there is read before anything is seen of the tail. -/
def next (limit : Nat) (bytes : List UInt8) (tail : Tail) : Next :=
  let header := bytes.take headerSize
  if header.length < headerSize then
    if header.isEmpty && tail = .ended then .finished else inside .headerCut tail
  else
    let length := decodeHeader header
    if limit < length then .failed (.tooLarge limit length)
    else
      let body := (bytes.drop headerSize).take length
      if body.length < length then inside .bodyCut tail
      else
        match decodeBody body with
        | .error cause => .failed (.undecodable cause)
        | .ok e => .frame e ((bytes.drop headerSize).drop length)

/-- What `next` leaves is shorter. -/
theorem length_lt_of_next_eq_frame {limit : Nat} {bytes rest : List UInt8} {tail : Tail}
    {e : Envelope} (h : next limit bytes tail = .frame e rest) : rest.length < bytes.length := by
  simp only [next] at h
  repeat' split at h
  all_goals try (simp at h; done)
  all_goals try (cases tail <;> simp [inside] at h; done)
  rename_i short _ _ _ _ _
  simp only [Next.frame.injEq] at h
  obtain ⟨-, rfl⟩ := h
  simp only [List.length_take, headerSize] at short
  simp only [List.length_drop, headerSize]
  omega

/-- All frames of a whole stream, and what ends it: an error, or nothing at a frame boundary. -/
def parse (limit : Nat) (bytes : List UInt8) : List Envelope × Option CodecError :=
  match h : next limit bytes .ended with
  | .frame e rest =>
    have := length_lt_of_next_eq_frame h
    let (later, stop) := parse limit rest
    (e :: later, stop)
  | .failed cause => ([], some cause)
  | .incomplete | .finished => ([], none)
termination_by bytes.length

end Frame

end Switchboard.Wire
