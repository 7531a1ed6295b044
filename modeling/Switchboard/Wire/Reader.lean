import Switchboard.Total
import Switchboard.Wire.Frame

/-!
# Reading a stream in pieces

The bytes of a stream arrive in pieces of any size, and one read gives at most as many bytes as it
asks for. The reader collects the four bytes of a header and then the body it announces;
`readAll` goes on until the stream ends or a frame cannot be read.
-/

set_option autoImplicit false

namespace Switchboard.Wire

/-- The pieces in which the bytes of a stream arrive. -/
abbrev Source := List (List UInt8)

namespace Source

/-- The number of bytes still to come. -/
def size (source : Source) : Nat := total List.length source

/-- Cuts bytes into pieces of `piece` bytes, the last of which may be shorter. -/
def ofBytes (piece : Nat) (bytes : List UInt8) : Source :=
  if bytes = [] then []
  else if piece = 0 then [bytes]
  else bytes.take piece :: ofBytes piece (bytes.drop piece)
termination_by bytes.length
decreasing_by
  have : bytes.length ≠ 0 := by simpa using ‹¬bytes = []›
  simp only [List.length_drop]
  omega

/-- Reads until `need` bytes are there or the stream ends. `got` holds what was read, last byte
first. -/
def gather (need : Nat) (got : List UInt8) : Source → List UInt8 × Source
  | [] => (got.reverse, [])
  | piece :: later =>
    if need ≤ piece.length then
      ((((piece.take need).reverse ++ got)).reverse, piece.drop need :: later)
    else gather (need - piece.length) (piece.reverse ++ got) later

theorem size_gather (need : Nat) (got : List UInt8) (source : Source) :
    (gather need got source).1.length + size (gather need got source).2 =
      got.length + size source := by
  induction source generalizing need got with
  | nil => simp [gather, size]
  | cons piece later ih =>
    simp only [gather]
    split
    · simp only [size, List.length_reverse, List.length_append, List.length_take, total_cons,
        List.length_drop]
      omega
    · rw [ih]
      simp only [size, List.length_append, List.length_reverse, total_cons]
      omega

end Source

/-- The outcome of reading one frame. -/
inductive ReadResult
  /-- The stream ended on a frame boundary. -/
  | finished
  | frame (e : Envelope) (rest : Source)
  | failed (cause : CodecError)
  deriving DecidableEq, Repr, Inhabited

/-- Reads one frame: the header, and if the limit allows its length, the body. -/
def readFrame (limit : Nat) (source : Source) : ReadResult :=
  let (header, rest) := source.gather headerSize []
  if header.isEmpty then .finished
  else if header.length < headerSize then .failed .headerCut
  else
    let length := decodeHeader header
    if limit < length then .failed (.tooLarge limit length)
    else
      let (body, rest) := rest.gather length []
      if body.length < length then .failed .bodyCut
      else
        match decodeBody body with
        | .error cause => .failed (.undecodable cause)
        | .ok e => .frame e rest

/-- What `readFrame` leaves is smaller. -/
theorem size_lt_of_readFrame_eq_frame {limit : Nat} {source rest : Source} {e : Envelope}
    (h : readFrame limit source = .frame e rest) : rest.size < source.size := by
  simp only [readFrame] at h
  repeat' split at h
  all_goals try (simp at h; done)
  rename_i full _ _ _ _ _
  simp only [ReadResult.frame.injEq] at h
  obtain ⟨-, rfl⟩ := h
  have first := Source.size_gather headerSize [] source
  have second := Source.size_gather (decodeHeader (Source.gather headerSize [] source).1) []
    (Source.gather headerSize [] source).2
  simp only [List.length_nil, headerSize] at first second full ⊢
  omega

/-- Reads frames until the stream ends or one of them fails. -/
def readAll (limit : Nat) (source : Source) : List Envelope × Option CodecError :=
  match h : readFrame limit source with
  | .frame e rest =>
    have := size_lt_of_readFrame_eq_frame h
    let (later, stop) := readAll limit rest
    (e :: later, stop)
  | .failed cause => ([], some cause)
  | .finished => ([], none)
termination_by source.size

end Switchboard.Wire
