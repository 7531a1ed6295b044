import Switchboard.Gateway.State
import Switchboard.Wire.Frame

/-!
# Workers in scenarios

A worker at the far end of a session's stream reads one frame after the other: the four bytes of a
header, and then the body. It may be told how many frames it may begin.
-/

set_option autoImplicit false

namespace Switchboard.Scenario

/-- A worker. -/
structure Worker where
  session : SessionId
  /-- The number of frames that it may still begin to read, any number if there is none. -/
  allowance : Option Nat
  /-- The bytes of the frame that it reads. -/
  begun : Option (List UInt8) := none
  /-- The frames it has read, first one first. -/
  received : List Envelope := []
  /-- The number of these that it was asked to answer all together. -/
  answered : Nat := 0
  writeClosed : Bool := false
  readClosed : Bool := false
  deriving DecidableEq, Repr, Inhabited

namespace Worker

/-- The number of bytes that a frame still needs, as far as those that are there tell. -/
def missing (got : List UInt8) : Nat :=
  if got.length < Wire.headerSize then Wire.headerSize - got.length
  else Wire.headerSize + Wire.decodeHeader (got.take Wire.headerSize) - got.length

/-- A frame is complete. -/
def finishFrame (w : Worker) (frame : List UInt8) : Worker :=
  match Wire.decodeBody (frame.drop Wire.headerSize) with
  | .ok e => { w with begun := none, received := w.received ++ [e] }
  | .error _ => { w with begun := none }

/-- Reads from the bytes that are there, in `steps` steps at most. Gives the worker and the bytes
that it left. -/
def readWithin : Nat → Worker → List UInt8 → Worker × List UInt8
  | 0, w, bytes => (w, bytes)
  | steps + 1, w, bytes =>
    match w.begun with
    | none =>
      if w.readClosed || w.allowance = some 0 then (w, bytes)
      else
        readWithin steps { w with begun := some [], allowance := w.allowance.map (· - 1) } bytes
    | some got =>
      let need := missing got
      if need = 0 then readWithin steps (w.finishFrame got) bytes
      else if w.readClosed || bytes.isEmpty then (w, bytes)
      else
        readWithin steps { w with begun := some (got ++ bytes.take need) } (bytes.drop need)

/-- Reads from the bytes that are there. A frame is begun, read and finished in four steps and
has eleven bytes at least. -/
def read (w : Worker) (bytes : List UInt8) : Worker × List UInt8 :=
  w.readWithin (bytes.length + 4) bytes

/-- The frames that the worker has to answer when all are asked to. -/
def unanswered (w : Worker) : List Envelope :=
  (w.received.drop w.answered).filter fun e => e.command ≠ .pong

end Worker

end Switchboard.Scenario
