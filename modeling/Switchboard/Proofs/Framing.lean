import Switchboard.Proofs.Encoding
import Switchboard.Wire.Reader

/-!
# Streams of frames

What a reader finds on a stream depends on its bytes and not on the pieces in which they arrive
(`readAll_eq_parse`). A frame that was written under a limit is the first that a reader with the
same or a larger limit finds, so the reader gets back what was written, without the envelopes that
were too large (`readAll_writeAll`).
-/

set_option autoImplicit false

namespace Switchboard.Wire

/-! ## Pieces

A reader asks for the bytes of a header and then for those of a body. Each time it takes whole
pieces and the front of the last one, so both what it gets and what it leaves are known from the
bytes alone (`Source.gather_fst`, `Source.flatten_gather_snd`), and so is the outcome of a reading
(`joined_readFrame`). -/

section Gather

variable {need : Nat} {got : List UInt8} {source : Source}

/-- A reader collects the next `need` bytes, or all if there are fewer. -/
theorem Source.gather_fst :
    (gather need got source).1 = got.reverse ++ source.flatten.take need := by
  induction source generalizing need got with
  | nil => simp [gather]
  | cons piece later ih =>
    rw [gather, List.flatten_cons]
    split
    -- the piece has all bytes that are still needed
    · rename_i enough
      rw [List.take_append_of_le_length enough]
      simp
    -- all of it is taken, and the rest comes from later pieces
    · rename_i few
      have all : piece.length ≤ need := by omega
      rw [ih, List.take_append, List.take_of_length_le all]
      simp

/-- What it leaves are the bytes behind them. -/
theorem Source.flatten_gather_snd :
    (gather need got source).2.flatten = source.flatten.drop need := by
  induction source generalizing need got with
  | nil => simp [gather]
  | cons piece later ih =>
    rw [gather, List.flatten_cons]
    split
    · rename_i enough
      rw [List.drop_append_of_le_length enough, List.flatten_cons]
    · rename_i few
      have all : piece.length ≤ need := by omega
      rw [ih, List.drop_append, List.drop_of_length_le all, List.nil_append]

end Gather

/-- The outcome of a reading, without the pieces of what is left. -/
def ReadResult.joined : ReadResult → Frame.Next
  | finished => .finished
  | frame e rest => .frame e rest.flatten
  | failed cause => .failed cause

/-- A reader tells from the pieces what there is to tell from their bytes. -/
theorem joined_readFrame (limit : Nat) (source : Source) :
    (readFrame limit source).joined = Frame.next limit source.flatten .ended := by
  simp only [readFrame, Frame.next, Source.gather_fst, Source.flatten_gather_snd, List.reverse_nil,
    List.nil_append]
  generalize source.flatten.take headerSize = header
  by_cases short : header.length < headerSize
  -- the two differ in which end of the stream they look for first
  · rw [if_pos short, if_pos short]
    by_cases empty : header.isEmpty
    · simp [empty, ReadResult.joined]
    · simp [empty, ReadResult.joined, Frame.inside]
  · have present : header.isEmpty = false := by
      cases header with
      | nil => exact absurd (by decide) short
      | cons b more => rfl
    rw [if_neg (by simp [present]), if_neg short, if_neg short]
    generalize (source.flatten.drop headerSize).take (decodeHeader header) = body
    by_cases large : limit < decodeHeader header
    · rw [if_pos large, if_pos large, ReadResult.joined]
    · rw [if_neg large, if_neg large]
      by_cases cut : body.length < decodeHeader header
      · rw [if_pos cut, if_pos cut, ReadResult.joined, Frame.inside]
      · rw [if_neg cut, if_neg cut]
        cases decodeBody body with
        | error cause => rfl
        | ok e => simp only [ReadResult.joined, Source.flatten_gather_snd]

namespace Frame

/-- A stream is its first frame and then the stream behind it. -/
theorem parse_eq (limit : Nat) (bytes : List UInt8) :
    parse limit bytes = match next limit bytes .ended with
      | .frame e rest => (e :: (parse limit rest).1, (parse limit rest).2)
      | .failed cause => ([], some cause)
      | .incomplete | .finished => ([], none) := by
  rw [parse]
  split
  · rename_i h
    simp only [h]
  · rename_i h
    rw [h]
  · rename_i h
    rw [h]
  · rename_i h
    rw [h]

end Frame

/-- A reader gets from a stream what its bytes amount to, however they arrive. -/
theorem readAll_eq_parse (limit : Nat) (source : Source) :
    readAll limit source = Frame.parse limit source.flatten := by
  fun_induction readAll limit source with
  | case1 source e rest read _ later stop read' ih =>
    have first := joined_readFrame limit source
    rw [read, ReadResult.joined] at first
    rw [Frame.parse_eq, ← first]
    simp only [← ih, read']
  | case2 source cause read =>
    have first := joined_readFrame limit source
    rw [read, ReadResult.joined] at first
    rw [Frame.parse_eq, ← first]
  | case3 source read =>
    have first := joined_readFrame limit source
    rw [read, ReadResult.joined] at first
    rw [Frame.parse_eq, ← first]

/-! ## Frames that were written

A writer puts a frame on the stream as a whole or not at all (`Frame.writeAll_snd`). A reader that
allows the length of the body finds the frame, whatever follows it (`Frame.next_bytes`). -/

namespace Frame

/-- The frame of an envelope: the length of the body, and the body. -/
def bytes (e : Envelope) : List UInt8 := encodeHeader (encodeBody e).length ++ encodeBody e

/-- The envelopes that can be written under a limit. -/
def Writable (limit : Nat) (e : Envelope) : Prop := (encodeBody e).length ≤ min limit (2 ^ 32 - 1)

instance (limit : Nat) : DecidablePred (Writable limit) := fun _ =>
  inferInstanceAs (Decidable (_ ≤ _))

variable {limit limit' : Nat} {e : Envelope} {es : List Envelope}

theorem Writable.mono (h : Writable limit e) (wider : limit ≤ limit') : Writable limit' e := by
  rw [Writable] at h ⊢
  omega

/-- What a writer can write a reader with a larger limit can read. -/
theorem writable_of_mem_filter (wider : limit ≤ limit')
    (mem : e ∈ es.filter fun e => Writable limit e) : Writable limit' e :=
  Writable.mono (by simpa using (List.mem_filter.1 mem).2) wider

theorem encode_eq (limit : Nat) (e : Envelope) :
    encode limit e = if Writable limit e then .ok (bytes e)
      else .error (.tooLarge limit (encodeBody e).length) := by
  have same : fits limit (bodySize e) = true ↔ Writable limit e := by
    simp only [fits, Writable, length_encodeBody, Bool.and_eq_true, decide_eq_true_eq]
    exact Nat.le_min.symm
  rw [encode, bytes, length_encodeBody]
  by_cases h : Writable limit e
  · rw [if_pos h, if_pos (same.2 h)]
  · rw [if_neg h, if_neg fun fit => h (same.1 fit)]

/-- What can be written is on the stream, one frame after another, and the rest left no byte. -/
theorem writeAll_snd (limit : Nat) (es : List Envelope) :
    (writeAll limit es).2 = (es.filter fun e => Writable limit e).flatMap bytes := by
  induction es with
  | nil => rfl
  | cons e later ih =>
    rw [writeAll, encode_eq]
    by_cases h : Writable limit e
    · simp [h, ih]
    · simp [h, ih]

/-- What cannot be written is told with its length. -/
theorem writeAll_fst (limit : Nat) (es : List Envelope) :
    (writeAll limit es).1 = es.map fun e =>
      if Writable limit e then .ok () else .error (.tooLarge limit (encodeBody e).length) := by
  induction es with
  | nil => rfl
  | cons e later ih =>
    rw [writeAll, encode_eq]
    by_cases h : Writable limit e
    · simp [h, ih]
    · simp [h, ih]

theorem length_encodeHeader (n : Nat) : (encodeHeader n).length = headerSize := by
  rw [encodeHeader, List.length_reverse, length_littleEndian]

theorem decodeHeader_encodeHeader {n : Nat} (h : n < 2 ^ 32) :
    decodeHeader (encodeHeader n) = n := by
  rw [decodeHeader, encodeHeader, List.reverse_reverse]
  exact ofLittleEndian_littleEndian h

/-- A frame is the first thing on a stream that starts with it. -/
theorem next_bytes (h : Writable limit e) (readable : e.command.Readable) (rest : List UInt8)
    (tail : Tail) : next limit (bytes e ++ rest) tail = .frame e rest := by
  -- the header holds the length, and the limit does not stop the reader
  have short : (encodeBody e).length < 2 ^ 32 := by
    rw [Writable] at h
    omega
  have allowed : ¬ limit < (encodeBody e).length := by
    rw [Writable] at h
    omega
  have read : decodeBody (encodeBody e) = .ok e := by
    have sized : bodySize e < UInt64.size := by
      rw [← length_encodeBody]
      exact Nat.lt_trans short (by decide)
    simpa using decodeBody_encodeBody readable sized []
  have header := length_encodeHeader (encodeBody e).length
  rw [bytes, next, List.append_assoc, List.take_left' header, List.drop_left' header]
  simp only [header, decodeHeader_encodeHeader short, List.take_left, List.drop_left, if_neg allowed,
    Nat.lt_irrefl, if_false, read]

/-- Frames one after another are read to the end. -/
theorem parse_flatMap_bytes (writable : ∀ e ∈ es, Writable limit e)
    (readable : ∀ e ∈ es, e.command.Readable) :
    parse limit (es.flatMap bytes) = (es, none) := by
  induction es with
  | nil =>
    rw [parse_eq]
    rfl
  | cons e later ih =>
    have first := next_bytes (writable e List.mem_cons_self) (readable e List.mem_cons_self)
      (later.flatMap bytes) .ended
    have others := ih (fun e mem => writable e (List.mem_cons_of_mem _ mem))
      (fun e mem => readable e (List.mem_cons_of_mem _ mem))
    rw [List.flatMap_cons, parse_eq, first]
    simp only [others]

end Frame

/-- However the bytes of a writer reach a reader that has the same limit or a larger one, the
reader gets just the envelopes that could be written, in their order, and then the end of the
stream. Each of the others is told as too large, with the length of its body, and leaves no byte on
the stream. A body is read the same whatever follows it. -/
theorem readAll_writeAll {limit limit' : Nat} {es : List Envelope} {source : Source}
    (wider : limit ≤ limit') (readable : ∀ e ∈ es, e.command.Readable)
    (stream : source.flatten = (Frame.writeAll limit es).2) :
    readAll limit' source = (es.filter fun e => Frame.Writable limit e, none) ∧
      (Frame.writeAll limit es).1 = es.map (fun e =>
        if Frame.Writable limit e then .ok ()
        else .error (.tooLarge limit (encodeBody e).length)) ∧
      (Frame.writeAll limit es).2 = (es.filter fun e => Frame.Writable limit e).flatMap Frame.bytes ∧
      ∀ e ∈ es, (encodeBody e).length < UInt64.size → ∀ extra,
        decodeBody (encodeBody e ++ extra) = .ok e := by
  refine ⟨?_, Frame.writeAll_fst limit es, Frame.writeAll_snd limit es, ?_⟩
  · rw [readAll_eq_parse, stream, Frame.writeAll_snd]
    apply Frame.parse_flatMap_bytes
    · exact fun e mem => Frame.writable_of_mem_filter wider mem
    · intro e mem
      exact readable e (List.mem_filter.1 mem).1
  · intro e mem sized extra
    rw [length_encodeBody] at sized
    exact decodeBody_encodeBody (readable e mem) sized extra

/-- Three envelopes, of which the second has a body of 30 bytes. -/
def mixedFrames : List Envelope :=
  [{ command := .checkTx, token := "é", correlationId := 251, payload := [0, 255] },
    { command := .unrecognized "x9", params := "twenty-one characters" },
    .keepalive]

/-- The frames of the first and the third, in four pieces. -/
def mixedPieces : Source :=
  [[0, 0], [0, 15, 2, 50], [48, 2, 195, 169, 251, 251, 0, 0, 0, 2, 0, 255, 0, 0, 0],
    [0, 8, 1, 50, 0, 0, 0, 0, 0, 0]]

theorem readAll_writeAll_mixedFrames :
    mixedPieces.flatten = (Frame.writeAll 15 mixedFrames).2 ∧
      readAll 20 mixedPieces = ([mixedFrames[0], .keepalive], none) ∧
      (Frame.writeAll 15 mixedFrames).1 = [.ok (), .error (.tooLarge 15 30), .ok ()] ∧
      decodeBody (encodeBody mixedFrames[1] ++ [0, 254]) = .ok mixedFrames[1] := by
  have stream : mixedPieces.flatten = (Frame.writeAll 15 mixedFrames).2 := by decide
  obtain ⟨read, outcomes, -, body⟩ :=
    @readAll_writeAll 15 20 mixedFrames mixedPieces (by decide) (by decide) stream
  refine ⟨stream, ?_, ?_, ?_⟩
  · rw [read]
    decide
  · rw [outcomes]
    rfl
  · exact body _ (List.getElem_mem _) (by decide) _

end Switchboard.Wire
