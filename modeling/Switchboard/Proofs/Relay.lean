import Switchboard.Proofs.Grammar

/-!
# Frames that are passed on

A gateway reads a frame and writes its envelope again. What it writes may differ from what it read: an
integer may have been longer than it had to be, and bytes may have followed the last field. The writer
takes the shortest form of each integer (`IsInteger.size_le`) and puts nothing behind the fields, so a
body that is passed on is no longer than the fields that were read (`Parts.Spells.bodySize_le`), and the
limit that admitted a frame lets it out again (`Writable.of_next`).

The code of a command stays as it was, also where it stands for no known command, because a code is
read as a command that has it (`Command.code_ofCode`).

Main result: `relay_keeps`.
-/

set_option autoImplicit false

namespace Switchboard.Wire

/-! ## Shortest forms -/

section Sizes

variable {field : List UInt8} {e : Envelope}

/-- A number that fits behind a tag is written with no more digits than the tag announces. -/
theorem Tag.size_le {tag : UInt8} {width n : Nat} (wide : Tag tag width) (lt : n < 256 ^ width) :
    Varint.size n ≤ width + 1 := by
  cases wide with
  | two =>
    rw [Varint.size, if_pos (show n < UInt16.size from lt)]
    split <;> decide
  | four =>
    rw [Varint.size, if_pos (show n < UInt32.size from lt)]
    split
    · decide
    · split <;> decide
  | eight =>
    rw [Varint.size]
    repeat' split
    all_goals decide

/-- No form of an integer is shorter than the one that is written. -/
theorem IsInteger.size_le {n : Nat} (form : IsInteger field n) : Varint.size n ≤ field.length := by
  cases form with
  | byte small => rw [Varint.size, if_pos small, List.length_singleton]
  | @tagged tag width digits wide whole =>
    have lt := ofDigits_lt digits
    rw [whole] at lt
    rw [List.length_cons, whole]
    exact wide.size_le lt

theorem IsRun.countedSize_le {run : List UInt8} (form : IsRun field run) :
    countedSize run.length ≤ field.length := by
  cases form with
  | counted length =>
    rw [List.length_append, countedSize]
    exact Nat.add_le_add_right length.size_le _

theorem IsText.countedSize_le {text : String} (form : IsText field text) :
    countedSize text.utf8ByteSize ≤ field.length := by
  rw [← Text.length_utf8]
  exact IsRun.countedSize_le form

/-- The code in a body that is read is the code that its command is written with. -/
theorem Parts.Spells.isText_code {p : Parts} (spells : p.Spells e) : IsText p.code e.command.code := by
  obtain ⟨text, isCode, command⟩ := spells.command
  rw [command, Command.code_ofCode]
  exact isCode

theorem Parts.Spells.readable {p : Parts} (spells : p.Spells e) : e.command.Readable := by
  obtain ⟨text, -, command⟩ := spells.command
  exact ⟨text, command.symm⟩

/-- The fields that spell an envelope are no shorter than the body that is written for it. -/
theorem Parts.Spells.bodySize_le {p : Parts} (spells : p.Spells e) :
    bodySize e ≤ p.occupied.length := by
  have code := spells.isText_code.countedSize_le
  have token := spells.token.countedSize_le
  have id := spells.correlationId.size_le
  have signature := spells.signature.countedSize_le
  have params := spells.params.countedSize_le
  have payload := spells.payload.countedSize_le
  have traceId := spells.traceId.countedSize_le
  simp only [bodySize, Command.toText_eq_code, occupied, fields, List.flatten_cons,
    List.flatten_nil, List.length_append, List.length_nil]
  omega

theorem IsText.exists_eq {text : String} (form : IsText field text) :
    ∃ head, field = head ++ Text.utf8 text := by
  cases form with
  | @counted head _ length => exact ⟨head, rfl⟩

theorem IsRun.length_lt {run : List UInt8} (form : IsRun field run) : run.length < UInt64.size := by
  cases form with
  | counted length => exact length.lt

theorem IsText.utf8ByteSize_lt {text : String} (form : IsText field text) :
    text.utf8ByteSize < UInt64.size := by
  rw [← Text.length_utf8]
  exact IsRun.length_lt form

/-- The lengths were read, so they have 64 bits. -/
theorem Parts.Spells.sized {p : Parts} (spells : p.Spells e) : Sized e where
  code := spells.isText_code.utf8ByteSize_lt
  token := spells.token.utf8ByteSize_lt
  signature := spells.signature.utf8ByteSize_lt
  params := spells.params.utf8ByteSize_lt
  payload := spells.payload.length_lt
  traceId := spells.traceId.utf8ByteSize_lt

/-- What was spelled is spelled again by the body that is written. -/
theorem Parts.Spells.written {p : Parts} (spells : p.Spells e) : (Parts.written e).Spells e := by
  have again := spells.sized.spells
  rwa [spells.readable.ofCode_code] at again

end Sizes

/-! ## Bodies that are passed on -/

/-- The body that is written for the envelope of a body. -/
def relayed (body : List UInt8) : Except DecodeError (List UInt8) := (decodeBody body).map encodeBody

section Bodies

variable {body body' : List UInt8} {e : Envelope}

/-- A body that was written is read back, if its envelope was read from some body. -/
theorem decodeBody_encodeBody_of_read (read : decodeBody body = .ok e) :
    decodeBody (encodeBody e) = .ok e := by
  obtain ⟨p, -, spells⟩ := decodeBody_eq_ok.1 read
  exact decodeBody_eq_ok.2 ⟨.written e, Parts.bytes_written e, spells.written⟩

theorem relayed_eq_ok : relayed body = .ok body' ↔ ∃ e, decodeBody body = .ok e ∧ body' = encodeBody e := by
  rw [relayed]
  cases decodeBody body with
  | error cause => simp [Except.map]
  | ok e => simp [Except.map, eq_comm]

/-- A body that was passed on is passed on as it is. -/
theorem relayed_of_relayed (first : relayed body = .ok body') : relayed body' = .ok body' := by
  obtain ⟨e, read, rfl⟩ := relayed_eq_ok.1 first
  exact relayed_eq_ok.2 ⟨e, decodeBody_encodeBody_of_read read, rfl⟩

end Bodies

/-! ## Frames that are passed on -/

namespace Frame

variable {limit : Nat} {bytes rest : List UInt8} {e : Envelope} {tail : Tail}

/-- What a header of four bytes announces has 32 bits. -/
theorem ofBigEndian_lt {header : List UInt8} (four : header.length = 4) : ofBigEndian header < 2 ^ 32 := by
  rw [← decodeHeader_eq_ofBigEndian, decodeHeader, ofLittleEndian_eq_ofDigits]
  have lt := ofDigits_lt header.reverse
  rwa [List.length_reverse, four] at lt

/-- The first frame of a stream is a header, within the limit, and the parts of a body that spell its
envelope. -/
theorem exists_parts_of_next (first : next limit bytes tail = .frame e rest) :
    ∃ header, ∃ p : Parts, bytes = header ++ p.bytes ++ rest ∧ header.length = 4 ∧
      p.bytes.length = ofBigEndian header ∧ ofBigEndian header ≤ limit ∧ p.Spells e := by
  obtain ⟨header, body, extra, stream, four, whole, within, fields⟩ := exists_of_next first
  obtain ⟨p, rfl, -, spells⟩ := decodeFields_eq_ok.1 fields
  exact ⟨header, p, stream, four, whole, within, spells⟩

/-- A frame that was read can be written under the same limit. -/
theorem Writable.of_next (first : next limit bytes tail = .frame e rest) : Writable limit e := by
  obtain ⟨header, p, -, four, whole, within, spells⟩ := exists_parts_of_next first
  have lt := ofBigEndian_lt four
  have le := spells.bodySize_le
  rw [Parts.bytes, List.length_append] at whole
  rw [Writable, length_encodeBody]
  omega

/-- It takes no more bytes than were read. -/
theorem length_bytes_le_of_next (first : next limit bytes tail = .frame e rest) :
    (Frame.bytes e).length + rest.length ≤ bytes.length := by
  obtain ⟨header, p, rfl, four, -, -, spells⟩ := exists_parts_of_next first
  have le := spells.bodySize_le
  rw [Frame.bytes, length_encodeBody, List.length_append, length_encodeHeader, length_encodeBody,
    List.length_append, List.length_append, four, Parts.bytes, List.length_append, headerSize]
  omega

/-- The command of a frame that was read is the one that its code stands for. -/
theorem readable_of_next (first : next limit bytes tail = .frame e rest) : e.command.Readable := by
  obtain ⟨header, p, -, -, -, -, spells⟩ := exists_parts_of_next first
  exact spells.readable

/-- All frames of a stream can be written, and they take no more bytes than the stream. -/
theorem writable_of_parse (limit : Nat) (bytes : List UInt8) :
    (∀ e ∈ (parse limit bytes).1, Writable limit e ∧ e.command.Readable) ∧
      ((parse limit bytes).1.flatMap Frame.bytes).length ≤ bytes.length := by
  -- on the frames: each is the first of the bytes that are left
  induction size : bytes.length using Nat.strong_induction_on generalizing bytes with
  | _ n ih =>
    rw [parse_eq]
    cases first : next limit bytes .ended with
    | frame e rest =>
      have shorter : rest.length < n := size ▸ length_lt_of_next_eq_frame first
      obtain ⟨others, fewer⟩ := ih _ shorter rest rfl
      have less := length_bytes_le_of_next first
      refine ⟨?_, ?_⟩
      · intro e' mem
        rcases List.mem_cons.1 mem with rfl | mem
        · exact ⟨Writable.of_next first, readable_of_next first⟩
        · exact others e' mem
      · rw [List.flatMap_cons, List.length_append]
        omega
    | failed cause => simp
    | incomplete => simp
    | finished => simp

/-- So they are all written, and a reader with the same limit gets them again. -/
theorem readAll_writeAll_of_parse (limit : Nat) (bytes : List UInt8) {source : Source}
    (stream : source.flatten = (writeAll limit (parse limit bytes).1).2) :
    (writeAll limit (parse limit bytes).1).1 = (parse limit bytes).1.map (fun _ => .ok ()) ∧
      source.flatten.length ≤ bytes.length ∧
      readAll limit source = ((parse limit bytes).1, none) := by
  obtain ⟨fine, fewer⟩ := writable_of_parse limit bytes
  have all : (parse limit bytes).1.filter (fun e => Writable limit e) = (parse limit bytes).1 := by
    rw [List.filter_eq_self]
    intro e mem
    simpa using (fine e mem).1
  have written : source.flatten = (parse limit bytes).1.flatMap Frame.bytes := by
    rw [stream, writeAll_snd, all]
  refine ⟨?_, ?_, ?_⟩
  · rw [writeAll_fst]
    apply List.map_congr_left
    intro e mem
    rw [if_pos (fine e mem).1]
  · rw [written]
    exact fewer
  · rw [readAll_eq_parse, written]
    exact parse_flatMap_bytes (fun e mem => (fine e mem).1) fun e mem => (fine e mem).2

end Frame

/-- What a gateway passes on is what it read, and no longer. The body that it writes for a body that it
could read has at most as many bytes as the seven fields that it read, whatever forms their integers had
and whatever stood behind them; the code of the command stands in it byte for byte, known or not; and it
is read as the same envelope, so what was passed on once is passed on as it is. A frame that was read
under a limit is written under it, in no more bytes. So all frames of a stream are passed on, the stream
does not grow, and a reader with the limit gets the same frames from it, and then its end. -/
theorem relay_keeps (limit : Nat) :
    (∀ {body e}, decodeBody body = .ok e →
      (∃ p : Parts, p.bytes = body ∧ p.Spells e ∧ (encodeBody e).length ≤ p.occupied.length ∧
        (∃ head, p.code = head ++ Text.utf8 e.command.code) ∧
        ∃ later, encodeBody e =
          Varint.encode e.command.code.utf8ByteSize ++ Text.utf8 e.command.code ++ later) ∧
      decodeBody (encodeBody e) = .ok e) ∧
    (∀ {body body'}, relayed body = .ok body' → relayed body' = .ok body') ∧
    (∀ {source rest : Source} {e}, readFrame limit source = .frame e rest →
      Frame.encode limit e = .ok (Frame.bytes e) ∧
        (Frame.bytes e).length + rest.flatten.length ≤ source.flatten.length) ∧
    ∀ {source source' : Source} {es stop}, readAll limit source = (es, stop) →
      source'.flatten = (Frame.writeAll limit es).2 →
        (Frame.writeAll limit es).1 = es.map (fun _ => .ok ()) ∧
          source'.flatten.length ≤ source.flatten.length ∧ readAll limit source' = (es, none) := by
  refine ⟨?_, relayed_of_relayed, ?_, ?_⟩
  · intro body e read
    obtain ⟨p, split, spells⟩ := decodeBody_eq_ok.1 read
    have le := spells.bodySize_le
    rw [← length_encodeBody] at le
    refine ⟨⟨p, split, spells, le, ?_, ?_⟩, decodeBody_encodeBody_of_read read⟩
    · exact spells.isText_code.exists_eq
    · rw [encodeBody, Command.toText_eq_code, encodeText, encodeBytes, Text.length_utf8]
      simp only [List.append_assoc, List.append_cancel_left_eq, exists_eq']
  · intro source rest e read
    have first := joined_readFrame limit source
    rw [read, ReadResult.joined] at first
    refine ⟨?_, Frame.length_bytes_le_of_next first.symm⟩
    rw [Frame.encode_eq, if_pos (Frame.Writable.of_next first.symm)]
  · intro source source' es stop read stream
    rw [readAll_eq_parse] at read
    have frames : (Frame.parse limit source.flatten).1 = es := by rw [read]
    subst frames
    exact Frame.readAll_writeAll_of_parse limit source.flatten stream

/-- An envelope with a code that stands for no known command. -/
def foreignEnvelope : Envelope :=
  { command := .unrecognized "x9", correlationId := 5, payload := [255] }

/-- A body of 26 bytes that spells it, with three integers longer than they have to be and two bytes
behind the fields. -/
def wordyBody : List UInt8 :=
  [252, 2, 0, 0, 0, 120, 57, 0, 251, 5, 0, 0, 0, 253, 1, 0, 0, 0, 0, 0, 0, 0, 255, 0, 1, 2]

/-- Its frame, in two pieces. -/
def wordyPieces : Source := [[0, 0, 0], 26 :: wordyBody]

theorem relay_keeps_wordyBody :
    decodeBody wordyBody = .ok foreignEnvelope ∧
      (∃ p : Parts, p.bytes = wordyBody ∧ p.Spells foreignEnvelope ∧ 10 ≤ p.occupied.length) ∧
      relayed wordyBody = .ok [2, 120, 57, 0, 5, 0, 0, 1, 255, 0] ∧
      relayed [2, 120, 57, 0, 5, 0, 0, 1, 255, 0] = .ok [2, 120, 57, 0, 5, 0, 0, 1, 255, 0] ∧
      Frame.encode 26 foreignEnvelope = .ok (Frame.bytes foreignEnvelope) ∧
      readAll 26 [Frame.bytes foreignEnvelope] = ([foreignEnvelope], none) := by
  have read : decodeBody wordyBody = .ok foreignEnvelope := by decide +kernel
  have frame : readFrame 26 wordyPieces = .frame foreignEnvelope [[]] := by decide +kernel
  have all : readAll 26 wordyPieces = ([foreignEnvelope], none) := by decide +kernel
  obtain ⟨bodies, again, frames, streams⟩ := relay_keeps 26
  obtain ⟨⟨p, split, spells, fewer, -, -⟩, -⟩ := bodies read
  have first : relayed wordyBody = .ok [2, 120, 57, 0, 5, 0, 0, 1, 255, 0] := by
    rw [relayed, read]
    decide
  obtain ⟨-, -, once⟩ := @streams wordyPieces [Frame.bytes foreignEnvelope] _ _ all (by decide)
  exact ⟨read, ⟨p, split, spells, fewer⟩, first, again first, (frames frame).1, once⟩

end Switchboard.Wire
