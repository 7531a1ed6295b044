import Switchboard.Proofs.Fields
import Switchboard.Proofs.Streams

/-!
# The grammar of a stream

What the bytes of a stream amount to, said without a reader: `Reading limit bytes es stop` holds if
`bytes` are the frames of `es`, each a length of four bytes and as many bytes as it says, and then
what stops a reader, or nothing. A reader finds just that, on any bytes and in any pieces
(`parse_eq_iff_reading`).

The front of a stream that a writer produced is some whole frames and a front of the next
(`prefix_flatMap_cases`). So a cut costs a reader only the frame that it goes through, and is told
from the end of the stream unless it falls between two frames (`Torn`).

Main result: `readAll_eq_iff_reading`.
-/

set_option autoImplicit false

namespace Switchboard

/-- The envelope as a reader gets it: with the command that its code stands for. -/
def Envelope.received (e : Envelope) : Envelope := { e with command := .ofCode e.command.code }

open Wire.Frame

namespace Wire

/-- The frames of some bytes under a limit, and what stops a reader behind them. -/
inductive Reading (limit : Nat) : List UInt8 → List Envelope → Option CodecError → Prop
  /-- There are no bytes left. -/
  | finished : Reading limit [] [] none
  /-- There are fewer bytes than a header has. -/
  | headerCut {bytes : List UInt8} (present : bytes ≠ []) (short : bytes.length < 4) :
    Reading limit bytes [] (some .headerCut)
  /-- The header has a length over the limit, and what follows it does not matter. -/
  | tooLarge {header rest : List UInt8} (four : header.length = 4)
    (large : limit < ofBigEndian header) :
    Reading limit (header ++ rest) [] (some (.tooLarge limit (ofBigEndian header)))
  /-- The header has a length within the limit, and fewer bytes follow it. -/
  | bodyCut {header body : List UInt8} (four : header.length = 4)
    (within : ofBigEndian header ≤ limit) (short : body.length < ofBigEndian header) :
    Reading limit (header ++ body) [] (some .bodyCut)
  /-- The body is there, and is not seven fields. -/
  | undecodable {header body rest : List UInt8} {cause : DecodeError} (four : header.length = 4)
    (within : ofBigEndian header ≤ limit) (whole : body.length = ofBigEndian header)
    (fields : decodeFields body = .error cause) :
    Reading limit (header ++ body ++ rest) [] (some (.undecodable cause))
  /-- The body is seven fields and anything behind them. -/
  | frame {header body rest extra : List UInt8} {e : Envelope} {later : List Envelope}
    {stop : Option CodecError} (four : header.length = 4) (within : ofBigEndian header ≤ limit)
    (whole : body.length = ofBigEndian header) (fields : decodeFields body = .ok (e, extra))
    (others : Reading limit rest later stop) :
    Reading limit (header ++ body ++ rest) (e :: later) stop

/-! ## The first thing on a stream -/

section Next

variable {limit : Nat} {header body rest bytes : List UInt8} {tail : Tail}

theorem next_nil (limit : Nat) : next limit [] .ended = .finished := rfl

/-- Without the four bytes of a header nothing can be told but that they are missing. -/
theorem next_of_short (present : bytes ≠ []) (short : bytes.length < 4) :
    next limit bytes tail = inside .headerCut tail := by
  have all : bytes.take headerSize = bytes := List.take_of_length_le (by rw [headerSize]; omega)
  have nonempty : bytes.isEmpty = false := by simpa using present
  simp only [next, all, if_pos (show bytes.length < headerSize by rw [headerSize]; omega), nonempty,
    Bool.false_and, Bool.false_eq_true, if_false]

/-- Behind a header stands a body of the length that it says, unless this is over the limit. -/
theorem next_header (four : header.length = 4) :
    next limit (header ++ rest) tail =
      if limit < ofBigEndian header then .failed (.tooLarge limit (ofBigEndian header))
      else if rest.length < ofBigEndian header then inside .bodyCut tail
      else match decodeFields (rest.take (ofBigEndian header)) with
        | .error cause => .failed (.undecodable cause)
        | .ok (e, _) => .frame e (rest.drop (ofBigEndian header)) := by
  have size : header.length = headerSize := four
  have cut : (rest.take (ofBigEndian header)).length < ofBigEndian header ↔
      rest.length < ofBigEndian header := by
    rw [List.length_take]
    omega
  rw [next, List.take_left' size, List.drop_left' size, size, if_neg (Nat.lt_irrefl _)]
  simp only [decodeHeader_eq_ofBigEndian, cut, decodeBody]
  cases decodeFields (rest.take (ofBigEndian header)) with
  | error cause => rfl
  | ok read => rfl

/-- A length over the limit is told as soon as the header is there. -/
theorem next_of_tooLarge (four : header.length = 4) (large : limit < ofBigEndian header) :
    next limit (header ++ rest) tail = .failed (.tooLarge limit (ofBigEndian header)) := by
  rw [next_header four, if_pos large]

/-- A body that is there is read by itself. -/
theorem next_of_whole (four : header.length = 4) (within : ofBigEndian header ≤ limit)
    (whole : body.length = ofBigEndian header) :
    next limit (header ++ body ++ rest) tail = match decodeFields body with
      | .error cause => .failed (.undecodable cause)
      | .ok (e, _) => .frame e rest := by
  have enough : ¬ (body ++ rest).length < ofBigEndian header := by
    rw [List.length_append]
    omega
  rw [List.append_assoc, next_header four, if_neg (Nat.not_lt.2 within), if_neg enough,
    List.take_left' whole, List.drop_left' whole]

/-- A body within the limit is missed only where no more bytes come. -/
theorem next_of_bodyCut (four : header.length = 4) (within : ofBigEndian header ≤ limit)
    (short : body.length < ofBigEndian header) :
    next limit (header ++ body) tail = inside .bodyCut tail := by
  rw [next_header four, if_neg (Nat.not_lt.2 within), if_pos short]

/-- Bytes that are not fewer than a header has are a header and what follows it. -/
theorem exists_header (long : ¬ bytes.length < 4) :
    ∃ header rest : List UInt8, bytes = header ++ rest ∧ header.length = 4 := by
  refine ⟨bytes.take 4, bytes.drop 4, (List.take_append_drop 4 bytes).symm, ?_⟩
  rw [List.length_take]
  omega

/-- A reader that has not seen the end of the stream tells only what no later byte, and no end of the
stream, can change. -/
theorem next_append {more : List UInt8} (told : next limit bytes .more ≠ .incomplete) :
    next limit (bytes ++ more) tail = match next limit bytes .more with
      | .frame e rest => .frame e (rest ++ more)
      | other => other := by
  by_cases short : bytes.length < 4
  · -- nothing is told without a header
    refine absurd ?_ told
    cases bytes with
    | nil => rfl
    | cons b others => rw [next_of_short (by simp) short]; rfl
  · obtain ⟨header, rest, rfl, four⟩ := exists_header short
    rcases Nat.lt_or_ge limit (ofBigEndian header) with large | within
    · rw [List.append_assoc, next_of_tooLarge four large, next_of_tooLarge four large]
    · rcases Nat.lt_or_ge rest.length (ofBigEndian header) with cut | enough
      · exact absurd (next_of_bodyCut four within cut) told
      · -- the body is there with and without the later bytes
        have whole : (rest.take (ofBigEndian header)).length = ofBigEndian header := by
          rw [List.length_take]
          omega
        rw [← List.take_append_drop (ofBigEndian header) rest, ← List.append_assoc,
          List.append_assoc (header ++ rest.take (ofBigEndian header)),
          next_of_whole four within whole, next_of_whole four within whole]
        cases decodeFields (rest.take (ofBigEndian header)) with
        | error cause => rfl
        | ok read => rfl

/-- The first frame of a stream is a header, a body within the limit and as long as the header says,
and seven fields at the front of the body. -/
theorem exists_of_next {e : Envelope} (first : next limit bytes tail = .frame e rest) :
    ∃ header body extra, bytes = header ++ body ++ rest ∧ header.length = 4 ∧
      body.length = ofBigEndian header ∧ ofBigEndian header ≤ limit ∧
      decodeFields body = .ok (e, extra) := by
  by_cases short : bytes.length < 4
  · -- nothing is told without a header
    by_cases empty : bytes = []
    · subst empty
      cases tail <;> cases first
    · rw [next_of_short empty short] at first
      cases tail <;> cases first
  · obtain ⟨header, behind, rfl, four⟩ := exists_header short
    rw [next_header four] at first
    split at first
    · cases first
    · split at first
      · cases tail <;> cases first
      · rename_i within enough
        have whole : (behind.take (ofBigEndian header)).length = ofBigEndian header := by
          rw [List.length_take]
          omega
        split at first
        · cases first
        · rename_i extra fields
          obtain ⟨rfl, rfl⟩ := Next.frame.inj first
          refine ⟨header, _, extra, ?_, four, whole, Nat.not_lt.1 within, fields⟩
          rw [List.append_assoc, List.take_append_drop]

/-- A frame that is there as a whole is found whatever follows it. -/
theorem next_of_frame {e : Envelope} (first : next limit bytes tail = .frame e rest)
    (tail' : Tail) : next limit bytes tail' = .frame e rest := by
  obtain ⟨header, body, extra, rfl, four, whole, within, fields⟩ := exists_of_next first
  rw [next_of_whole four within whole, fields]

/-- A stream ends cleanly only where no byte is left. -/
theorem eq_nil_of_finished (first : next limit bytes tail = .finished) :
    bytes = [] ∧ tail = .ended := by
  by_cases empty : bytes = []
  · subst empty
    cases tail
    · cases first
    · exact ⟨rfl, rfl⟩
    · cases first
  · by_cases short : bytes.length < 4
    · rw [next_of_short empty short] at first
      cases tail <;> cases first
    · obtain ⟨header, behind, rfl, four⟩ := exists_header short
      rw [next_header four] at first
      split at first
      · cases first
      · split at first
        · cases tail <;> cases first
        · split at first <;> cases first

end Next

/-! ## Readers and the grammar -/

section Reading

variable {limit : Nat} {bytes : List UInt8} {es : List Envelope} {stop : Option CodecError}

/-- What the grammar says of some bytes is what a reader finds. -/
theorem parse_of_reading (h : Reading limit bytes es stop) : parse limit bytes = (es, stop) := by
  induction h with
  | finished => rw [parse_eq, next_nil]
  | headerCut present short =>
    rw [parse_eq, next_of_short present short]
    rfl
  | tooLarge four large => rw [parse_eq, next_of_tooLarge four large]
  | bodyCut four within short =>
    rw [parse_eq, next_of_bodyCut four within short]
    rfl
  | undecodable four within whole fields => rw [parse_eq, next_of_whole four within whole, fields]
  | frame four within whole fields others ih =>
    rw [parse_eq, next_of_whole four within whole, fields]
    simp only [ih]

/-- The grammar says something of any bytes. -/
theorem exists_reading (limit : Nat) (bytes : List UInt8) :
    ∃ es stop, Reading limit bytes es stop := by
  -- on the number of bytes: behind a frame there are at least four fewer
  induction size : bytes.length using Nat.strong_induction_on generalizing bytes with
  | _ n ih =>
    by_cases empty : bytes = []
    · subst empty
      exact ⟨_, _, .finished⟩
    · by_cases short : bytes.length < 4
      · exact ⟨_, _, .headerCut empty short⟩
      · obtain ⟨header, rest, rfl, four⟩ := exists_header short
        rcases Nat.lt_or_ge limit (ofBigEndian header) with large | within
        · exact ⟨_, _, .tooLarge four large⟩
        · rcases Nat.lt_or_ge rest.length (ofBigEndian header) with cut | enough
          · exact ⟨_, _, .bodyCut four within cut⟩
          · have whole : (rest.take (ofBigEndian header)).length = ofBigEndian header := by
              rw [List.length_take]
              omega
            rw [← List.take_append_drop (ofBigEndian header) rest, ← List.append_assoc]
            cases fields : decodeFields (rest.take (ofBigEndian header)) with
            | error cause => exact ⟨_, _, .undecodable four within whole fields⟩
            | ok read =>
              obtain ⟨e, extra⟩ := read
              have fewer : (rest.drop (ofBigEndian header)).length < n := by
                rw [← size, List.length_drop, List.length_append]
                omega
              obtain ⟨later, stop, others⟩ := ih _ fewer _ rfl
              exact ⟨_, _, .frame four within whole fields others⟩

/-- A reader finds what the grammar says, and nothing else. -/
theorem parse_eq_iff_reading : parse limit bytes = (es, stop) ↔ Reading limit bytes es stop := by
  constructor
  · intro found
    obtain ⟨es', stop', h⟩ := exists_reading limit bytes
    have same := found.symm.trans (parse_of_reading h)
    simp only [Prod.mk.injEq] at same
    obtain ⟨rfl, rfl⟩ := same
    exact h
  · intro h
    exact parse_of_reading h

end Reading

/-! ## Streams that were cut -/

/-- The end of a stream behind its whole frames: `part` is a front of the frame that comes next. -/
inductive Torn : List Envelope → List UInt8 → Option CodecError → Prop
  /-- The stream ends between two frames. -/
  | boundary {after : List Envelope} : Torn after [] none
  /-- It ends inside the header of a frame. -/
  | header {e : Envelope} {after : List Envelope} {part : List UInt8} (front : part <+: bytes e)
    (present : part ≠ []) (short : part.length < 4) : Torn (e :: after) part (some .headerCut)
  /-- It ends inside the body of a frame. -/
  | body {e : Envelope} {after : List Envelope} {part : List UInt8} (front : part <+: bytes e)
    (long : 4 ≤ part.length) (short : part.length < (bytes e).length) :
    Torn (e :: after) part (some .bodyCut)

section Torn

variable {limit : Nat} {e : Envelope} {es whole after : List Envelope} {part : List UInt8}
  {stop : Option CodecError}

/-- The front of a list of runs is some whole runs and a front of the next one. -/
theorem prefix_flatMap_cases {α : Type} {f : α → List UInt8} {xs : List α} {front : List UInt8}
    (h : front <+: xs.flatMap f) :
    ∃ whole after part, xs = whole ++ after ∧ front = whole.flatMap f ++ part ∧
      (part = [] ∨ ∃ x others, after = x :: others ∧ part <+: f x ∧ part.length < (f x).length) := by
  induction xs generalizing front with
  | nil =>
    obtain rfl := List.prefix_nil.1 h
    exact ⟨[], [], [], rfl, rfl, Or.inl rfl⟩
  | cons x xs ih =>
    rw [List.flatMap_cons] at h
    rcases prefix_append_cases h with ⟨inside, short⟩ | ⟨others, rfl, behind⟩
    · -- the first run is not whole
      exact ⟨[], x :: xs, front, rfl, rfl, Or.inr ⟨x, xs, rfl, inside, short⟩⟩
    · obtain ⟨whole, after, part, rfl, rfl, torn⟩ := ih behind
      refine ⟨x :: whole, after, part, rfl, ?_, torn⟩
      rw [List.flatMap_cons, List.append_assoc]

theorem encodeBody_received (e : Envelope) : encodeBody e.received = encodeBody e := by
  rw [encodeBody, Envelope.received, Command.toText_eq_code, Command.code_ofCode, encodeBody,
    Command.toText_eq_code]

theorem bytes_received (e : Envelope) : bytes e.received = bytes e := by
  rw [bytes, encodeBody_received, bytes]

theorem writable_received : Writable limit e.received ↔ Writable limit e := by
  rw [Writable, encodeBody_received, Writable]

/-- A frame at the front of a stream is read, whatever command its code is. -/
theorem next_bytes_received (writable : Writable limit e) (rest : List UInt8) (tail : Tail) :
    next limit (bytes e ++ rest) tail = .frame e.received rest := by
  have readable : e.received.command.Readable := ⟨_, rfl⟩
  rw [← bytes_received]
  exact next_bytes (writable_received.2 writable) readable rest tail

/-- Behind whole frames a reader is where it would be without them. -/
theorem parse_flatMap_append (writable : ∀ e ∈ whole, Writable limit e) (rest : List UInt8) :
    parse limit (whole.flatMap bytes ++ rest) =
      (whole.map Envelope.received ++ (parse limit rest).1, (parse limit rest).2) := by
  induction whole with
  | nil => rfl
  | cons e others ih =>
    have first := next_bytes_received (writable e List.mem_cons_self)
      (others.flatMap bytes ++ rest) .ended
    have behind := ih fun e mem => writable e (List.mem_cons_of_mem _ mem)
    rw [List.flatMap_cons, List.append_assoc, parse_eq, first]
    simp only [behind, List.map_cons, List.cons_append]

/-- Envelopes that were written one after another are read as the ones that a reader gets. -/
theorem readAll_of_written {writer : Nat} {source : Source} (wider : writer ≤ limit)
    (stream : source.flatten = (writeAll writer es).2) :
    readAll limit source =
      ((es.filter fun e => Writable writer e).map Envelope.received, none) := by
  have writable : ∀ e ∈ es.filter (fun e => Writable writer e), Writable limit e :=
    fun e mem => writable_of_mem_filter wider mem
  have read := parse_flatMap_append writable []
  rw [List.append_nil] at read
  rw [readAll_eq_parse, stream, writeAll_snd, read, parse_eq, next_nil, List.append_nil]

/-- A front of a frame is no frame, and is told by the part in which it ends. -/
theorem parse_of_torn (writable : ∀ e ∈ after, Writable limit e) (torn : Torn after part stop) :
    parse limit part = ([], stop) := by
  apply parse_of_reading
  cases torn with
  | boundary => exact .finished
  | header front present short => exact .headerCut present short
  | @body e _ _ front long short =>
    obtain ⟨header, eq, four, length, within⟩ :=
      bytes_of_writable (writable e List.mem_cons_self)
    -- the header is there as a whole, and is the header of the frame
    obtain ⟨left, rfl⟩ : header <+: part :=
      List.prefix_of_prefix_length_le (eq ▸ List.prefix_append _ _) front (by omega)
    rw [eq, List.length_append, List.length_append] at short
    exact .bodyCut four (by omega) (by omega)

/-- What is behind the whole frames of a stream that was cut is torn. -/
theorem exists_torn
    (h : part = [] ∨ ∃ e others, after = e :: others ∧ part <+: bytes e ∧
      part.length < (bytes e).length) : ∃ stop, Torn after part stop := by
  rcases h with rfl | ⟨e, others, rfl, front, short⟩
  · exact ⟨none, .boundary⟩
  · by_cases empty : part = []
    · subst empty
      exact ⟨none, .boundary⟩
    · rcases Nat.lt_or_ge part.length 4 with inside | behind
      · exact ⟨_, .header front empty inside⟩
      · exact ⟨_, .body front behind short⟩

/-- A reader gets from the front of a stream the frames that are whole, and then what the cut is. -/
theorem parse_of_prefix {writer : Nat} {front : List UInt8} (wider : writer ≤ limit)
    (h : front <+: (writeAll writer es).2) :
    ∃ whole after part stop, (es.filter fun e => Writable writer e) = whole ++ after ∧
      front = whole.flatMap bytes ++ part ∧ Torn after part stop ∧
      parse limit front = (whole.map Envelope.received, stop) := by
  rw [writeAll_snd] at h
  obtain ⟨whole, after, part, frames, rfl, left⟩ := prefix_flatMap_cases h
  have writable : ∀ e ∈ whole ++ after, Writable limit e := by
    rw [← frames]
    exact fun e mem => writable_of_mem_filter wider mem
  obtain ⟨stop, torn⟩ := exists_torn left
  refine ⟨whole, after, part, stop, frames, rfl, torn, ?_⟩
  rw [parse_flatMap_append fun e mem => writable e (List.mem_append_left _ mem),
    parse_of_torn (fun e mem => writable e (List.mem_append_right _ mem)) torn, List.append_nil]

end Torn

/-- On any bytes, in any pieces and under any limit, a reader gets the frames that the grammar says
and stops as it says: four bytes are the length of a body, most significant first, a length over the
limit stops the reader as soon as they are there, a body within the limit is read by its seven
fields, and the stream ends cleanly only where no byte is left. What a reader tells before the end of
the stream no later byte changes. From a stream that a writer produced and that was cut anywhere, a
reader whose limit is no smaller gets the frames that were whole, and the end of the stream only if
the cut is between two frames. -/
theorem readAll_eq_iff_reading (limit : Nat) (source : Source) :
    (∀ {es stop}, readAll limit source = (es, stop) ↔ Reading limit source.flatten es stop) ∧
      (∀ {header rest : List UInt8} {tail}, header.length = 4 → limit < ofBigEndian header →
        next limit (header ++ rest) tail = .failed (.tooLarge limit (ofBigEndian header))) ∧
      (∀ {bytes more tail}, next limit bytes .more ≠ .incomplete →
        next limit (bytes ++ more) tail = match next limit bytes .more with
          | .frame e rest => .frame e (rest ++ more)
          | other => other) ∧
      (CodecError.message .headerCut = some "I/O error: stream closed inside a frame header" ∧
        CodecError.message .bodyCut = some "I/O error: early eof") ∧
      ∀ {writer es}, writer ≤ limit → source.flatten <+: (writeAll writer es).2 →
        ∃ whole after part stop, (es.filter fun e => Writable writer e) = whole ++ after ∧
          source.flatten = whole.flatMap bytes ++ part ∧ Torn after part stop ∧
          readAll limit source = (whole.map Envelope.received, stop) := by
  refine ⟨fun {es stop} => ?_, next_of_tooLarge, next_append, ⟨rfl, rfl⟩,
    fun {writer es} wider cut => ?_⟩
  · rw [readAll_eq_parse]
    exact parse_eq_iff_reading
  · rw [readAll_eq_parse]
    exact parse_of_prefix wider cut

/-- The pieces of two frames, cut in the body of the second. -/
def cutPieces : Source :=
  [[0, 0], [0, 15, 2, 50], [48, 2, 195, 169, 251, 251, 0, 0, 0, 2, 0, 255, 0, 0, 0], [0, 8, 1]]

theorem readAll_eq_iff_reading_cutPieces :
    cutPieces.flatten <+: (writeAll 15 mixedFrames).2 ∧
      readAll 20 cutPieces = ([mixedFrames[0]], some .bodyCut) ∧
      Reading 20 cutPieces.flatten [mixedFrames[0]] (some .bodyCut) ∧
      (∃ part, cutPieces.flatten = bytes mixedFrames[0] ++ part ∧
        Torn [.keepalive] part (some .bodyCut)) ∧
      next 20 ([0, 0, 0, 21] ++ [2]) .more = .failed (.tooLarge 20 21) ∧
      next 20 (bytes .keepalive ++ [0, 0]) .ended = .frame .keepalive [0, 0] := by
  have front : cutPieces.flatten <+: (writeAll 15 mixedFrames).2 := by decide
  have found : readAll 20 cutPieces = ([mixedFrames[0]], some .bodyCut) := by decide +kernel
  obtain ⟨grammar, large, steady, -, cut⟩ := readAll_eq_iff_reading 20 cutPieces
  refine ⟨front, found, grammar.1 found, ?_, large (by decide) (by decide), ?_⟩
  · obtain ⟨whole, after, part, stop, frames, stream, torn, read⟩ := cut (by decide) front
    have written : (mixedFrames.filter fun e => Writable 15 e) = [mixedFrames[0]] ++ [.keepalive] :=
      rfl
    -- one frame was read, so one is whole
    obtain ⟨one, rfl⟩ := Prod.mk.inj (found.symm.trans read)
    have size : [mixedFrames[0]].length = whole.length := by rw [one, List.length_map]
    obtain ⟨rfl, rfl⟩ := List.append_inj (written.symm.trans frames) size
    exact ⟨part, by rw [stream, List.flatMap_singleton], torn⟩
  · rw [steady (by decide)]
    decide

end Wire

end Switchboard
