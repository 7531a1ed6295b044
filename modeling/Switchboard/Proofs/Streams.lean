import Switchboard.Proofs.Deadline
import Switchboard.Proofs.Framing
import Switchboard.Proofs.Routing

/-!
# Streams in step

What a session wrote on its stream, frame by frame: the frames of the envelopes that it took, in the
order in which it took them and without those that cannot be written, and then at most the front of
one more (`Aligned`). A frame is left unfinished only while it is being written or because the session
ended (`aligned_of_attained`), and whatever happens meanwhile, the next bytes of the stream are the
rest of that frame (`resumes_of_aligned`).

Main result: `streams_in_step`.
-/

set_option autoImplicit false

namespace Switchboard

namespace Wire

/-- The number that these digits of a byte each stand for, the most significant first. -/
def ofBigEndian (digits : List UInt8) : Nat := digits.foldl (fun n b => 256 * n + b.toNat) 0

/-- A header is read with the most significant byte first. -/
theorem decodeHeader_eq_ofBigEndian (header : List UInt8) :
    decodeHeader header = ofBigEndian header := by
  have digits : ∀ bytes : List UInt8,
      ofLittleEndian bytes = bytes.foldr (fun b n => 256 * n + b.toNat) 0 := by
    intro bytes
    induction bytes with
    | nil => rfl
    | cons b rest ih => rw [ofLittleEndian, List.foldr_cons, ih, Nat.add_comm]
  rw [decodeHeader, digits, List.foldr_reverse]
  rfl

namespace Frame

variable {limit : Nat} {e : Envelope}

/-- The stream of these envelopes: the frames of those that can be written, one after another. -/
def stream (limit : Nat) (es : List Envelope) : List UInt8 :=
  (es.filter fun e => Writable limit e).flatMap bytes

theorem stream_append (limit : Nat) (es es' : List Envelope) :
    stream limit (es ++ es') = stream limit es ++ stream limit es' := by
  rw [stream, List.filter_append, List.flatMap_append]
  rfl

theorem stream_of_writable (writable : Writable limit e) : stream limit [e] = bytes e := by
  rw [stream, List.filter_cons_of_pos (by simpa using writable), List.filter_nil,
    List.flatMap_singleton]

theorem stream_of_not_writable (large : ¬ Writable limit e) : stream limit [e] = [] := by
  rw [stream, List.filter_cons_of_neg (by simpa using large), List.filter_nil, List.flatMap_nil]

theorem encode_eq_ok {frame : List UInt8} :
    encode limit e = .ok frame ↔ Writable limit e ∧ frame = bytes e := by
  rw [encode_eq]
  split <;> simp_all [eq_comm]

theorem encode_eq_error (h : ∃ cause, encode limit e = .error cause) : ¬ Writable limit e := by
  intro writable
  obtain ⟨cause, error⟩ := h
  rw [encode_eq, if_pos writable] at error
  exact absurd error (by simp)

/-- A frame is a header of four bytes, which say how long the body is, and a body within the
limit. -/
theorem bytes_of_writable (writable : Writable limit e) :
    ∃ header, bytes e = header ++ encodeBody e ∧ header.length = 4 ∧
      ofBigEndian header = (encodeBody e).length ∧ (encodeBody e).length ≤ limit := by
  rw [Writable] at writable
  refine ⟨encodeHeader (encodeBody e).length, rfl, length_encodeHeader _, ?_, by omega⟩
  rw [← decodeHeader_eq_ofBigEndian, decodeHeader_encodeHeader (by omega)]

end Frame

end Wire

namespace Gateway

open Wire

/-- The envelopes that a session took, in the order in which it took them. -/
def takenBy (id : SessionId) : List Event → List Envelope
  | [] => []
  | .taken other _ e :: before =>
    if other = id then takenBy id before ++ [e] else takenBy id before
  | _ :: before => takenBy id before

/-- A session is writing a frame of which these bytes are left. -/
def Writing (g : Gateway) (id : SessionId) (rest : List UInt8) : Prop :=
  ∃ service, g.service? id = some service ∧ service.sender = .writing rest

/-- A session has ended. -/
def HasEnded (g : Gateway) (id : SessionId) : Prop :=
  ∃ t reason, g.sessions[id]? = some t ∧ t.phase = .ended reason

/-- How the stream of a session stands, by what was written on it. -/
inductive Aligned (g : Gateway) (id : SessionId) : Prop
  /-- At the end of a frame. -/
  | whole (between : ∀ rest, ¬ Writing g id rest)
      (stream : written id g.journal =
        Frame.stream g.settings.sessionLimit (takenBy id g.journal))
  /-- Within the frame of the envelope that was taken last, whose writing goes on or was cut off. -/
  | within {earlier : List Envelope} {e : Envelope} {part rest : List UInt8}
      (took : takenBy id g.journal = earlier ++ [e])
      (writable : Frame.Writable g.settings.sessionLimit e)
      (stream : written id g.journal = Frame.stream g.settings.sessionLimit earlier ++ part)
      (frame : part ++ rest = Frame.bytes e) (more : rest ≠ [])
      (state : Writing g id rest ∨ HasEnded g id)

/-! ## What was taken and what was written -/

section Journals

variable {id : SessionId} {journal journal' : List Event}

theorem takenBy_isPrefix (id : SessionId) (later : journal <:+ journal') :
    takenBy id journal <+: takenBy id journal' := by
  obtain ⟨news, rfl⟩ := later
  induction news with
  | nil => exact List.prefix_rfl
  | cons event news ih =>
    rw [List.cons_append]
    cases event with
    | taken other queue e =>
      rw [takenBy]
      split
      · exact ih.trans (List.prefix_append _ _)
      · exact ih
    | _ => exact ih

theorem written_isPrefix (id : SessionId) (later : journal <:+ journal') :
    written id journal <+: written id journal' := by
  obtain ⟨news, rfl⟩ := later
  induction news with
  | nil => exact List.prefix_rfl
  | cons event news ih =>
    rw [List.cons_append]
    cases event with
    | wrote other bytes =>
      rw [written]
      split
      · exact ih.trans (List.prefix_append _ _)
      · exact ih
    | _ => exact ih

/-- What a session carries are the envelopes that it took. -/
theorem frames_carried (id : SessionId) (journal : List Event) :
    (carried id journal).reverse.map (·.frame) = takenBy id journal := by
  induction journal with
  | nil => rfl
  | cons event before ih =>
    cases event with
    | taken other queue e =>
      rw [carried, takenBy]
      split
      · rw [List.reverse_cons, List.map_append, ih]
        rfl
      · exact ih
    | wrote other bytes =>
      rw [carried, takenBy, ← ih]
      · split
        · cases carried id before with
          | nil => rfl
          | cons c rest => simp
        · rfl
      · exact fun _ _ _ other => by cases other
    | _ => exact ih

/-- If a session takes from one queue only, it took what was taken from this queue by it. -/
theorem takenBy_eq_dequeued {queue : QueueId}
    (only : ∀ {queue' e before}, .taken id queue' e :: before <:+ journal → queue' = queue) :
    takenBy id journal =
      ((dequeued queue journal).filter fun p => p.1 = id).map (·.2) := by
  induction journal with
  | nil => rfl
  | cons event before ih =>
    have ih := ih fun taken => only (taken.trans (List.suffix_cons _ _))
    cases event with
    | taken other queue' e =>
      rw [takenBy, dequeued]
      by_cases mine : other = id
      · subst mine
        rw [if_pos rfl, if_pos (only List.suffix_rfl), ih, List.filter_append, List.map_append,
          List.filter_cons_of_pos (by simp)]
        rfl
      · rw [if_neg mine, ih]
        split
        · rw [List.filter_append, List.filter_cons_of_neg (by simpa using mine), List.filter_nil,
            List.append_nil]
        · rfl
    | _ => exact ih

/-- Of what is settled, the stream has the frames. -/
theorem flatten_of_settled {limit : Nat} {cs : List Carriage} (h : ∀ c ∈ cs, Settled limit c) :
    (cs.map (·.bytes)).flatten = Frame.stream limit (cs.map (·.frame)) := by
  induction cs with
  | nil => rfl
  | cons c rest ih =>
    have first : c.bytes = Frame.stream limit [c.frame] := by
      rcases h c List.mem_cons_self with whole | ⟨skipped, nothing⟩
      · obtain ⟨writable, eq⟩ := Frame.encode_eq_ok.1 whole
        rw [eq, Frame.stream_of_writable writable]
      · rw [nothing, Frame.stream_of_not_writable (Frame.encode_eq_error skipped)]
    have others := ih fun c' mem => h c' (List.mem_cons_of_mem c mem)
    rw [List.map_cons, List.flatten_cons, others, List.map_cons, ← List.singleton_append,
      Frame.stream_append, first]

end Journals

/-! ## Where a stream stands -/

section Aligned

variable {s : Settings} {g later : Gateway} {id : SessionId}

/-- A session that has settled all it took is at the end of a frame. -/
theorem Aligned.of_settled (attained : Attained s g) (between : ∀ rest, ¬ Writing g id rest)
    (settled : ∀ c ∈ carried id g.journal, Settled g.settings.sessionLimit c) : Aligned g id := by
  refine .whole between ?_
  rw [written_of_attained attained, ← frames_carried]
  apply flatten_of_settled
  intro c mem
  exact settled c (List.mem_reverse.1 mem)

/-- A session that has not settled what it took last is within that frame. -/
theorem Aligned.of_midway (attained : Attained s g) {rest : List UInt8}
    (state : Writing g id rest ∨ HasEnded g id)
    (midway : Midway g.settings.sessionLimit (carried id g.journal) rest) : Aligned g id := by
  obtain ⟨c, earlier, eq, more, part, settled⟩ := midway
  obtain ⟨writable, frame⟩ := Frame.encode_eq_ok.1 part
  have took : takenBy id g.journal = earlier.reverse.map (·.frame) ++ [c.frame] := by
    rw [← frames_carried, eq, List.reverse_cons, List.map_append]
    rfl
  refine .within took writable ?_ frame more state
  rw [written_of_attained attained, eq, List.reverse_cons, List.map_append, List.flatten_append,
    flatten_of_settled fun c mem => settled c (List.mem_reverse.1 mem)]
  simp

/-- Every stream is at the end of a frame, or within one that is being written or was cut off. -/
theorem aligned_of_attained (attained : Attained s g) (id : SessionId) : Aligned g id := by
  have w := carrying_of_attained attained
  -- who serves no node writes nothing
  have silent : g.service? id = none → ∀ rest, ¬ Writing g id rest := by
    rintro none rest ⟨service, serves, -⟩
    exact absurd (none.symm.trans serves) (by simp)
  cases here : g.sessions[id]? with
  | none =>
    have nothing := w.unknown here
    refine .of_settled attained (silent ?_) ?_
    · rw [service?, here, Option.bind_none]
    · simp [nothing]
  | some t =>
    have step := w.known here
    have serves := service?_of_here here
    cases phase : t.phase with
    | greeting deadline =>
      rw [phase] at step
      refine .of_settled attained (silent ?_) (settled_of_greeting step)
      rw [serves, Session.service?, phase]
    | brokenDown =>
      rw [phase] at step
      have nothing : carried id g.journal = [] := step
      refine .of_settled attained (silent ?_) ?_
      · rw [serves, Session.service?, phase]
      · simp [nothing]
    | serving service =>
      rw [phase] at step
      rw [Session.service?_eq_some.2 phase] at serves
      by_cases writing : ∃ rest, service.sender = .writing rest
      · obtain ⟨rest, writing⟩ := writing
        exact .of_midway attained (Or.inl ⟨service, serves, writing⟩) (step.1 rest writing)
      · refine .of_settled attained ?_ (step.2 fun rest eq => writing ⟨rest, eq⟩)
        rintro rest ⟨service', serves', eq⟩
        obtain rfl := Option.some.inj (serves.symm.trans serves')
        exact writing ⟨rest, eq⟩
    | ended reason =>
      rw [phase] at step
      rcases step with settled | ⟨rest, midway⟩
      · refine .of_settled attained (silent ?_) settled
        rw [serves, Session.service?, phase]
      · exact .of_midway attained (Or.inr ⟨t, reason, here, phase⟩) midway

/-- A session takes from the queue on which it registered. -/
theorem queue_of_taken (attained : Attained s g) {first : Service}
    (registered : .registered id first ∈ g.journal) {queue : QueueId} {e : Envelope}
    {before : List Event} (taken : .taken id queue e :: before <:+ g.journal) :
    queue = first.queue := by
  obtain ⟨look, tenant, looked, latest, -⟩ := tenant_of_taken attained taken
  have listed : .registered id tenant ∈ g.journal :=
    taken.subset (List.mem_cons_of_mem _ ((suffix_of_lastLook? looked).subset
      (List.mem_cons_of_mem _ (registered_of_tenant look latest))))
  have same : tenant = first := Option.some.inj
    ((registration_of_attained attained listed).1.symm.trans
      (registration_of_attained attained registered).1)
  rw [← same]
  exact (queue_of_tenant look latest).symm

/-! ## What comes next on a stream -/

/-- The last of some items and what comes after them. -/
theorem eq_or_exists_of_concat_eq {α : Type} {xs xs' news : List α} {x x' : α}
    (h : xs ++ [x] ++ news = xs' ++ [x']) :
    (xs = xs' ∧ x = x' ∧ news = []) ∨ ∃ between, xs' = xs ++ [x] ++ between := by
  rcases List.eq_nil_or_concat news with rfl | ⟨between, last, rfl⟩
  · rw [List.append_nil] at h
    obtain ⟨front, final⟩ := List.append_inj' h rfl
    exact Or.inl ⟨front, List.singleton_inj.1 final, rfl⟩
  · rw [List.concat_eq_append, ← List.append_assoc] at h
    exact Or.inr ⟨between, (List.append_inj' h rfl).1.symm⟩

/-- The next bytes of a stream within a frame are the rest of the frame. They are all there as soon
as the session is done with it, unless it ended first. -/
theorem resumes_of_aligned {rest : List UInt8} (now : Aligned g id) (writing : Writing g id rest)
    (then' : Aligned later id) (settings : later.settings = g.settings) {news : List Envelope}
    (took : takenBy id later.journal = takenBy id g.journal ++ news) {next : List UInt8}
    (wrote : written id later.journal = written id g.journal ++ next) :
    (∃ others, next = rest ++ others) ∨
      ∃ left, next ++ left = rest ∧ left ≠ [] ∧ (Writing later id left ∨ HasEnded later id) := by
  cases now with
  | whole between stream => exact absurd writing (between rest)
  | @within earlier e part rest' took₀ writable stream frame more state =>
    -- the frame that the session is within is the one that it is writing
    have same : rest' = rest := by
      obtain ⟨service, serves, sender⟩ := writing
      rcases state with ⟨service', serves', sender'⟩ | ⟨t, reason, here, ended⟩
      · obtain rfl := Option.some.inj (serves.symm.trans serves')
        exact Sender.writing.inj (sender'.symm.trans sender)
      · rw [service?_of_here here, Session.service?, ended] at serves
        exact absurd serves (by simp)
    subst same
    rw [took₀] at took
    -- once the session has gone on to another frame, all bytes of this one are there
    have whole : ∀ others, written id later.journal =
        Frame.stream g.settings.sessionLimit (earlier ++ [e]) ++ others →
        ∃ others, next = rest' ++ others := by
      intro others all
      refine ⟨others, ?_⟩
      rw [wrote, stream, Frame.stream_append, Frame.stream_of_writable writable, ← frame] at all
      simpa only [List.append_assoc, List.append_cancel_left_eq] using all
    cases then' with
    | whole between' stream' =>
      refine Or.inl (whole (Frame.stream g.settings.sessionLimit news) ?_)
      rw [stream', settings, took, Frame.stream_append]
    | @within earlier' e' part' left took' writable' stream' frame' more' state' =>
      rcases eq_or_exists_of_concat_eq (took.symm.trans took') with
        ⟨rfl, rfl, -⟩ | ⟨between, rfl⟩
      · -- it is still within the same frame, or ended there
        refine Or.inr ⟨left, ?_, more', state'⟩
        rw [wrote, stream, settings, List.append_assoc, List.append_cancel_left_eq] at stream'
        rw [← stream', ← frame, List.append_assoc, List.append_cancel_left_eq] at frame'
        exact frame'
      · refine Or.inl (whole (Frame.stream g.settings.sessionLimit between ++ part') ?_)
        rw [stream', settings, Frame.stream_append, List.append_assoc]

end Aligned

/-- What a session has written is, at any time, the frames of the envelopes that it took, in this
order and without those that cannot be written, and at most the front of one more, which is being
written or was cut off by the end of the session. It took what was taken from its queue while it had
the queue, each envelope once. What waits for the worker was written last. A frame is four bytes
that tell the length of the body, and the body, which is within the limit. Whatever happens
afterwards, what was taken and written stays, and the next bytes on a stream within a frame are the
rest of the frame: all of them, unless it is still being written or the session ended. -/
theorem streams_in_step {s : Settings} {g : Gateway} (h : Reachable s g) (id : SessionId) :
    Aligned g id ∧
      (∀ {first}, .registered id first ∈ g.journal → takenBy id g.journal =
        ((dequeued first.queue g.journal).filter fun p => p.1 = id).map (·.2)) ∧
      (∀ {t}, g.sessions[id]? = some t → t.outbound.buffered <:+ written id g.journal) ∧
      (∀ {e}, Frame.Writable s.sessionLimit e → ∃ header, Frame.bytes e = header ++ encodeBody e ∧
        header.length = 4 ∧ ofBigEndian header = (encodeBody e).length ∧
        (encodeBody e).length ≤ s.sessionLimit) ∧
      ∀ {later}, Leads g later → ∃ news next,
        takenBy id later.journal = takenBy id g.journal ++ news ∧
          written id later.journal = written id g.journal ++ next ∧
          ∀ {rest}, Writing g id rest → (∃ others, next = rest ++ others) ∨
            ∃ left, next ++ left = rest ∧ left ≠ [] ∧
              (Writing later id left ∨ HasEnded later id) := by
  have attained := attained_of_reachable h
  have now := aligned_of_attained attained id
  refine ⟨now, fun {first} registered => ?_, buffered_of_attained attained,
    Frame.bytes_of_writable, fun {later} run => ?_⟩
  · apply takenBy_eq_dequeued
    intro queue e before taken
    exact queue_of_taken attained registered taken
  · have changes := changes_of_leads run
    have attained' := attained.trans changes
    have journal := journal_of_changes changes
    obtain ⟨news, took⟩ := takenBy_isPrefix id journal
    obtain ⟨next, wrote⟩ := written_isPrefix id journal
    have settings : later.settings = g.settings := by
      rw [settings_of_attained attained', settings_of_attained attained]
    refine ⟨news, next, took.symm, wrote.symm, fun {rest} writing => ?_⟩
    exact resumes_of_aligned now writing (aligned_of_attained attained' id) settings took.symm
      wrote.symm

/-- A worker with room for eight bytes reads none of a frame and connects again. -/
def overtakenStart : Gateway :=
  play sample (join 0 8 keepaliveFrame ++ [.move (.receive 0)] ++
    ask 0 "default_group" { command := .getItem } 1000 ++ [.move (.place 0 0)] ++ fetch 0 ++
    [.move (.write 0)] ++ join 1 100 keepaliveFrame)

/-- The worker reads on from its first connection. -/
def overtakenEnd : Gateway :=
  [Action.input (.consume 0 8), .move (.write 0), .input (.consume 0 8), .move (.write 0),
    .move (.retire 0), .move (.acquire 1)].foldl perform overtakenStart

/-- The frame that the first connection was writing is finished before it lets go of the queue. -/
theorem streams_in_step_overtaken :
    Reachable sample overtakenStart ∧ Leads overtakenStart overtakenEnd ∧
      (written 0 overtakenStart.journal).length = 8 ∧ (∃ rest, Writing overtakenStart 0 rest) ∧
      Aligned overtakenEnd 0 ∧
      written 0 overtakenEnd.journal = Frame.stream 1000 (takenBy 0 overtakenEnd.journal) ∧
      ∃ next, written 0 overtakenEnd.journal = written 0 overtakenStart.journal ++ next ∧
        ∀ {rest}, Writing overtakenStart 0 rest → ∃ others, next = rest ++ others := by
  have reached : Reachable sample overtakenStart := reachable_play _ _
  have run : Leads overtakenStart overtakenEnd := leads_foldl_perform _
  have silent : (overtakenEnd.service? 0).map (·.sender) = some .retired := by decide +kernel
  have busy : (overtakenStart.service? 0).map (·.sender) =
      some (.writing ((Frame.stream 1000 (takenBy 0 overtakenStart.journal)).drop 8)) := by
    decide +kernel
  obtain ⟨service, serves, sender⟩ := Option.map_eq_some_iff.1 silent
  obtain ⟨-, -, -, -, resumes⟩ := streams_in_step reached 0
  obtain ⟨news, next, -, wrote, rest⟩ := resumes run
  have after := (streams_in_step (reachable_of_leads reached run) 0).1
  refine ⟨reached, run, by decide +kernel, ?_, after, by decide +kernel, next, wrote, ?_⟩
  · obtain ⟨service', serves', writes⟩ := Option.map_eq_some_iff.1 busy
    exact ⟨_, service', serves', writes⟩
  · intro rest' writing
    refine (rest writing).resolve_right ?_
    rintro ⟨left, -, -, ⟨service', serves', sender'⟩ | ⟨t, reason, here, ended⟩⟩
    · obtain rfl := Option.some.inj (serves.symm.trans serves')
      exact absurd (sender.symm.trans sender') (by simp)
    · rw [service?_of_here here, Session.service?, ended] at serves
      exact absurd serves (by simp)

end Gateway

end Switchboard
