import Switchboard.Config.Basic
import Switchboard.Proofs.Reporting
import Switchboard.Proofs.Streams

/-!
# What dispatches accept and senders write

A dispatch measures the body of its envelope against the frame limit, and a sender measures it
again. The sender has one bound more: a header holds no length of 2^32 or above. So the two agree on
a body unless its length is both within the limit and above what a header holds
(`isOk_encode_iff`), and just such bodies are queued and then skipped (`skipped_iff_of_attained`).

Main results: `accepted_iff_writable`, and `exists_accepted_skipped`, that it happens.
-/

set_option autoImplicit false

namespace Switchboard

namespace Wire

/-- The bodies that can be written are within the limit and have a length that a header holds. -/
theorem isOk_encode_iff {limit : Nat} {e : Envelope} :
    (∃ frame, Frame.encode limit e = .ok frame) ↔ bodySize e ≤ limit ∧ bodySize e < 2 ^ 32 := by
  have fits : Frame.Writable limit e ↔ bodySize e ≤ limit ∧ bodySize e < 2 ^ 32 := by
    rw [Frame.Writable, length_encodeBody]
    omega
  rw [← fits]
  constructor
  · rintro ⟨frame, written⟩
    exact (Frame.encode_eq_ok.1 written).1
  · intro writable
    exact ⟨_, Frame.encode_eq_ok.2 ⟨writable, rfl⟩⟩

/-- The others are told as too large. -/
theorem exists_error_encode_iff {limit : Nat} {e : Envelope} :
    (∃ cause, Frame.encode limit e = .error cause) ↔ limit < bodySize e ∨ 2 ^ 32 ≤ bodySize e := by
  have ok : (∃ frame, Frame.encode limit e = .ok frame) ↔ _ := isOk_encode_iff
  cases encoded : Frame.encode limit e with
  | ok frame =>
    have small := ok.1 ⟨frame, encoded⟩
    exact ⟨fun ⟨cause, error⟩ => absurd error (by simp), fun large => absurd small (by omega)⟩
  | error cause =>
    refine ⟨fun _ => ?_, fun _ => ⟨cause, rfl⟩⟩
    by_contra small
    obtain ⟨frame, written⟩ := ok.2 (by omega)
    exact absurd (encoded.symm.trans written) (by simp)

end Wire

namespace Gateway

variable {s : Settings} {g g' : Gateway}

/-! ## What is on the queues -/

/-- A dispatch that may still use a queue has an envelope within the limit. -/
theorem bodySize_le_of_target (h : Attained s g) {id : DispatchId} {x : Dispatch} {queue : QueueId}
    (here : g.dispatches[id]? = some x) (target : queue ∈ x.progress.targets) :
    Wire.bodySize x.request ≤ s.dispatchLimit := by
  induction h generalizing x with
  | refl => exact absurd here (by simp [start])
  | @tail g g' attained c ih =>
    rcases targets_of_change c here target with ⟨old, there, -, mem⟩ |
      ⟨left, correlation, born, seen, among, opening, fits⟩
    · -- it has had this envelope from its start
      obtain ⟨progress, here'⟩ := dispatch_of_change c there
      obtain rfl := Option.some.inj (here'.symm.trans here)
      have fits := ih there mem
      exact fits
    · rwa [settings_of_attained attained] at fits

/-- A queue accepts envelopes of dispatches that are within the limit, and keepalives. -/
theorem enqueued_cases (h : Attained s g) {queue : QueueId} {e : Envelope} {origin : Origin}
    (mem : (e, origin) ∈ enqueued queue g.journal) :
    ((∃ d, origin = .dispatch d) ∧ Wire.bodySize e ≤ s.dispatchLimit) ∨
      ((∀ d, origin ≠ .dispatch d) ∧ e = .keepalive) := by
  induction h with
  | refl => exact absurd mem (by simp [start, enqueued])
  | tail attained c ih =>
    obtain ⟨news, all, each⟩ := arrivals_of_change (ledger_of_attained attained) c queue
    rw [all] at mem
    rcases List.mem_append.1 mem with old | new
    · exact ih old
    · cases each new with
      | request here target => exact Or.inl ⟨⟨_, rfl⟩, bodySize_le_of_target attained here target⟩
      | keepalive due room => exact Or.inr ⟨due.not_dispatch, rfl⟩

/-- What was taken from a queue was accepted by it. -/
theorem exists_origin_of_taken (h : Attained s g) {id : SessionId} {queue : QueueId} {e : Envelope}
    (taken : .taken id queue e ∈ g.journal) : ∃ origin, (e, origin) ∈ enqueued queue g.journal := by
  have listed : ∀ journal : List Event, .taken id queue e ∈ journal →
      (id, e) ∈ dequeued queue journal := by
    intro journal mem
    induction journal with
    | nil => exact absurd mem (by simp)
    | cons event before ih =>
      rcases List.mem_cons.1 mem with rfl | earlier
      · rw [dequeued, if_pos rfl]
        exact List.mem_append_right _ (List.mem_singleton.2 rfl)
      · cases event with
        | taken other queue' e' =>
          rw [dequeued]
          split
          · exact List.mem_append_left _ (ih earlier)
          · exact ih earlier
        | _ => exact ih earlier
  have accepted := (dequeued_isPrefix_enqueued h queue).subset
    (List.mem_map_of_mem (listed _ taken))
  obtain ⟨⟨frame, origin⟩, mem, rfl⟩ := List.mem_map.1 accepted
  exact ⟨origin, mem⟩

/-! ## What is skipped -/

theorem skipped_of_letIn {waiting : Option DispatchId} {queue : QueueId} {id : SessionId}
    {e : Envelope} :
    .skipped id e ∈ (g.letIn waiting queue).journal ↔ .skipped id e ∈ g.journal := by
  rcases journal_letIn g waiting queue with eq | ⟨caller, d, -, -, eq⟩
  · rw [eq]
  · simp [eq]

theorem mem_taken_letIn {waiting : Option DispatchId} {queue queue' : QueueId} {id : SessionId}
    {e : Envelope} :
    .taken id queue' e ∈ (g.letIn waiting queue).journal ↔ .taken id queue' e ∈ g.journal := by
  rcases journal_letIn g waiting queue with eq | ⟨caller, d, -, -, eq⟩
  · rw [eq]
  · simp [eq]

/-- A session skips an envelope that it took exactly if no frame of it can be written. -/
theorem skipped_iff_of_attained (h : Attained s g) (id : SessionId) (e : Envelope) :
    .skipped id e ∈ g.journal ↔
      (∃ queue, .taken id queue e ∈ g.journal) ∧
        ∃ cause, Wire.Frame.encode s.sessionLimit e = .error cause := by
  induction h with
  | refl => simp [start]
  | @tail g g' attained c ih =>
    rw [← settings_of_attained attained] at ih ⊢
    cases c with
    | @took other t service taken bytes here serving reaching popped encoded =>
      -- what is taken now is written, so it is not among what cannot be
      rw [skipped_of_letIn]
      simp only [mem_taken_letIn, List.mem_cons, reduceCtorEq, false_or, ih]
      constructor
      · rintro ⟨⟨queue, earlier⟩, error⟩
        exact ⟨⟨queue, Or.inr earlier⟩, error⟩
      · rintro ⟨⟨queue, now | earlier⟩, cause, error⟩
        · obtain ⟨-, -, rfl⟩ := Event.taken.inj now
          exact absurd (encoded.symm.trans error) (by simp)
        · exact ⟨⟨queue, earlier⟩, cause, error⟩
    | @skipped other t service taken cause here serving reaching popped unwritable =>
      simp only [record, count, List.mem_cons, skipped_of_letIn, mem_taken_letIn, reduceCtorEq,
        false_or, Event.skipped.injEq, Event.taken.injEq, ih]
      constructor
      · rintro (⟨rfl, rfl⟩ | ⟨⟨queue, earlier⟩, error⟩)
        · exact ⟨⟨service.queue, Or.inl ⟨rfl, rfl, rfl⟩⟩, cause, unwritable⟩
        · exact ⟨⟨queue, Or.inr earlier⟩, error⟩
      · rintro ⟨⟨queue, ⟨rfl, -, rfl⟩ | earlier⟩, error⟩
        · exact Or.inl ⟨rfl, rfl⟩
        · exact Or.inr ⟨⟨queue, earlier⟩, error⟩
    | begun group e timeout opened seen fits => simpa [started] using ih
    | _ => simpa using ih

/-- A dispatch starts refused as too large exactly if it gets its id and its envelope is over the
limit. -/
theorem Opening.tooLarge_iff {group : String} {request : Envelope} {claim : Option Correlation.Claim}
    {progress : Progress} {replies : Correlation.Table}
    (opening : Opening g group request claim progress replies) :
    (∃ limit got, progress.result? = some (.error (.tooLarge limit got))) ↔
      claim.isSome = true ∧ g.settings.dispatchLimit < Wire.bodySize request := by
  cases opening with
  | collided taken => simp [Progress.result?]
  | tooLarge opened large => simp [Progress.result?, large]
  | groupNotFound opened fits nobody => simp [Progress.result?, Nat.not_lt.2 fits]
  | placing opened fits seen => simp [Progress.result?, Nat.not_lt.2 fits]

/-- What is on a queue and cannot be written is a request of 2^32 bytes or more, or a keepalive that the
limit does not allow. -/
theorem long_of_unwritable {c : Config} (attained : Attained c.settings g) {queue : QueueId}
    {e : Envelope} {origin : Origin} {cause : Wire.CodecError}
    (mem : (e, origin) ∈ enqueued queue g.journal)
    (error : Wire.Frame.encode c.maxFrameBytes.toNat e = .error cause) :
    (e = .keepalive ∧ c.maxFrameBytes.toNat < Wire.bodySize .keepalive) ∨
      ∃ d, origin = .dispatch d ∧ 2 ^ 32 ≤ Wire.bodySize e ∧
        Wire.bodySize e ≤ c.maxFrameBytes.toNat := by
  have long := Wire.exists_error_encode_iff.1 ⟨cause, error⟩
  rcases enqueued_cases attained mem with ⟨⟨d, same⟩, fits⟩ | ⟨-, rfl⟩
  · have within : Wire.bodySize e ≤ c.maxFrameBytes.toNat := fits
    exact Or.inr ⟨d, same, by omega, within⟩
  · have short : Wire.bodySize .keepalive = 8 := by decide
    exact Or.inl ⟨rfl, by omega⟩

/-- Whatever the frame limit of a gateway is, a dispatch that gets its id is not refused as too large
just if its body is within the limit, and a sender can write a body just if it is within the limit and
shorter than 2^32. So the two decide alike about an envelope unless its body is within the limit and
has 2^32 bytes or more. Of what dispatches put on the queues, the sessions that take it skip just such
envelopes, and beside them only keepalives under a limit that these are too long for. Under a limit
below 2^32 that allows keepalives, nothing is counted as dropped. -/
theorem accepted_iff_writable (c : Config) {g : Gateway} (h : Reachable c.settings g) :
    (∀ (group : String) (e : Envelope) (timeout : Nat), ∃ x,
      (g.input (.dispatch group e timeout)).dispatches = g.dispatches ++ [x] ∧
        x.request = e.stamped g.ids.next.1 ∧
        (x.claim.isSome = true →
          ((¬ ∃ limit got, x.progress.result? = some (.error (.tooLarge limit got))) ↔
              Wire.bodySize x.request ≤ c.maxFrameBytes.toNat) ∧
            ((∃ frame, Wire.Frame.encode c.maxFrameBytes.toNat x.request = .ok frame) ↔
              Wire.bodySize x.request ≤ c.maxFrameBytes.toNat ∧
                Wire.bodySize x.request < 2 ^ 32) ∧
            (((¬ ∃ limit got, x.progress.result? = some (.error (.tooLarge limit got))) ↔
                ∃ frame, Wire.Frame.encode c.maxFrameBytes.toNat x.request = .ok frame) ↔
              ¬ (Wire.bodySize x.request ≤ c.maxFrameBytes.toNat ∧
                2 ^ 32 ≤ Wire.bodySize x.request)))) ∧
      (∀ {id queue frame d}, .taken id queue frame ∈ g.journal →
        (frame, .dispatch d) ∈ enqueued queue g.journal →
        (.skipped id frame ∈ g.journal ↔ 2 ^ 32 ≤ Wire.bodySize frame)) ∧
      (∀ {id frame}, .skipped id frame ∈ g.journal →
        (frame = .keepalive ∧ c.maxFrameBytes.toNat < Wire.bodySize .keepalive) ∨
          ∃ queue d, (frame, .dispatch d) ∈ enqueued queue g.journal ∧
            2 ^ 32 ≤ Wire.bodySize frame ∧ Wire.bodySize frame ≤ c.maxFrameBytes.toNat) ∧
      (Wire.bodySize .keepalive ≤ c.maxFrameBytes.toNat → c.maxFrameBytes.toNat < 2 ^ 32 →
        g.metrics.value .framesDropped = 0) := by
  have attained := attained_of_reachable h
  have settings := settings_of_attained attained
  refine ⟨fun group e timeout => ?_, fun {id queue frame d} taken mem => ?_,
    fun {id frame} skipped => ?_, fun allowed short => ?_⟩
  · obtain ⟨claim, attempts, progress, dispatches, opening, -⟩ :=
      dispatch_opening g group e timeout
    refine ⟨_, dispatches, rfl, fun claimed => ?_⟩
    have limit : g.settings.dispatchLimit = c.maxFrameBytes.toNat := by rw [settings]; rfl
    have refused := opening.tooLarge_iff
    rw [limit, and_iff_right claimed] at refused
    have accepted : (¬ ∃ limit got, progress.result? = some (.error (.tooLarge limit got))) ↔
        Wire.bodySize (e.stamped g.ids.next.1) ≤ c.maxFrameBytes.toNat :=
      (not_congr refused).trans Nat.not_lt
    have written : (∃ frame, Wire.Frame.encode c.maxFrameBytes.toNat (e.stamped g.ids.next.1) =
        .ok frame) ↔ _ := Wire.isOk_encode_iff
    have alike : ∀ size limit : Nat, (size ≤ limit ↔ size ≤ limit ∧ size < 2 ^ 32) ↔
        ¬ (size ≤ limit ∧ 2 ^ 32 ≤ size) := by
      intro size limit
      omega
    exact ⟨accepted, written, (iff_congr accepted written).trans (alike _ _)⟩
  · rw [skipped_iff_of_attained attained]
    constructor
    · rintro ⟨-, cause, error⟩
      rcases enqueued_cases attained mem with ⟨-, fits⟩ | ⟨other, -⟩
      · have within : Wire.bodySize frame ≤ c.maxFrameBytes.toNat := fits
        have long := Wire.exists_error_encode_iff.1 ⟨cause, error⟩
        exact long.resolve_left (Nat.not_lt.2 within)
      · exact absurd rfl (other d)
    · intro long
      exact ⟨⟨queue, taken⟩, Wire.exists_error_encode_iff.2 (Or.inr long)⟩
  · obtain ⟨⟨queue, taken⟩, cause, error⟩ := (skipped_iff_of_attained attained id frame).1 skipped
    obtain ⟨origin, mem⟩ := exists_origin_of_taken attained taken
    refine (long_of_unwritable attained mem error).imp_right ?_
    rintro ⟨d, rfl, rest⟩
    exact ⟨queue, d, mem, rest⟩
  · rw [framesDropped_of_attained attained, settings, Int.natCast_eq_zero, List.countP_eq_zero]
    intro event mem
    -- what was taken is a keepalive or shorter than the limit
    cases event with
    | taken id queue e =>
      obtain ⟨origin, accepted⟩ := exists_origin_of_taken attained mem
      cases encoded : Wire.Frame.encode c.settings.sessionLimit e with
      | ok frame => simp [unwritable, encoded, Except.isOk, Except.toBool]
      | error cause =>
        rcases long_of_unwritable attained accepted encoded with ⟨-, beyond⟩ | ⟨d, -, long, within⟩ <;> omega
    | _ => simp [unwritable]

/-! ## An envelope that no header can hold -/

/-- A dispatch to a group whose only node has an empty queue can put its envelope there. -/
theorem exists_placed_of_empty {queue : QueueId} {group node : String} {e : Envelope}
    {claim : Correlation.Claim} {replies : Correlation.Table} (timeout : Nat)
    (live : g.isOpen queue = true) (empty : g.registry.queue queue = {})
    (room : 0 < g.registry.capacity)
    (opened : g.replies.open? g.ids.next.1 = some (claim, replies))
    (fits : Wire.bodySize (e.stamped g.ids.next.1) ≤ g.settings.dispatchLimit)
    (seen : g.registry.candidates group = some [⟨node, queue⟩]) :
    ∃ placed, Leads g placed ∧ placed.sessions = g.sessions ∧
      placed.registry = g.registry.setQueue queue ⟨[e.stamped g.ids.next.1], []⟩ ∧
      (∀ id, placed.isReporting (.session id) = g.isReporting (.session id)) ∧
      ∃ before, placed.journal =
        .queued queue (e.stamped g.ids.next.1) (.dispatch g.dispatches.length) :: before := by
  -- the dispatch starts with the one candidate, and sets its gauge
  have begun : g.input (.dispatch group e timeout) =
      { g.started group e timeout claim replies [⟨node, queue⟩] with
        reports := g.reports.insert (.dispatch g.dispatches.length) none } := by
    simp [input, dispatch, opened, Nat.not_lt.2 fits, seen, started, newDispatch, setDispatch,
      report, record]
  have due : (g.reports.insert (.dispatch g.dispatches.length) none).get?
      (.dispatch g.dispatches.length) = some none := by
    rw [Assoc.get?_insert, if_pos rfl]
  obtain ⟨metrics, reports, free, others, run⟩ := leads_reported
    (g := g.input (.dispatch group e timeout)) (by rw [begun]; exact due)
  have stays : ∀ {h : Gateway}, h.sessions = g.sessions → h.registry = g.registry →
      h.isOpen queue = true := by
    intro h sessions registry
    rw [isOpen, sessions, registry, ← isOpen, live]
  have pushed : (g.registry.queue queue).push? g.registry.capacity
      (e.stamped g.ids.next.1) = some ⟨[e.stamped g.ids.next.1], []⟩ := by
    rw [empty]
    exact Queue.push?_eq_some.2 ⟨room, rfl⟩
  have others : ∀ id, reports.get? (.session id) = g.reports.get? (.session id) := by
    intro id
    rw [others _ (by simp), begun]
    exact (Assoc.get?_insert _ _ _ _).trans (if_neg (by simp))
  rw [begun] at run
  set ready : Gateway := { g.started group e timeout claim replies [⟨node, queue⟩] with
    metrics
    reports
    journal := _ }
  have place : ready.move? (.place g.dispatches.length 0) =
      some (({ ready with registry := g.registry.setQueue queue ⟨[e.stamped g.ids.next.1], []⟩ }.setDispatch
        g.dispatches.length
          { g.newDispatch group e timeout with claim := some claim, attempts := 1, progress := .awaiting }).record
            (.queued queue (e.stamped g.ids.next.1) (.dispatch g.dispatches.length))) := by
    refine move?_eq_some.2 ⟨isReporting_eq_false.2 free, ?_⟩
    simp [Gateway.step?, Gateway.place, ready, started, stays, Registry.offer, pushed, newDispatch]
  have run' : Leads g _ := .head ⟨.input (.dispatch group e timeout), congrArg some begun⟩
    (run.tail ⟨.move (.place g.dispatches.length 0), place⟩)
  exact ⟨_, run', rfl, rfl, fun id => congrArg Option.isSome (others id), _, rfl⟩

/-- An idle sender that finds one envelope on its queue, and one that it cannot write, can skip it. -/
theorem exists_skipped_of_unwritable {id : SessionId} {t : Session} {service : Service} {e : Envelope}
    {cause : Wire.CodecError} (serving : g.serving? id = some (t, service))
    (idle : service.sender = .idle) (current : g.registry.notified service.signal = false)
    (free : g.isReporting (.session id) = false)
    (queued : g.registry.queue service.queue = ⟨[e], []⟩)
    (unwritable : Wire.Frame.encode g.settings.sessionLimit e = .error cause) :
    ∃ skipped, Leads g skipped ∧
      skipped.journal = .skipped id e :: .taken id service.queue e :: .looked id :: g.journal := by
  have reach : g.move? (.reach id) =
      some ((g.setSender id t service .reaching).record (.looked id)) := by
    refine move?_eq_some.2 ⟨?_, ?_⟩
    · simp [isHeldUp, Move.reporter?, free, isReaching, serving, idle]
    · simp [Gateway.step?, hasNext, Gateway.reach, serving, idle, current, queued]
  obtain ⟨here, -⟩ := serving?_eq_some.1 serving
  obtain ⟨lt, -⟩ := List.getElem?_eq_some_iff.1 here
  have reaching : ((g.setSender id t service .reaching).record (.looked id)).serving? id =
      some ({ t with phase := .serving { service with sender := .reaching } },
        { service with sender := .reaching }) :=
    serving?_eq_some.2 ⟨List.getElem?_set_self lt, rfl⟩
  -- the look changes nothing of what decides about the envelope
  obtain ⟨looking, now⟩ : ∃ looking,
      looking = (g.setSender id t service .reaching).record (.looked id) := ⟨_, rfl⟩
  obtain ⟨registry, settings, reports, journal⟩ : looking.registry = g.registry ∧
      looking.settings = g.settings ∧ looking.reports = g.reports ∧
      looking.journal = .looked id :: g.journal := by
    rw [now]
    exact ⟨rfl, rfl, rfl, rfl⟩
  rw [← now] at reach reaching
  have popped : (looking.registry.queue service.queue).pop? = some ⟨e, none, {}⟩ := by
    rw [registry, queued]
    rfl
  rw [← settings] at unwritable
  have free : looking.isReporting (.session id) = false := by rwa [isReporting, reports]
  obtain ⟨skipped, take, journal'⟩ : ∃ skipped, looking.move? (.take id) = some skipped ∧
      skipped.journal = .skipped id e :: .taken id service.queue e :: looking.journal := by
    simp [move?, isHeldUp, Move.reporter?, free, Gateway.step?, Gateway.take, reaching, popped,
      unwritable, letIn, count, record, setSender, setSession]
  exact ⟨skipped, .tail (.single ⟨.move (.reach id), reach⟩) ⟨.move (.take id), take⟩,
    journal'.trans (by rw [journal])⟩

/-- A dispatch to a group whose only node has an idle sender and an empty queue can put its envelope
there, and the sender can skip it if it has 2^32 bytes or more. -/
theorem exists_skipped_of_idle {id : SessionId} {t : Session} {service : Service} {group node : String}
    {e : Envelope} {claim : Correlation.Claim} {replies : Correlation.Table} (timeout : Nat)
    (serving : g.serving? id = some (t, service)) (idle : service.sender = .idle)
    (current : g.registry.notified service.signal = false)
    (free : g.isReporting (.session id) = false)
    (made : service.queue < g.registry.queues.length)
    (empty : g.registry.queue service.queue = {}) (room : 0 < g.registry.capacity)
    (opened : g.replies.open? g.ids.next.1 = some (claim, replies))
    (fits : Wire.bodySize (e.stamped g.ids.next.1) ≤ g.settings.dispatchLimit)
    (seen : g.registry.candidates group = some [⟨node, service.queue⟩])
    (long : 2 ^ 32 ≤ Wire.bodySize (e.stamped g.ids.next.1)) :
    ∃ skipped, Leads g skipped ∧
      (e.stamped g.ids.next.1, .dispatch g.dispatches.length) ∈
        enqueued service.queue skipped.journal ∧
      .skipped id (e.stamped g.ids.next.1) ∈ skipped.journal := by
  obtain ⟨here, phase⟩ := serving?_eq_some.1 serving
  obtain ⟨placed, run, sessions, registry, reports, before, journal⟩ := exists_placed_of_empty timeout
    (isOpen_of_serving here phase) empty room opened fits seen
  obtain ⟨cause, unwritable⟩ := Wire.exists_error_encode_iff.2
    (Or.inr long : placed.settings.sessionLimit < _ ∨ _)
  -- the sender finds it alone on the queue
  have served : placed.serving? id = some (t, service) := by
    rw [serving?_eq_some, sessions]
    exact ⟨here, phase⟩
  have quiet : placed.registry.notified service.signal = false := by
    rw [registry]
    exact current
  have queued : placed.registry.queue service.queue = ⟨[e.stamped g.ids.next.1], []⟩ := by
    rw [registry, queue_setQueue_of_lt made, if_pos rfl]
  obtain ⟨skipped, run', journal'⟩ := exists_skipped_of_unwritable served idle quiet
    ((reports id).trans free) queued unwritable
  refine ⟨skipped, run.trans run', ?_, ?_⟩
  · simp [journal', journal, enqueued]
  · rw [journal']
    exact List.mem_cons_self

/-- A valid configuration with a frame limit of 2^33. -/
def wide : Config := { maxFrameBytes := 8589934592, instanceId := some 0 }

/-- A worker waits for its first envelope. -/
def wideStart : Gateway := play wide.settings (join 0 100 keepaliveFrame)

/-- An envelope between 2^32 and this limit is accepted for the node of the worker, and skipped. -/
theorem exists_skipped_wideStart {e : Envelope} (long : 2 ^ 32 ≤ Wire.bodySize (e.stamped 1))
    (fits : Wire.bodySize (e.stamped 1) ≤ 8589934592) :
    ∃ g, Reachable wide.settings g ∧ (e.stamped 1, .dispatch 0) ∈ enqueued 0 g.journal ∧
      .skipped 0 (e.stamped 1) ∈ g.journal := by
  have reached : Reachable wide.settings wideStart := reachable_play _ _
  have waits : (wideStart.serving? 0).map (fun p => (p.2.sender, p.2.queue,
      wideStart.registry.notified p.2.signal)) = some (.idle, 0, false) := by
    decide +kernel
  have free : wideStart.isReporting (.session 0) = false := by decide +kernel
  have numbers : (wideStart.ids.next.1, wideStart.dispatches.length, wideStart.settings,
      wideStart.registry.capacity) = (1, 0, wide.settings, 20000) := by
    decide +kernel
  have queues : wideStart.registry.queues = [{}] := by decide +kernel
  have opens : (wideStart.replies.open? 1).isSome = true := by decide +kernel
  have seen : wideStart.registry.candidates "default_group" = some [⟨"default_node", 0⟩] := by
    decide +kernel
  obtain ⟨⟨t, service⟩, serving, here⟩ := Option.map_eq_some_iff.1 waits
  obtain ⟨⟨claim, replies⟩, opened⟩ := Option.isSome_iff_exists.1 opens
  simp only [Prod.mk.injEq] at here numbers
  obtain ⟨idle, queue, current⟩ := here
  obtain ⟨one, none, settings, capacity⟩ := numbers
  rw [← queue] at seen
  rw [← one] at long fits opened ⊢
  have within : Wire.bodySize (e.stamped wideStart.ids.next.1) ≤
      wideStart.settings.dispatchLimit := by
    rw [settings]
    exact fits
  obtain ⟨skipped, run, accepted, dropped⟩ :=
    exists_skipped_of_idle 1000 serving idle current free (by simp [queue, queues])
      (by simp [queue, Registry.queue, queues]) (by simp [capacity]) opened within seen long
  rw [none, queue] at accepted
  exact ⟨skipped, reachable_of_leads reached run, accepted, dropped⟩

/-- A text over and over. -/
def repeated (text : String) (n : Nat) : String := String.join (List.replicate n text)

theorem utf8ByteSize_repeated (text : String) (n : Nat) :
    (repeated text n).utf8ByteSize = n * text.utf8ByteSize := by
  -- whatever the text so far is, it grows by one more each time
  have grows : ∀ before : String,
      ((List.replicate n text).foldl (fun t u => t ++ u) before).utf8ByteSize =
        before.utf8ByteSize + n * text.utf8ByteSize := by
    induction n with
    | zero => simp
    | succ n ih =>
      intro before
      rw [List.replicate_succ, List.foldl_cons, ih, String.utf8ByteSize_append, Nat.succ_mul]
      omega
  rw [repeated, String.join, grows, String.utf8ByteSize_empty, Nat.zero_add]

/-- A text of 1431658496 bytes. -/
def longText : String := repeated (repeated "x" 4096) 349526

/-- A request with a text in three of its fields. -/
def threefold (text : String) : Envelope :=
  { command := .getItem, token := text, signature := text, params := text }

theorem bodySize_threefold (text : String) : Wire.bodySize ((threefold text).stamped 1) =
    3 * Wire.countedSize text.utf8ByteSize + 6 := by
  have fixed : Wire.countedSize (Command.toText .getItem).utf8ByteSize +
      Wire.Varint.size (1 : CorrelationId).toNat + Wire.countedSize 0 + Wire.countedSize 0 = 6 := by
    decide
  simp only [Wire.bodySize, threefold, Envelope.stamped, String.utf8ByteSize_empty, List.length_nil]
  omega

theorem bodySize_longText : Wire.bodySize ((threefold longText).stamped 1) = 4294975509 := by
  have letter : "x".utf8ByteSize = 1 := by decide
  rw [bodySize_threefold, longText, utf8ByteSize_repeated, utf8ByteSize_repeated, letter]
  decide

/-- Under this limit an envelope of more than 2^32 bytes is accepted and skipped. -/
theorem accepted_iff_writable_longText :
    ∃ g, Reachable wide.settings g ∧ .skipped 0 ((threefold longText).stamped 1) ∈ g.journal ∧
      ∃ queue d, ((threefold longText).stamped 1, .dispatch d) ∈ enqueued queue g.journal ∧
        2 ^ 32 ≤ Wire.bodySize ((threefold longText).stamped 1) ∧
        Wire.bodySize ((threefold longText).stamped 1) ≤ wide.maxFrameBytes.toNat := by
  have size := bodySize_longText
  obtain ⟨g, reached, -, dropped⟩ := exists_skipped_wideStart (e := threefold longText)
    (by rw [size]; decide) (by rw [size]; decide)
  obtain ⟨-, -, oversized, -⟩ := accepted_iff_writable wide reached
  exact ⟨g, reached, dropped,
    (oversized dropped).resolve_left fun small => absurd small.2 (by decide)⟩

/-- A valid configuration does not keep senders from skipping what a dispatch put on a queue. -/
theorem exists_accepted_skipped :
    ¬ ∀ {c : Config}, c.validate = .ok () → ∀ {g : Gateway}, Reachable c.settings g →
      ∀ {id queue frame d}, (frame, .dispatch d) ∈ enqueued queue g.journal →
        .skipped id frame ∉ g.journal := by
  intro claim
  have size := bodySize_longText
  obtain ⟨g, reached, accepted, dropped⟩ := exists_skipped_wideStart (e := threefold longText)
    (by rw [size]; decide) (by rw [size]; decide)
  exact claim (c := wide) (by decide) reached accepted dropped

end Gateway

end Switchboard
