import Switchboard.Gateway.Step

/-!
# Slots and the replies that come for them

The slot of a dispatch is open from the moment it gets its correlation id until a reply with that id
is read, or a dispatch with that id is over. The journal tells whose slot is open under an id
(`holder?`), which reply came while the slot of a dispatch was open (`answer?`), and how many came
when no slot was open under their ids (`missed`).

The first section says what opening, delivering and dropping do to the table of slots.
-/

set_option autoImplicit false

namespace Switchboard

/-! ## The table of slots -/

namespace Correlation.Table

variable {t t' : Table} {id : CorrelationId} {ticket : Ticket} {e : Envelope} {c : Claim}

theorem lookup_filter {κ ν : Type} [BEq κ] [LawfulBEq κ] (p : κ → Bool) (key : κ)
    (l : List (κ × ν)) :
    (l.filter fun pair => p pair.1).lookup key = if p key then l.lookup key else none := by
  induction l with
  | nil => simp
  | cons pair rest ih =>
    obtain ⟨k, v⟩ := pair
    by_cases same : key = k
    · subst same
      by_cases keep : p key <;> simp [keep, ih]
    · have other : (key == k) = false := by simpa using same
      by_cases keep : p k <;> simp [List.lookup_cons, keep, ih, other]

theorem waiter?_withoutSlot (id' : CorrelationId) :
    (t.withoutSlot id).waiter? id' = if id' = id then none else t.waiter? id' := by
  unfold withoutSlot waiter?
  rw [lookup_filter (fun k => k != id)]
  by_cases same : id' = id <;> simp [same]

/-- A slot is opened under an id other than 0 that has no slot. -/
theorem open?_eq_some (h : t.open? id = some (c, t')) :
    id ≠ noReply ∧ t.waiter? id = none ∧ c = ⟨id, t.nextTicket⟩ ∧
      t' = { t with slots := t.slots ++ [(id, t.nextTicket)], nextTicket := t.nextTicket + 1 } := by
  unfold open? at h
  split at h
  · exact absurd h (by simp)
  · rename_i fits
    obtain ⟨rfl, rfl⟩ := Prod.mk.inj (Option.some.inj h)
    rw [Bool.or_eq_true, decide_eq_true_eq, not_or, Bool.not_eq_true,
      Option.isSome_eq_false_iff, Option.isNone_iff_eq_none] at fits
    exact ⟨fits.1, fits.2, rfl, rfl⟩

theorem waiter?_open? (h : t.open? id = some (c, t')) (id' : CorrelationId) :
    t'.waiter? id' = if id' = id then some c.ticket else t.waiter? id' := by
  obtain ⟨-, free, rfl, rfl⟩ := open?_eq_some h
  show (t.slots ++ _).lookup id' = _
  rw [List.lookup_append]
  by_cases same : id' = id
  · subst same
    have none : t.slots.lookup id' = none := free
    simp [none]
  · have other : (id' == id) = false := by simpa using same
    simp [List.lookup_cons, other, same, waiter?]

/-- A frame with an id goes to whoever has the slot, and the slot goes away. -/
theorem deliver_eq_delivered (h : t.deliver e = (.delivered ticket, t')) :
    e.correlationId ≠ noReply ∧ t.waiter? e.correlationId = some ticket ∧
      t' = { t.withoutSlot e.correlationId with replies := t.replies ++ [(ticket, e)] } := by
  unfold deliver at h
  split at h
  · exact absurd h (by simp)
  · rename_i id
    split at h
    · exact absurd h (by simp)
    · rename_i waits
      obtain ⟨same, rfl⟩ := Prod.mk.inj h
      obtain rfl := Delivery.delivered.inj same
      exact ⟨id, waits, rfl⟩

theorem deliver_of_waiter? (id : e.correlationId ≠ noReply)
    (waits : t.waiter? e.correlationId = some ticket) :
    t.deliver e =
      (.delivered ticket,
        { t.withoutSlot e.correlationId with replies := t.replies ++ [(ticket, e)] }) := by
  unfold deliver
  rw [if_neg id, waits]

theorem waiter?_deliver (h : t.deliver e = (.delivered ticket, t')) (id : CorrelationId) :
    t'.waiter? id = if id = e.correlationId then none else t.waiter? id := by
  obtain ⟨-, -, rfl⟩ := deliver_eq_delivered h
  exact waiter?_withoutSlot id

theorem lookup_deliver (h : t.deliver e = (.delivered ticket, t')) (ticket' : Ticket) :
    t'.replies.lookup ticket' =
      (t.replies.lookup ticket').or (if ticket' = ticket then some e else none) := by
  obtain ⟨-, -, rfl⟩ := deliver_eq_delivered h
  show (t.replies ++ _).lookup ticket' = _
  rw [List.lookup_append]
  by_cases same : ticket' = ticket
  · simp [same]
  · have other : (ticket' == ticket) = false := by simpa using same
    simp [List.lookup_cons, other, same]

/-- A claim with another id and another ticket sees nothing of a reply that is handed over. -/
theorem look_deliver (h : t.deliver e = (.delivered ticket, t')) (id : c.id ≠ e.correlationId)
    (other : c.ticket ≠ ticket) : t'.look c = t.look c := by
  have slots : (c.id, c.ticket) ∈ t'.slots ↔ (c.id, c.ticket) ∈ t.slots := by
    obtain ⟨-, -, rfl⟩ := deliver_eq_delivered h
    simp [withoutSlot, id]
  rw [look, look, lookup_deliver h, if_neg other, Option.or_none]
  simp only [slots]

/-- A frame with an id under which nobody waits goes to nobody. -/
theorem deliver_eq_noWaiter (h : t.deliver e = (.noWaiter, t')) :
    e.correlationId ≠ noReply ∧ t.waiter? e.correlationId = none := by
  unfold deliver at h
  split at h
  · exact absurd h (by simp)
  · rename_i id
    split at h
    · rename_i waits
      exact ⟨id, waits⟩
    · exact absurd h (by simp)

/-- A frame that is unsolicited carries no id. -/
theorem deliver_eq_unsolicited (h : t.deliver e = (.unsolicited, t')) :
    e.correlationId = noReply := by
  unfold deliver at h
  split at h
  · assumption
  · split at h <;> exact absurd h (by simp)

/-- A frame that goes to nobody leaves the table as it is. -/
theorem deliver_eq_self {delivery : Delivery} (h : t.deliver e = (delivery, t'))
    (nobody : ∀ ticket, delivery ≠ .delivered ticket) : t' = t := by
  unfold deliver at h
  split at h
  · exact (Prod.mk.inj h).2.symm
  · split at h
    · exact (Prod.mk.inj h).2.symm
    · exact absurd (Prod.mk.inj h).1.symm (nobody _)

theorem waiter?_drop (id' : CorrelationId) :
    (t.drop c).waiter? id' = if id' = c.id then none else t.waiter? id' :=
  waiter?_withoutSlot id'

theorem lookup_drop (ticket : Ticket) :
    (t.drop c).replies.lookup ticket = if ticket = c.ticket then none else t.replies.lookup ticket := by
  unfold drop
  dsimp only
  rw [lookup_filter (fun k => k != c.ticket)]
  by_cases same : ticket = c.ticket <;> simp [same]

theorem look_eq_reply : t.look c = .reply e ↔ t.replies.lookup c.ticket = some e := by
  unfold look
  cases t.replies.lookup c.ticket with
  | none =>
    by_cases slot : (c.id, c.ticket) ∈ t.slots <;> simp [slot]
  | some e' => simp

theorem look_eq_closed :
    t.look c = .closed ↔ t.replies.lookup c.ticket = none ∧ (c.id, c.ticket) ∉ t.slots := by
  unfold look
  cases t.replies.lookup c.ticket with
  | none =>
    by_cases slot : (c.id, c.ticket) ∈ t.slots <;> simp [slot]
  | some e => simp

theorem mem_slots_of_waiter? (h : t.waiter? id = some ticket) : (id, ticket) ∈ t.slots := by
  obtain ⟨before, after, slots, -⟩ := List.lookup_eq_some_iff.1 h
  rw [slots]
  exact List.mem_append_right _ List.mem_cons_self

/-- The ids with a slot are those under which a claim waits. -/
theorem mem_ids_iff : id ∈ t.slots.map (·.1) ↔ ∃ ticket, t.waiter? id = some ticket := by
  rw [← Option.isSome_iff_exists, waiter?, List.lookup_isSome_iff, List.mem_map]
  exact exists_congr fun slot => and_congr_right fun _ => (beq_iff_eq.trans eq_comm).symm

end Correlation.Table

/-- The frame is no control signal and carries a correlation id. -/
def Envelope.isReply (e : Envelope) : Bool := !e.command.isControl && e.expectsReply

theorem Envelope.isReply_iff {e : Envelope} :
    e.isReply = true ↔ e.command.isControl = false ∧ e.correlationId ≠ noReply := by
  simp [isReply, expectsReply]

/-- The dispatch goes on to find a queue for its envelope. -/
def Progress.isPlacing : Progress → Bool
  | .placing _ | .blocked _ _ => true
  | .awaiting | .resolved _ | .done _ | .cancelled => false

theorem Progress.isOpen_of_isPlacing {p : Progress} (h : p.isPlacing = true) : p.isOpen = true := by
  cases p <;> first | rfl | exact absurd h (by simp [isPlacing])

/-- The event opens no slot, closes none, and is no reply. -/
def Event.isAside : Event → Bool
  | .opened _ _ | .finished _ _ | .cancelled _ => false
  | .received _ e => !e.isReply
  | _ => true

namespace Gateway

/-! ## What the journal tells about slots -/

/-- The correlation id that a dispatch got. -/
def correlation? (id : DispatchId) : List Event → Option CorrelationId
  | [] => none
  | .opened other c :: before => if other = id then some c else correlation? id before
  | _ :: before => correlation? id before

/-- The dispatch whose slot is open under a correlation id. -/
def holder? (c : CorrelationId) : List Event → Option DispatchId
  | [] => none
  | .opened id c' :: before => if c' = c then some id else holder? c before
  | .received _ e :: before =>
    if e.isReply = true ∧ e.correlationId = c then none else holder? c before
  | .finished id _ :: before => if correlation? id before = some c then none else holder? c before
  | .cancelled id :: before => if correlation? id before = some c then none else holder? c before
  | _ :: before => holder? c before

/-- The reply that came last while the slot of a dispatch was open. -/
def answer? (id : DispatchId) : List Event → Option Envelope
  | [] => none
  | .received _ e :: before =>
    if e.isReply = true ∧ holder? e.correlationId before = some id then some e
    else answer? id before
  | _ :: before => answer? id before

/-- The number of replies that came when no slot was open under their ids. -/
def missed : List Event → Nat
  | [] => 0
  | .received _ e :: before =>
    if e.isReply = true ∧ holder? e.correlationId before = none then missed before + 1
    else missed before
  | _ :: before => missed before

/-- A queue took the envelope of a dispatch. -/
def Queued (id : DispatchId) (journal : List Event) : Prop :=
  ∃ queue e, .queued queue e (.dispatch id) ∈ journal

/-- A reply was read while the slot of a dispatch was open; `before` is what had happened by then. -/
structure Answers (journal : List Event) (id : DispatchId) (e : Envelope) (before : List Event) :
    Prop where
  received : ∃ session, .received session e :: before <:+ journal
  reply : e.isReply = true
  slot : holder? e.correlationId before = some id

/-- Every dispatch has one answer at most, which carries the id of the dispatch. -/
structure Single (journal : List Event) : Prop where
  latest : ∀ {id e before}, Answers journal id e before → answer? id journal = some e
  once : ∀ {id e e' before before'}, Answers journal id e before → Answers journal id e' before' →
    before = before'
  matched : ∀ {id e before}, Answers journal id e before →
    correlation? id journal = some e.correlationId

/-- No reply to a dispatch came since, and no queue took its envelope. -/
structure NoNews (id : DispatchId) (journal journal' : List Event) : Prop where
  later : journal <:+ journal'
  answer : answer? id journal' = answer? id journal
  answers : ∀ {e before}, Answers journal' id e before → Answers journal id e before
  queued : Queued id journal' → Queued id journal

/-- What happened since has nothing to do with slots. -/
structure Unheard (journal journal' : List Event) : Prop where
  later : journal <:+ journal'
  correlation : ∀ id, correlation? id journal' = correlation? id journal
  holder : ∀ c, holder? c journal' = holder? c journal
  answer : ∀ id, answer? id journal' = answer? id journal
  answers : ∀ {id e before}, Answers journal' id e before → Answers journal id e before

section Journal

variable {journal journal' : List Event} {id : DispatchId} {e : Envelope} {before : List Event}

theorem Answers.of_cons {event : Event} (h : Answers (event :: journal) id e before) :
    Answers journal id e before ∨ ∃ session, event = .received session e ∧ before = journal := by
  obtain ⟨⟨session, received⟩, reply, slot⟩ := h
  rcases List.suffix_cons_iff.1 received with same | earlier
  · obtain ⟨rfl, rfl⟩ := List.cons.inj same
    exact Or.inr ⟨session, rfl, rfl⟩
  · exact Or.inl ⟨⟨session, earlier⟩, reply, slot⟩

/-! ### What one event does -/

theorem holder?_opened (c c' : CorrelationId) :
    holder? c (.opened id c' :: journal) = if c = c' then some id else holder? c journal := by
  rw [holder?]
  by_cases same : c = c'
  · rw [if_pos same, if_pos same.symm]
  · rw [if_neg same, if_neg fun h => same h.symm]

/-- A reply closes the slot under its id. -/
theorem holder?_received (session : SessionId) (reply : e.isReply = true) (c : CorrelationId) :
    holder? c (.received session e :: journal) =
      if c = e.correlationId then none else holder? c journal := by
  rw [holder?]
  by_cases same : c = e.correlationId
  · rw [if_pos same, if_pos ⟨reply, same.symm⟩]
  · rw [if_neg same, if_neg fun h => same h.2.symm]

/-- A dispatch that is over closes the slot under its id, whoever has it. -/
theorem holder?_last {event : Event} {c : CorrelationId}
    (last : (∃ result, event = .finished id result) ∨ event = .cancelled id)
    (named : correlation? id journal = some c) (c' : CorrelationId) :
    holder? c' (event :: journal) = if c' = c then none else holder? c' journal := by
  have closes : holder? c' (event :: journal) =
      if correlation? id journal = some c' then none else holder? c' journal := by
    rcases last with ⟨result, rfl⟩ | rfl <;> rfl
  rw [closes, named]
  by_cases same : c' = c
  · rw [if_pos same, if_pos (same ▸ rfl)]
  · rw [if_neg same, if_neg fun h => same (Option.some.inj h).symm]

/-- A reply answers the dispatch that has the slot under its id. -/
theorem answer?_received (session : SessionId) (reply : e.isReply = true)
    (slot : holder? e.correlationId journal = some id) (id' : DispatchId) :
    answer? id' (.received session e :: journal) =
      if id' = id then some e else answer? id' journal := by
  rw [answer?]
  by_cases same : id' = id
  · rw [if_pos same, if_pos ⟨reply, same ▸ slot⟩]
  · rw [if_neg same, if_neg]
    rintro ⟨-, slot'⟩
    exact same (Option.some.inj (slot'.symm.trans slot))

theorem single_nil : Single [] where
  latest h := by
    obtain ⟨session, received⟩ := h.received
    exact absurd received (by simp)
  once h := by
    obtain ⟨session, received⟩ := h.received
    exact absurd received (by simp)
  matched h := by
    obtain ⟨session, received⟩ := h.received
    exact absurd received (by simp)

theorem Single.of_earlier (s : Single journal)
    (earlier : ∀ {id e before}, Answers journal' id e before → Answers journal id e before)
    (same : ∀ {id e before}, Answers journal id e before →
      answer? id journal' = answer? id journal ∧
        correlation? id journal' = correlation? id journal) : Single journal' where
  latest h := (same (earlier h)).1.trans (s.latest (earlier h))
  once h h' := s.once (earlier h) (earlier h')
  matched h := (same (earlier h)).2.trans (s.matched (earlier h))

/-- A reply is the one answer to a dispatch that had none before. -/
theorem Single.received (s : Single journal) (session : SessionId) (reply : e.isReply = true)
    (slot : holder? e.correlationId journal = some id) (unanswered : answer? id journal = none)
    (named : correlation? id journal = some e.correlationId) :
    Single (.received session e :: journal) := by
  have answers : ∀ {id' e' before}, Answers (.received session e :: journal) id' e' before →
      Answers journal id' e' before ∨ id' = id ∧ e' = e ∧ before = journal := by
    intro id' e' before h
    rcases h.of_cons with old | ⟨session', same, rfl⟩
    · exact Or.inl old
    · obtain ⟨-, rfl⟩ := Event.received.inj same
      exact Or.inr ⟨Option.some.inj (h.slot.symm.trans slot), rfl, rfl⟩
  have first : ∀ {e' before}, ¬ Answers journal id e' before := by
    intro e' before h
    exact absurd ((s.latest h).symm.trans unanswered) (by simp)
  -- the dispatch had no answer, so old answers are those of others
  constructor
  case latest =>
    intro id' e' before h
    rw [answer?_received session reply slot]
    rcases answers h with old | ⟨rfl, rfl, rfl⟩
    · rw [if_neg, s.latest old]
      rintro rfl
      exact first old
    · rw [if_pos rfl]
  case once =>
    intro id' e' e'' before before' h h'
    rcases answers h with old | ⟨rfl, rfl, rfl⟩
    · rcases answers h' with old' | ⟨rfl, rfl, rfl⟩
      · exact s.once old old'
      · exact absurd old first
    · rcases answers h' with old' | ⟨-, rfl, rfl⟩
      · exact absurd old' first
      · rfl
  case matched =>
    intro id' e' before h
    rcases answers h with old | ⟨rfl, rfl, rfl⟩
    · exact s.matched old
    · exact named

/-! ### Events that do not matter -/

theorem Unheard.refl (journal : List Event) : Unheard journal journal :=
  ⟨List.suffix_rfl, fun _ => rfl, fun _ => rfl, fun _ => rfl, id⟩

theorem Unheard.trans {journal'' : List Event} (first : Unheard journal journal')
    (second : Unheard journal' journal'') : Unheard journal journal'' where
  later := first.later.trans second.later
  correlation id := (second.correlation id).trans (first.correlation id)
  holder c := (second.holder c).trans (first.holder c)
  answer id := (second.answer id).trans (first.answer id)
  answers h := first.answers (second.answers h)

theorem Single.unheard (s : Single journal) (unheard : Unheard journal journal') :
    Single journal' :=
  s.of_earlier unheard.answers fun _ => ⟨unheard.answer _, unheard.correlation _⟩

theorem unheard_cons {event : Event} (aside : event.isAside = true) :
    Unheard journal (event :: journal) := by
  have old : ∀ {id e before}, Answers (event :: journal) id e before →
      Answers journal id e before := by
    intro id e before h
    refine h.of_cons.resolve_right ?_
    rintro ⟨session, rfl, -⟩
    rw [Event.isAside, h.reply] at aside
    exact absurd aside (by simp)
  cases event with
  | received session e =>
    have plain : e.isReply = false := by simpa [Event.isAside] using aside
    exact ⟨List.suffix_cons _ _, fun _ => rfl, fun c => if_neg (by simp [plain]),
      fun c => if_neg (by simp [plain]), old⟩
  | opened id c => exact absurd aside (by simp [Event.isAside])
  | finished id result => exact absurd aside (by simp [Event.isAside])
  | cancelled id => exact absurd aside (by simp [Event.isAside])
  | _ => exact ⟨List.suffix_cons _ _, fun _ => rfl, fun _ => rfl, fun _ => rfl, old⟩

/-- A reply that comes when nobody waits changes nothing. -/
theorem unheard_received {session : SessionId}
    (nobody : holder? e.correlationId journal = none) :
    Unheard journal (.received session e :: journal) where
  later := List.suffix_cons _ _
  correlation _ := rfl
  holder c := by
    show (if _ then _ else _) = _
    split
    · rename_i mine
      rw [← mine.2, nobody]
    · rfl
  answer id := if_neg (by simp [nobody])
  answers h := by
    refine h.of_cons.resolve_right ?_
    rintro ⟨session', same, rfl⟩
    obtain ⟨-, rfl⟩ := Event.received.inj same
    rw [h.slot] at nobody
    exact absurd nobody (by simp)

/-- A dispatch that never had a slot closes none. -/
theorem unheard_finished {result : DispatchResult} (none : correlation? id journal = none) :
    Unheard journal (.finished id result :: journal) where
  later := List.suffix_cons _ _
  correlation _ := rfl
  holder c := if_neg (by simp [none])
  answer _ := rfl
  answers h := h.of_cons.resolve_right (by simp)

theorem Queued.of_cons {event : Event} (h : Queued id (event :: journal)) :
    Queued id journal ∨ ∃ queue e, event = .queued queue e (.dispatch id) := by
  obtain ⟨queue, e, mem⟩ := h
  rcases List.mem_cons.1 mem with same | earlier
  · exact Or.inr ⟨queue, e, same.symm⟩
  · exact Or.inl ⟨queue, e, earlier⟩

theorem noNews_opened (id other : DispatchId) (c : CorrelationId) :
    NoNews id journal (.opened other c :: journal) where
  later := List.suffix_cons _ _
  answer := rfl
  answers h := h.of_cons.resolve_right (by simp)
  queued h := h.of_cons.resolve_right (by simp)

theorem noNews_last {event : Event} {other : DispatchId}
    (last : (∃ result, event = .finished other result) ∨ event = .cancelled other) :
    NoNews id journal (event :: journal) := by
  rcases last with ⟨result, rfl⟩ | rfl
  all_goals
    exact ⟨List.suffix_cons _ _, rfl, fun h => h.of_cons.resolve_right (by simp),
      fun h => h.of_cons.resolve_right (by simp)⟩

/-- The request of one dispatch on a queue is not that of another. -/
theorem Queued.of_other {id' : DispatchId} {queue : QueueId} {e : Envelope} (other : id ≠ id')
    (h : Queued id (.queued queue e (.dispatch id') :: journal)) : Queued id journal := by
  refine h.of_cons.resolve_right ?_
  rintro ⟨queue', e', same⟩
  obtain ⟨-, -, same⟩ := Event.queued.inj same
  exact other (Origin.dispatch.inj same).symm

/-- An open slot was opened for its dispatch, and no reply with its id was read since. -/
theorem opened_of_holder? {c : CorrelationId} (h : holder? c journal = some id) :
    ∃ earlier, .opened id c :: earlier <:+ journal ∧
      ∀ {session e before}, .received session e :: before <:+ journal → e.isReply = true →
        e.correlationId = c → .received session e :: before <:+ earlier := by
  induction journal with
  | nil => exact absurd h (by simp [holder?])
  | cons event journal ih =>
    -- what the last event is does not matter, unless it opens the slot or is a reply with the id
    have later : holder? c journal = some id →
        (∀ {session e}, event = .received session e → e.isReply = true → e.correlationId ≠ c) →
        ∃ earlier, .opened id c :: earlier <:+ event :: journal ∧
          ∀ {session e before}, .received session e :: before <:+ event :: journal →
            e.isReply = true → e.correlationId = c → .received session e :: before <:+ earlier := by
      intro h other
      obtain ⟨earlier, opened, since⟩ := ih h
      refine ⟨earlier, opened.trans (List.suffix_cons _ _), fun received reply same => ?_⟩
      rcases List.suffix_cons_iff.1 received with latest | old
      · exact absurd same (other (List.cons.inj latest).1.symm reply)
      · exact since old reply same
    cases event with
    | opened id' c' =>
      rw [holder?] at h
      split at h
      · rename_i same
        subst same
        obtain rfl := Option.some.inj h
        refine ⟨journal, List.suffix_rfl, fun received reply _ => ?_⟩
        exact (List.suffix_cons_iff.1 received).resolve_left (by simp)
      · exact later h (by simp)
    | received session e =>
      rw [holder?] at h
      split at h
      · exact absurd h (by simp)
      · rename_i other
        refine later h fun same reply same' => ?_
        obtain ⟨-, rfl⟩ := Event.received.inj same
        exact other ⟨reply, same'⟩
    | finished id' result =>
      rw [holder?] at h
      split at h
      · exact absurd h (by simp)
      · exact later h (by simp)
    | cancelled id' =>
      rw [holder?] at h
      split at h
      · exact absurd h (by simp)
      · exact later h (by simp)
    | _ => exact later h (by simp)

theorem answers_of_answer? (h : answer? id journal = some e) : ∃ before, Answers journal id e before := by
  induction journal with
  | nil => exact absurd h (by simp [answer?])
  | cons event journal ih =>
    -- only a reply that was read can be the answer
    have earlier : answer? id journal = some e → ∃ before, Answers (event :: journal) id e before := by
      intro h
      obtain ⟨before, ⟨session, received⟩, reply, slot⟩ := ih h
      exact ⟨before, ⟨session, received.trans (List.suffix_cons _ _)⟩, reply, slot⟩
    cases event with
    | received session e' =>
      rw [answer?] at h
      split at h
      · rename_i mine
        obtain rfl := Option.some.inj h
        exact ⟨journal, ⟨session, List.suffix_rfl⟩, mine.1, mine.2⟩
      · exact earlier h
    | _ => exact earlier h

end Journal

end Gateway

end Switchboard
