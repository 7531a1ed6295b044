import Switchboard.Proofs.Closing
import Switchboard.Proofs.Replies
import Switchboard.Proofs.Reporting
import Switchboard.Proofs.Stall

/-!
# Graceful restarts

A worker that is about to restart says so in a frame. Its connection leaves the registry then, if it
still owned its node, and puts a close marker on the queue of the node (`Withdraws`). The session goes
on: it hands over replies (`Spent.replies`) and writes what was on the queue when it left, and what
dispatches that had started by then still put there, unless an older session of the queue is stalled in a
frame (`Drains`). Nothing else gets on the queue any more (`sealed_of_changes`).

Main results: `graceful_restart`, `exists_undrained`.
-/

set_option autoImplicit false

namespace Switchboard.Gateway

/-- What the closing actions do for a connection that owns its node: the node goes, and a close marker
is put behind what is on its queue, if there is room. -/
structure Withdraws (g g' : Gateway) (id : SessionId) (service : Service) : Prop where
  /-- Nobody registered on the queue afterwards. -/
  latest : ∃ first, tenant? service.queue g.journal = some (id, first)
  gone : g'.registry.nodes.get? service.identity.node = none
  others : ∀ {node}, node ≠ service.identity.node →
    g'.registry.nodes.get? node = g.registry.nodes.get? node
  members : ∀ group node, node ∈ g'.registry.members group ↔
    node ∈ g.registry.members group ∧ node ≠ service.identity.node
  marked : (g.registry.queue service.queue).hasRoom g.registry.capacity = true →
    g'.registry.queue service.queue =
        { g.registry.queue service.queue with
          frames := (g.registry.queue service.queue).frames ++ [.keepalive] } ∧
      enqueued service.queue g'.journal =
        enqueued service.queue g.journal ++ [(.keepalive, .closing id)]
  full : (g.registry.queue service.queue).hasRoom g.registry.capacity = false →
    g'.registry.queue service.queue = g.registry.queue service.queue ∧
      enqueued service.queue g'.journal = enqueued service.queue g.journal
  queues : ∀ {queue}, queue ≠ service.queue →
    g'.registry.queue queue = g.registry.queue queue ∧
      enqueued queue g'.journal = enqueued queue g.journal

/-- The gateway with a session as if it had not closed. -/
def reopened (g : Gateway) (id : SessionId) : Gateway :=
  g.onStream id fun s =>
    match s.phase with
    | .serving service => { s with phase := .serving { service with closed := false } }
    | _ => s

/-- What holds of a session from its closing actions on. -/
structure Spent (g : Gateway) (id : SessionId) : Prop where
  /-- It does them no more than once. -/
  once : closings id g.journal = 1
  /-- It leaves registered nodes and their queues alone, as far as its sender was not overtaken. -/
  spares : ∀ {m g'}, m ∈ sessionMoves id → g.move? m = some g' → Spares g g' id
  /-- Its close marker goes on no other stream, but on that of a session which looked for a takeover
  before this one registered, and took nothing from the queue since. -/
  marker : ∀ {other c}, c ∈ carried other g.journal →
    nextUp? c.queue c.before = some (c.frame, .closing id) →
    other = id ∨ ∃ earlier first, lastLook? other c.before = some earlier ∧
      tenant? c.queue earlier = some (other, first) ∧
      dequeued c.queue c.before = dequeued c.queue earlier ∧
      ∀ service, .registered id service ∉ earlier
  /-- It handles a frame that is no control signal like a session that has not closed: a reply goes to
  the dispatch that has the slot, which can return it. -/
  replies : ∀ {t service e inbound}, g.sessions[id]? = some t → t.phase = .serving service →
    Reads g.settings.sessionLimit t service e inbound → e.command.isControl = false →
    g.isHeldUp (.receive id) = false →
    ∃ g', g.move? (.receive id) = some g' ∧
      (g.reopened id).move? (.receive id) = some (g'.reopened id) ∧
      g'.replies = (g.replies.deliver e).2 ∧ g'.dispatches = g.dispatches ∧
      ∀ {d : DispatchId} {x claim}, g.dispatches[d]? = some x → x.claim = some claim →
        e.correlationId ≠ noReply → g.replies.waiter? e.correlationId = some claim.ticket →
        g'.look x = .reply e ∧
          (x.progress = .awaiting → ∃ certain final, g'.move? (.collect d) = some certain ∧
            certain.move? (.conclude d) = some final ∧
            final.dispatches[d]? = some { x with progress := .done (.ok e) })

/-- How a session goes on with a queue that was left behind and on which it registered last. -/
structure Drains (g later : Gateway) (id : SessionId) (queue : QueueId) : Prop where
  /-- What comes on the queue are requests of dispatches that had started. What was on the queue is taken
  first, and then what came, in order. The session alone takes from it, except that another one which
  reached for the queue already may take the first envelope. -/
  order : ∃ arrivals news,
    enqueued queue later.journal = enqueued queue g.journal ++ arrivals ∧
      (∀ {e origin}, (e, origin) ∈ arrivals → ∃ d < g.dispatches.length, origin = .dispatch d) ∧
      dequeued queue later.journal = dequeued queue g.journal ++ news ∧
      (∀ {i other e}, news[i]? = some (other, e) → other = id ∨
        i = 0 ∧ ∃ service, g.service? other = some service ∧ service.queue = queue ∧
          service.sender = .reaching) ∧
      takenBy id later.journal =
        takenBy id g.journal ++ (news.filter fun taken => taken.1 = id).map (·.2) ∧
      (g.registry.queue queue).frames ++ arrivals.map (·.1) =
        news.map (·.2) ++ (later.registry.queue queue).frames
  /-- What it takes it writes, frame by frame. -/
  aligned : Aligned later id
  /-- Where nothing moves and something is left on the queue, it waits for the session's own stream to
  take bytes exactly if no other session of the queue is stalled in a frame. -/
  drained : Quiescent later → ∀ {service}, later.service? id = some service →
    (later.registry.queue queue).frames ≠ [] →
    (Stalled later id queue ↔ ¬ ∃ other ≠ id, Stalled later other queue)

/-! ## Reading a frame -/

section Reading

variable {s : Settings} {g : Gateway} {id : SessionId} {t : Session} {service : Service}
  {e : Envelope} {inbound : List UInt8}

/-- A session that has a frame to read reads it next. -/
theorem receive_of_reads (here : g.sessions[id]? = some t) (serving : t.phase = .serving service)
    (read : Reads g.settings.sessionLimit t service e inbound) :
    g.receive id = some (g.handle id { t with inbound } { service with first := none } e) := by
  rw [receive, serving?_eq_some.2 ⟨here, serving⟩]
  rcases read with ⟨first, rfl⟩ | ⟨first, next⟩
  · simp [first]
  · have same : { service with first := none } = service := by
      rw [← first]
    simp [first, next, same]

/-- A frame that is no control signal is offered to the table of slots. -/
theorem handle_of_plain (g : Gateway) (id : SessionId) (t : Session) (service : Service)
    (plain : e.command.isControl = false) :
    (g.handle id t service e).sessions = g.sessions.set id { t with phase := .serving service } ∧
      (g.handle id t service e).replies = (g.replies.deliver e).2 ∧
      (g.handle id t service e).dispatches = g.dispatches ∧
      (g.handle id t service e).reports = g.reports := by
  rcases handle_cases g id t service e with
    ⟨control, -⟩ | ⟨ticket, replies, -, handed, eq⟩ | ⟨replies, -, missed, eq⟩ |
      ⟨replies, -, unsolicited, eq⟩
  · exact absurd (plain.symm.trans control) (by simp)
  · rw [eq, handed]
    exact ⟨rfl, rfl, rfl, rfl⟩
  · rw [eq, missed, Correlation.Table.deliver_eq_self missed (by simp)]
    exact ⟨rfl, rfl, rfl, rfl⟩
  · rw [eq, unsolicited, Correlation.Table.deliver_eq_self unsolicited (by simp)]
    exact ⟨rfl, rfl, rfl, rfl⟩

theorem reopened_eq (here : g.sessions[id]? = some t) (serving : t.phase = .serving service) :
    g.reopened id =
      g.setSession id { t with phase := .serving { service with closed := false } } := by
  rw [reopened, onStream, here]
  dsimp only
  rw [serving]

/-- Only a gauge to be set and an envelope to be taken hold up the reading of a session. -/
theorem isHeldUp_receive (g : Gateway) (id : SessionId) :
    g.isHeldUp (.receive id) = (g.isReporting (.session id) || g.isReaching id) := by
  simp [isHeldUp, Move.reporter?]

theorem isHeldUp_reopened (here : g.sessions[id]? = some t) (serving : t.phase = .serving service) :
    (g.reopened id).isHeldUp (.receive id) = g.isHeldUp (.receive id) := by
  obtain ⟨lt, -⟩ := List.getElem?_eq_some_iff.1 here
  have serves := serving?_eq_some.2 ⟨here, serving⟩
  have serves' : (g.reopened id).serving? id = some
      ({ t with phase := .serving { service with closed := false } },
        { service with closed := false }) := by
    rw [reopened_eq here serving]
    exact serving?_eq_some.2 ⟨List.getElem?_set_self lt, rfl⟩
  rw [isHeldUp_receive, isHeldUp_receive, isReaching, isReaching, serves, serves',
    reopened_eq here serving]
  rfl

/-- What a frame that is no control signal does has nothing to do with the closing actions. -/
theorem handle_reopened (lt : id < g.sessions.length) (plain : e.command.isControl = false)
    (u : Session) (phase : Phase) :
    (g.setSession id u).handle id { t with phase } { service with closed := false } e =
      (g.handle id t service e).reopened id := by
  have after : (g.handle id t service e).sessions[id]? =
      some { t with phase := .serving service } := by
    rw [(handle_of_plain g id t service plain).1, List.getElem?_set_self lt]
  rw [reopened_eq after rfl, handle, handle]
  simp only [plain, Bool.false_eq_true, if_false, setSession, record, List.set_set]
  cases handed : g.replies.deliver e with
  | mk delivery replies => cases delivery <;> simp [count, List.set_set]

theorem receive_reopened (here : g.sessions[id]? = some t) (serving : t.phase = .serving service)
    (read : Reads g.settings.sessionLimit t service e inbound)
    (plain : e.command.isControl = false) :
    (g.reopened id).receive id =
      some ((g.handle id { t with inbound } { service with first := none } e).reopened id) := by
  obtain ⟨lt, -⟩ := List.getElem?_eq_some_iff.1 here
  rw [reopened_eq here serving, ← handle_reopened lt plain
    { t with phase := .serving { service with closed := false } }
    (.serving { service with closed := false })]
  exact receive_of_reads (t := { t with phase := .serving { service with closed := false } })
    (List.getElem?_set_self lt) rfl read

end Reading

/-! ## Leaving at once -/

section Leaving

variable {s : Settings} {g g' : Gateway} {id : SessionId} {t : Session} {service : Service}

theorem offer_cases (g : Gateway) (queue : QueueId) (e : Envelope) (origin : Origin) :
    (g.registry.queue queue).hasRoom g.registry.capacity = true ∧
        (g.offer queue e origin).2 =
          { g with
            registry := g.registry.setQueue queue
              { g.registry.queue queue with frames := (g.registry.queue queue).frames ++ [e] }
            journal := .queued queue e origin :: g.journal } ∨
      (g.registry.queue queue).hasRoom g.registry.capacity = false ∧
        (g.offer queue e origin).2 = g := by
  rw [offer_eq, Queue.push?]
  cases (g.registry.queue queue).hasRoom g.registry.capacity with
  | true => exact Or.inl ⟨rfl, rfl⟩
  | false => exact Or.inr ⟨rfl, rfl⟩

/-- The closing actions of a connection that owns its node. -/
theorem deregister_of_owner (tenancy : Tenancy g) (serves : g.service? id = some service)
    (owner : g.registry.key? service.identity.node = some service.key) :
    g.deregister id service =
      (({ g with
          registry := g.registry.without service.identity.group service.identity.node
          journal := .closed id true :: g.journal } : Gateway).offer
        service.queue .keepalive (.closing id)).2.report (.session id) := by
  obtain ⟨registered, -, -⟩ := tenancy.entry_of_key? serves owner
  rcases Registry.deregister_cases g.registry service.identity.group service.identity.node
    service.key with ⟨entry, -, -, -, eq⟩ | ⟨stale, -⟩
  · rw [deregister, eq]
    rfl
  · exact absurd ⟨rfl, rfl⟩ (stale _ registered)

/-- The closing actions of a connection that does not own its node leave the registry alone. -/
theorem deregister_of_other (t : Tenancy g) (serves : g.service? id = some service)
    (other : g.registry.key? service.identity.node ≠ some service.key) :
    ∃ metrics reports, g.deregister id service =
      { g with journal := .closed id false :: g.journal, metrics, reports } := by
  rcases Registry.deregister_cases g.registry service.identity.group service.identity.node
    service.key with ⟨entry, -, -, -, eq⟩ | ⟨-, eq⟩
  · exact absurd ((t.removed_iff serves).1 ⟨_, congrArg Prod.fst eq⟩) other
  · rw [deregister, eq]
    exact ⟨_, _, rfl⟩

theorem withdraws_deregister (tenancy : Tenancy g) (serves : g.service? id = some service)
    (owner : g.registry.key? service.identity.node = some service.key) :
    Withdraws g (g.deregister id service) id service := by
  obtain ⟨registered, -, latest⟩ := tenancy.entry_of_key? serves owner
  have coherent : (g.registry.without service.identity.group service.identity.node).Coherent :=
    Registry.coherent_without tenancy.coherent registered rfl
  have eq := deregister_of_owner tenancy serves owner
  set left := g.registry.without service.identity.group service.identity.node
  have entries : ∀ node, left.nodes.get? node =
      if service.identity.node = node then none else g.registry.nodes.get? node :=
    Registry.get?_without _ _ _
  have gone : left.nodes.get? service.identity.node = none := by rw [entries, if_pos rfl]
  have others : ∀ {node}, node ≠ service.identity.node →
      left.nodes.get? node = g.registry.nodes.get? node := by
    intro node other
    rw [entries, if_neg (Ne.symm other)]
  have members : ∀ group node, node ∈ left.members group ↔
      node ∈ g.registry.members group ∧ node ≠ service.identity.node := by
    intro group node
    rw [Registry.mem_members_iff coherent, Registry.mem_members_iff tenancy.coherent, entries]
    by_cases same : service.identity.node = node
    · simp [same]
    · simp [same, Ne.symm same]
  rw [eq]
  rcases offer_cases { g with registry := left, journal := .closed id true :: g.journal }
    service.queue .keepalive (.closing id) with ⟨room, eq⟩ | ⟨full, eq⟩
  · have queues := queue_setQueue_of_lt (r := left) (tenancy.queueMade serves)
    rw [eq]
    exact {
      latest, gone, others, members
      marked := fun _ => ⟨(queues _ _).trans (if_pos rfl), if_pos rfl⟩
      full := fun full => absurd (room.symm.trans full) (by simp)
      queues := fun other =>
        ⟨(queues _ _).trans (if_neg (Ne.symm other)), if_neg (Ne.symm other)⟩ }
  · rw [eq]
    exact {
      latest, gone, others, members
      marked := fun room => absurd (room.symm.trans full) (by simp)
      full := fun _ => ⟨rfl, rfl⟩
      queues := fun _ => ⟨rfl, rfl⟩ }

theorem deregister_rest (g : Gateway) (id : SessionId) (service : Service) :
    (g.deregister id service).replies = g.replies ∧
      (g.deregister id service).dispatches = g.dispatches ∧
      ∀ queue, tenant? queue (g.deregister id service).journal = tenant? queue g.journal := by
  rw [deregister]
  cases g.registry.deregister service.identity.group service.identity.node service.key with
  | mk outcome registry =>
    cases outcome with
    | removed members =>
      simp only [report, offer_eq]
      split <;> exact ⟨rfl, rfl, fun _ => rfl⟩
    | stale members => exact ⟨rfl, rfl, fun _ => rfl⟩

/-- Where the closing actions of an owner left no marker, there was no room for it. -/
theorem full_of_deregister (tenancy : Tenancy g) (serves : g.service? id = some service)
    (owner : g.registry.key? service.identity.node = some service.key) {before : List Event}
    (now : (g.deregister id service).journal = .closed id true :: before) :
    ((g.deregister id service).registry.queue service.queue).hasRoom
      (g.deregister id service).registry.capacity = false := by
  have eq := deregister_of_owner tenancy serves owner
  rw [eq] at now ⊢
  rcases offer_cases { g with
    registry := g.registry.without service.identity.group service.identity.node
    journal := .closed id true :: g.journal } service.queue .keepalive (.closing id) with
    ⟨-, eq⟩ | ⟨full, eq⟩
  · rw [eq] at now
    exact absurd (List.cons.inj now).1 (by simp)
  · rw [eq]
    exact full

end Leaving

/-! ## Queues on which nothing new is put -/

/-- A queue was left behind by the session that registered last on it, which has put its close marker
there if it could, and only dispatches before the `n`th may still put their requests on it. -/
structure Sealed (n : Nat) (id : SessionId) (queue : QueueId) (g : Gateway) : Prop
    extends Abandoned g queue where
  latest : ∃ first, tenant? queue g.journal = some (id, first)
  early : ∀ {d : DispatchId} {x}, g.dispatches[d]? = some x → queue ∈ x.progress.targets → d < n
  past : ∀ {before}, g.journal = .closed id true :: before →
    (g.registry.queue queue).hasRoom g.registry.capacity = false

section Sealed

variable {s : Settings} {g g' later : Gateway} {n : Nat} {id : SessionId} {queue : QueueId}

/-- Where nothing new was recorded, the queues hold what they held. -/
theorem frames_of_journal (l : Ledger g) (l' : Ledger g') (same : g'.journal = g.journal) :
    (g'.registry.queue queue).frames = (g.registry.queue queue).frames := by
  have balance := l'.balance queue
  rw [same, l.balance queue] at balance
  exact (List.append_cancel_left balance).symm

theorem Sealed.of_due (h : Sealed n id queue g) (attained : Attained s g) {origin : Origin}
    (due : Due g queue origin) :
    (g.registry.queue queue).hasRoom g.registry.capacity = false := by
  cases due with
  | heartbeat _ owned => exact absurd (owned.symm.trans h.free) (by simp)
  | closing here serving mine now =>
    -- it is the session that registered last
    obtain ⟨-, first, latest⟩ :=
      (marked_of_attained attained).of_due attained (.closing here serving mine now)
    obtain ⟨first', latest'⟩ := h.latest
    obtain ⟨rfl, -⟩ := Prod.mk.inj (Option.some.inj (latest'.symm.trans latest))
    exact h.past now

/-- On a sealed queue every change puts only requests of early dispatches, and it stays sealed. -/
theorem sealed_of_change (h : Sealed n id queue g) (attained : Attained s g) (c : Change g g') :
    Sealed n id queue g' ∧ ∃ arrivals,
      enqueued queue g'.journal = enqueued queue g.journal ++ arrivals ∧
        ∀ {e origin}, (e, origin) ∈ arrivals → ∃ d < n, origin = .dispatch d := by
  have t := tenancy_of_attained attained
  have l := ledger_of_attained attained
  obtain ⟨first, latest⟩ := h.latest
  obtain ⟨a, tenants, -⟩ := abandoned_of_change t h.toAbandoned c
  refine ⟨⟨a, ⟨first, tenants.trans latest⟩, fun {d x} here mem => ?_, fun {before} now => ?_⟩, ?_⟩
  · -- who starts now finds the queue in no registered node's hands
    rcases targets_of_change c here mem with ⟨x', here', -, mem'⟩ |
      ⟨left, -, -, seen, ⟨candidate, among, same⟩, -⟩
    · exact h.early here' mem'
    · obtain ⟨entry, registered, -, mine⟩ :=
        Registry.entry_of_mem_candidates t.coherent seen among
      exact absurd (mine.trans same) (h.queue_ne t registered)
  · rcases closed_of_change c now with same | ⟨service, members, serves, removed, -, -⟩
    · have l' := ledger_of_change t l c
      rw [Queue.hasRoom, frames_of_journal l l' same, capacity_of_change c]
      exact h.past (same.symm.trans now)
    · -- a session that owns its node now did not leave this queue behind before
      obtain ⟨registered, -, -⟩ :=
        t.entry_of_key? serves ((t.removed_iff serves).1 ⟨members, removed⟩)
      exact absurd (queue_of_tenant_service attained serves latest) (h.queue_ne t registered)
  · obtain ⟨arrivals, all, each⟩ := arrivals_of_change l c queue
    refine ⟨arrivals, all, fun {e origin} mem => ?_⟩
    cases each mem with
    | request here target => exact ⟨_, h.early here target, rfl⟩
    | keepalive due room => exact absurd (room.symm.trans (h.of_due attained due)) (by simp)

theorem sealed_of_changes (h : Sealed n id queue g) (attained : Attained s g)
    (run : Changes g later) :
    Sealed n id queue later ∧ ∃ arrivals,
      enqueued queue later.journal = enqueued queue g.journal ++ arrivals ∧
        ∀ {e origin}, (e, origin) ∈ arrivals → ∃ d < n, origin = .dispatch d := by
  induction run with
  | refl => exact ⟨h, [], (List.append_nil _).symm, fun mem => absurd mem (by simp)⟩
  | tail before c ih =>
    obtain ⟨h', arrivals, all, each⟩ := ih
    obtain ⟨h'', more, all', each'⟩ := sealed_of_change h' (attained.trans before) c
    refine ⟨h'', arrivals ++ more, by rw [all', all, List.append_assoc], fun {e origin} mem => ?_⟩
    exact (List.mem_append.1 mem).elim each each'

/-- What a session takes after it registered is what it takes from the queue on which it did. -/
theorem takenBy_of_dequeued (attained : Attained s g) (run : Changes g later) {first : Service}
    (latest : tenant? queue g.journal = some (id, first)) {news : List (SessionId × Envelope)}
    (taken : dequeued queue later.journal = dequeued queue g.journal ++ news) :
    takenBy id later.journal =
      takenBy id g.journal ++ (news.filter fun taken => taken.1 = id).map (·.2) := by
  have listed := registered_of_tenant g.journal latest
  have mine := queue_of_tenant g.journal latest
  have now : ∀ {queue' e before}, .taken id queue' e :: before <:+ g.journal → queue' = queue :=
    fun taken => (queue_of_taken attained listed taken).trans mine
  have then' : ∀ {queue' e before}, .taken id queue' e :: before <:+ later.journal →
      queue' = queue :=
    fun taken => (queue_of_taken (attained.trans run)
      ((journal_of_changes run).subset listed) taken).trans mine
  rw [takenBy_eq_dequeued now, takenBy_eq_dequeued then', taken, List.filter_append,
    List.map_append]

theorem drains_of_sealed (reached : Reachable s g) (run : Leads g later)
    (h : Sealed g.dispatches.length id queue g) : Drains g later id queue := by
  have attained := attained_of_reachable reached
  have changes := changes_of_leads run
  have attained' := attained.trans changes
  obtain ⟨first, latest⟩ := h.latest
  obtain ⟨h', arrivals, came, each⟩ := sealed_of_changes h attained changes
  obtain ⟨news, taken, takers⟩ := dequeued_of_abandoned attained h.toAbandoned changes latest
  refine ⟨⟨arrivals, news, came, each, taken, fun {i other e} here => ?_,
      takenBy_of_dequeued attained changes latest taken, ?_⟩,
    aligned_of_attained attained' id, fun quiet {service} serves left => ?_⟩
  · obtain ⟨service, serves, mine, own | ⟨first, reaching⟩⟩ := takers here
    · exact Or.inl own
    · exact Or.inr ⟨first, service, serves, mine, reaching⟩
  · -- what was accepted was taken or is on the queue, before and after
    have before := (ledger_of_attained attained).balance queue
    have after := (ledger_of_attained attained').balance queue
    rw [came, List.map_append, before, taken, List.map_append, List.append_assoc,
      List.append_assoc] at after
    exact List.append_cancel_left after
  · obtain ⟨first', latest'⟩ := h'.latest
    obtain rfl := queue_of_tenant_service attained' serves latest'
    exact quiet.stalled_iff (reachable_of_leads reached run) serves latest' left

end Sealed

/-! ## What a session does from then on -/

section Spent

variable {s : Settings} {g g' : Gateway} {id : SessionId} {e : Envelope}

/-- A dispatch whose slot is open has no reply yet, so the frame that comes for it is its reply. -/
theorem look_of_deliver (attained : Attained s g) (replies : g'.replies = (g.replies.deliver e).2)
    {d : DispatchId} {x : Dispatch} (there : g.dispatches[d]? = some x)
    {claim : Correlation.Claim} (claimed : x.claim = some claim) (stamped : e.correlationId ≠ noReply)
    (waits : g.replies.waiter? e.correlationId = some claim.ticket) : g'.look x = .reply e := by
  have posted := posted_of_attained attained
  have delivered := Correlation.Table.deliver_of_waiter? stamped waits
  have unanswered : g.replies.replies.lookup claim.ticket = none := by
    obtain ⟨d', slot, mine⟩ := Option.bind_eq_some_iff.1 ((posted.slots _).symm.trans waits)
    obtain ⟨claim', claimed', same⟩ := Option.map_eq_some_iff.1 mine
    obtain rfl := posted.apart claimed' ((claim?_of_here there).trans claimed) same
    obtain ⟨none, x', there', live, -⟩ := posted.holds slot
    obtain rfl := Option.some.inj (there.symm.trans there')
    exact ((posted.known there).handed live claimed).trans none
  rw [look, claimed]
  refine Correlation.Table.look_eq_reply.2 ?_
  rw [replies, delivered, Correlation.Table.lookup_deliver delivered, unanswered, if_pos rfl]
  rfl

/-- A dispatch that waits for its reply returns it. -/
theorem collect_of_reply {d : DispatchId} {x : Dispatch} (there : g.dispatches[d]? = some x)
    (free : g.isReporting (.dispatch d) = false) (waits : x.progress = .awaiting)
    (reply : g.look x = .reply e) :
    ∃ certain final, g.move? (.collect d) = some certain ∧ certain.move? (.conclude d) = some final ∧
      final.dispatches[d]? = some { x with progress := .done (.ok e) } := by
  obtain ⟨lt, -⟩ := List.getElem?_eq_some_iff.1 there
  have decided : (g.resolve d x (.ok e)).dispatches[d]? =
      some { x with progress := .resolved (.ok e) } := List.getElem?_set_self lt
  refine ⟨g.resolve d x (.ok e), (g.resolve d x (.ok e)).afterConcluding d
      { x with progress := .resolved (.ok e) } (.ok e),
    move?_eq_some.2 ⟨free, ?_⟩, move?_eq_some.2 ⟨free, ?_⟩, ?_⟩
  · show g.collect d = _
    rw [collect, there]
    simp [waits, reply]
  · show Gateway.conclude _ d = _
    rw [conclude, decided]
    rfl
  · exact List.getElem?_set_self (List.getElem?_eq_some_iff.1 decided).1

theorem spent_of_closed (reached : Reachable s g) {current : Bool}
    (closed : .closed id current ∈ g.journal) : Spent g id where
  once := Nat.le_antisymm (closings_le_one (attained_of_reachable reached) id)
    (closings_pos_iff.2 ⟨current, closed⟩)
  spares := spares_of_move (attained_of_reachable reached) closed
  marker {other c} mem next :=
    taker_of_marker (attained_of_reachable reached) ((mem_carried_iff g.journal).1 ⟨c.bytes, mem⟩)
      next
  replies {t service e inbound} here serving read plain free := by
    obtain ⟨-, replies, dispatches, reports⟩ :=
      handle_of_plain g id { t with inbound } { service with first := none } plain
    refine ⟨_, move?_eq_some.2 ⟨free, receive_of_reads here serving read⟩,
      move?_eq_some.2 ⟨(isHeldUp_reopened here serving).trans free,
        receive_reopened here serving read plain⟩,
      replies, dispatches, fun {d x claim} there claimed stamped waits => ?_⟩
    have reply := look_of_deliver (attained_of_reachable reached) replies there claimed stamped waits
    refine ⟨reply, fun awaits => collect_of_reply (by rwa [dispatches]) ?_ awaits reply⟩
    -- a dispatch that waits for its reply has set its gauge
    rw [isReporting, reports]
    exact isReporting_of_waiting reached there (by rw [awaits]; rfl)

end Spent

/-! ## Reading the announcement -/

section Announcement

variable {s : Settings} {g : Gateway} {id : SessionId} {service : Service} {e : Envelope}

theorem Tenancy.received (tenancy : Tenancy g) (id : SessionId) (e : Envelope) :
    Tenancy (g.record (.received id e)) :=
  tenancy.undisturbed
    (.of_services (fun _ => rfl) (.refl _) (Nat.le_refl _) fun _ => rfl)

/-- A session that has closed only takes note of the announcement. -/
theorem handle_of_closed (t : Session) (control : e.command.isControl = true)
    (past : service.closed = true) :
    g.handle id t { service with first := none } e =
      (g.record (.received id e)).setSession id
        { t with phase := .serving { service with first := none, closed := true } } := by
  rw [handle]
  simp only [control, close, past, if_true]

/-- Another one does its closing actions. -/
theorem handle_of_open (t : Session) (control : e.command.isControl = true)
    (fresh : service.closed = false) :
    g.handle id t { service with first := none } e =
      ((g.record (.received id e)).deregister id service).setSession id
        { t with phase := .serving { service with first := none, closed := true } } := by
  rw [handle]
  simp only [control, close, fresh, if_true, Bool.false_eq_true, if_false]
  rfl

/-- In both cases the session goes on, and nothing happens to slots and dispatches. -/
theorem handle_of_control (g : Gateway) (id : SessionId) (t : Session) (service : Service)
    (control : e.command.isControl = true) :
    (g.handle id t { service with first := none } e).sessions = g.sessions.set id
        { t with phase := .serving { service with first := none, closed := true } } ∧
      (g.handle id t { service with first := none } e).replies = g.replies ∧
      (g.handle id t { service with first := none } e).dispatches = g.dispatches ∧
      ∀ queue, tenant? queue (g.handle id t { service with first := none } e).journal =
        tenant? queue g.journal := by
  rcases Bool.eq_false_or_eq_true service.closed with past | fresh
  · rw [handle_of_closed t control past]
    exact ⟨rfl, rfl, rfl, fun _ => rfl⟩
  · rw [handle_of_open t control fresh]
    obtain ⟨replies, dispatches, tenants⟩ :=
      deregister_rest (g.record (.received id e)) id service
    refine ⟨?_, replies, dispatches, tenants⟩
    rw [setSession, sessions_deregister]
    rfl

theorem service?_of_control (t : Session) (service : Service) (here : id < g.sessions.length)
    (control : e.command.isControl = true) :
    (g.handle id t { service with first := none } e).service? id =
      some { service with first := none, closed := true } := by
  rw [service?, (handle_of_control g id t service control).1, List.getElem?_set_self here]
  rfl

theorem withdraws_of_control (tenancy : Tenancy g) (t : Session)
    (serves : g.service? id = some service)
    (owner : g.registry.key? service.identity.node = some service.key)
    (control : e.command.isControl = true) :
    Withdraws g (g.handle id t { service with first := none } e) id service := by
  obtain ⟨-, fresh, -⟩ := tenancy.entry_of_key? serves owner
  rw [handle_of_open t control fresh]
  have w := withdraws_deregister (tenancy.received id e) serves owner
  exact ⟨w.latest, w.gone, w.others, w.members, w.marked, w.full, w.queues⟩

/-- A session that does not own its node leaves registry and queues alone. -/
theorem handle_of_other (tenancy : Tenancy g) (t : Session) (serves : g.service? id = some service)
    (other : g.registry.key? service.identity.node ≠ some service.key)
    (control : e.command.isControl = true) :
    (g.handle id t { service with first := none } e).registry = g.registry ∧
      (∀ queue, enqueued queue (g.handle id t { service with first := none } e).journal =
        enqueued queue g.journal) ∧
      ∀ before, (g.handle id t { service with first := none } e).journal ≠
        .closed id true :: before := by
  rcases Bool.eq_false_or_eq_true service.closed with past | fresh
  · rw [handle_of_closed t control past]
    exact ⟨rfl, fun _ => rfl, fun before same => absurd (List.cons.inj same).1 (by simp)⟩
  · rw [handle_of_open t control fresh]
    obtain ⟨metrics, reports, eq⟩ := deregister_of_other (tenancy.received id e) serves other
    rw [eq]
    exact ⟨rfl, fun _ => rfl, fun before same => absurd (List.cons.inj same).1 (by simp)⟩

/-- After the announcement the queue on which the session registered last is sealed. -/
theorem sealed_of_control (attained : Attained s g) (t : Session) (here : id < g.sessions.length)
    (serves : g.service? id = some service) {first : Service}
    (latest : tenant? service.queue g.journal = some (id, first))
    (control : e.command.isControl = true)
    (attained' : Attained s (g.handle id t { service with first := none } e)) :
    Sealed (g.handle id t { service with first := none } e).dispatches.length id service.queue
      (g.handle id t { service with first := none } e) := by
  have tenancy := tenancy_of_attained attained
  obtain ⟨-, -, -, tenants⟩ := handle_of_control g id t service control
  have latest' := (tenants service.queue).trans latest
  have a := (tenancy_of_attained attained').abandoned_of_closed
    (service?_of_control t service here control) rfl latest'
  refine ⟨a, ⟨first, latest'⟩, fun here _ => (List.getElem?_eq_some_iff.1 here).1,
    fun {before} now => ?_⟩
  by_cases owner : g.registry.key? service.identity.node = some service.key
  · obtain ⟨-, fresh, -⟩ := tenancy.entry_of_key? serves owner
    rw [handle_of_open t control fresh] at now ⊢
    exact full_of_deregister (tenancy.received id e) serves owner now
  · exact absurd now ((handle_of_other tenancy t serves owner control).2.2 before)

/-- A session owns its node exactly if it registered the node last, goes on and has not closed. -/
theorem key?_eq_iff_incumbent (attained : Attained s g) (serves : g.service? id = some service) :
    g.registry.key? service.identity.node = some service.key ↔
      ∃ first, Incumbent g service.identity.node id first := by
  have owned := owned_of_attained attained
  obtain ⟨mine, listed, seat⟩ := owned.seats serves
  have key : mine.key = service.key := (Service.seat_eq_seat.1 seat).2.1
  rw [key?_eq_some_iff attained]
  constructor
  · rintro ⟨other, first, incumbent, same⟩
    obtain rfl := owned.keysApart (registered_of_registrar? incumbent.latest).1 listed
      (same.trans key.symm)
    exact ⟨first, incumbent⟩
  · rintro ⟨first, incumbent⟩
    obtain rfl := registered_inj attained (registered_of_registrar? incumbent.latest).1 listed
    exact ⟨id, first, incumbent, key⟩

end Announcement

/-- A session reads the announcement of a restart, as its first frame or later. It goes on as a session
that has closed, and nothing happens to slots and dispatches. If it owned its node, having registered it
last and not closed before, it withdraws; otherwise registry and queues stay as they are. From then on
it has done its closing actions once, whatever follows, and leaves registered nodes and their queues
alone, as far as its sender was not overtaken; its close marker goes on no stream but its own and that of
a session which it overtook, and it handles replies as before. If nobody registered on its queue after
it, it drains the queue, on which only dispatches that had started still put their requests, unless an
older session is stalled in a frame. -/
theorem graceful_restart {s : Settings} {g : Gateway} (reached : Reachable s g) {id : SessionId}
    {t : Session} {service : Service} (here : g.sessions[id]? = some t)
    (serving : t.phase = .serving service) {e : Envelope} {inbound : List UInt8}
    (read : Reads g.settings.sessionLimit t service e inbound)
    (restart : e.command = .gracefulRestart) (free : g.isHeldUp (.receive id) = false) :
    ∃ g', g.move? (.receive id) = some g' ∧
      g'.sessions = g.sessions.set id
        { t with inbound, phase := .serving { service with first := none, closed := true } } ∧
      g'.replies = g.replies ∧ g'.dispatches = g.dispatches ∧
      (g.registry.key? service.identity.node = some service.key ↔
        ∃ first, Incumbent g service.identity.node id first) ∧
      (g.registry.key? service.identity.node = some service.key → Withdraws g g' id service) ∧
      (g.registry.key? service.identity.node ≠ some service.key →
        g'.registry = g.registry ∧
          ∀ queue, enqueued queue g'.journal = enqueued queue g.journal) ∧
      ∀ {later}, Leads g' later → Spent later id ∧
        ((∃ first, tenant? service.queue g.journal = some (id, first)) →
          Drains g' later id service.queue) := by
  have attained := attained_of_reachable reached
  have tenancy := tenancy_of_attained attained
  have serves : g.service? id = some service := service?_eq_some.2 ⟨t, here, serving⟩
  have control : e.command.isControl = true := by rw [restart]; rfl
  obtain ⟨lt, -⟩ := List.getElem?_eq_some_iff.1 here
  have step : g.move? (.receive id) = some _ :=
    move?_eq_some.2 ⟨free, receive_of_reads here serving read⟩
  have reached' := Reachable.move _ reached step
  have attained' := attained_of_reachable reached'
  obtain ⟨sessions, replies, dispatches, -⟩ :=
    handle_of_control g id { t with inbound } service control
  refine ⟨_, step, sessions, replies, dispatches, key?_eq_iff_incumbent attained serves,
    fun owner => withdraws_of_control tenancy _ serves owner control, fun other => ?_,
    fun {later} run => ⟨?_, ?_⟩⟩
  · obtain ⟨registry, accepted, -⟩ :=
      handle_of_other tenancy { t with inbound } serves other control
    exact ⟨registry, accepted⟩
  · -- the journal tells of the closing actions, and what is in it stays
    have serves' := service?_of_control { t with inbound } service lt control
    obtain ⟨current, closed⟩ := ((owned_of_attained attained').closings serves').1 rfl
    exact spent_of_closed (reachable_of_leads reached' run)
      ((journal_of_changes (changes_of_leads run)).subset closed)
  · rintro ⟨first, latest⟩
    exact drains_of_sealed reached' run
      (sealed_of_control attained _ lt serves latest control attained')

/-- A session that serves a node has the announcement of a restart to read. -/
theorem exists_announcement {g : Gateway} {id : SessionId} {node : String} {queue : QueueId}
    (serves : (g.service? id).map (fun p => (p.identity.node, p.queue, p.first)) =
      some (node, queue, none))
    (reads : (g.sessions[id]?).map (fun t =>
      Wire.Frame.next g.settings.sessionLimit t.inbound t.inboundTail) =
      some (.frame { command := .gracefulRestart } [])) :
    ∃ t service, g.sessions[id]? = some t ∧ t.phase = .serving service ∧
      g.service? id = some service ∧ service.identity.node = node ∧ service.queue = queue ∧
      Reads g.settings.sessionLimit t service { command := .gracefulRestart } [] := by
  obtain ⟨service, serves, same⟩ := Option.map_eq_some_iff.1 serves
  obtain ⟨node, queue, first⟩ : service.identity.node = node ∧ service.queue = queue ∧
      service.first = none := by simpa using same
  obtain ⟨t, here, serving⟩ := service?_eq_some.1 serves
  obtain ⟨t', here', next⟩ := Option.map_eq_some_iff.1 reads
  obtain rfl := Option.some.inj (here.symm.trans here')
  exact ⟨t, service, here, serving, serves, node, queue, Or.inr ⟨first, next⟩⟩

/-- A worker has a request on its queue and announces a restart. -/
def restartStart : Gateway :=
  play sample (join 0 100 keepaliveFrame ++ [.move (.receive 0)] ++
    ask 0 "default_group" { command := .getItem } 1000 ++
    [.move (.place 0 0), .input (.send 0 restartFrame)])

/-- The worker connects again, and the old connection writes what is on its queue, announces its restart
again, and ends. -/
def restartRun : List Action :=
  reported (.session 0) ++ join 1 100 keepaliveFrame ++ fetch 0 ++ [.move (.write 0)] ++ fetch 0 ++
    [.move (.write 0), .input (.send 0 restartFrame), .move (.receive 0), .input (.closeWrite 0),
      .move (.receive 0)]

/-- The gateway after the announcement was read and `restartRun`. -/
def restartEnd : Gateway :=
  (.move (.receive 0) :: restartRun).foldl perform restartStart

/-- The old connection drains its queue and does its closing actions once, and the new one has the
node. -/
theorem graceful_restart_reconnect :
    Reachable sample restartStart ∧
      ∃ g', restartStart.move? (.receive 0) = some g' ∧ Leads g' restartEnd ∧
        g'.registry.nodes.get? "default_node" = none ∧ Drains g' restartEnd 0 0 ∧
        closings 0 restartEnd.journal = 1 ∧
        restartEnd.registry.key? "default_node" = some "default_conn-2" ∧
        (takenBy 0 restartEnd.journal).map (·.command) = [.getItem, .pong] := by
  have reached : Reachable sample restartStart := reachable_play _ _
  have free : restartStart.isHeldUp (.receive 0) = false := by decide +kernel
  have serves : (restartStart.service? 0).map (fun p => (p.identity.node, p.queue, p.first)) =
      some ("default_node", 0, none) := by
    decide +kernel
  have owner : restartStart.registry.key? "default_node" =
      (restartStart.service? 0).map (·.key) := by
    decide +kernel
  have reads : (restartStart.sessions[0]?).map (fun t =>
      Wire.Frame.next restartStart.settings.sessionLimit t.inbound t.inboundTail) =
      some (.frame { command := .gracefulRestart } []) := by
    decide +kernel
  have latest : (tenant? 0 restartStart.journal).map (·.1) = some 0 := by decide +kernel
  obtain ⟨t, service, here, serving, serves, node, queue, read⟩ := exists_announcement serves reads
  obtain ⟨⟨tenant, registered⟩, latest, rfl⟩ := Option.map_eq_some_iff.1 latest
  obtain ⟨g', step, -, -, -, -, withdraws, -, later⟩ :=
    graceful_restart reached here serving read rfl free
  have run : Leads g' restartEnd := leads_foldl_cons (a := .move (.receive 0)) step restartRun
  rw [serves, Option.map_some, ← node] at owner
  have latest : tenant? service.queue restartStart.journal = some (0, registered) := by
    rw [queue]
    exact latest
  obtain ⟨spent, drains⟩ := later run
  have drains := drains ⟨registered, latest⟩
  rw [queue] at drains
  refine ⟨reached, g', step, run, ?_, drains, spent.once, by decide +kernel, by decide +kernel⟩
  rw [← node]
  exact (withdraws owner).gone

/-- The connection that has the node announces its restart while an older one is stalled in a frame. -/
def stalledRestart : Gateway :=
  play sample (stallRun ++ [.input (.send 1 restartFrame)])

/-- The gateway after it has read the announcement. -/
def stalledRestartEnd : Gateway :=
  (.move (.receive 1) :: reported (.session 1)).foldl perform stalledRestart

/-- The sender of a connection looks for a takeover. Then the worker connects again and announces a
restart, and the first sender takes the envelope for which it reaches. -/
def strayRun : List Action :=
  join 0 100 keepaliveFrame ++ [.move (.receive 0), .input (.rouse 0)] ++
    join 1 100 keepaliveFrame ++
    [.move (.receive 1), .input (.send 1 restartFrame), .move (.receive 1), .move (.take 0)]

theorem exists_carried_strayRun :
    ∃ c ∈ carried 0 (play sample strayRun).journal,
      nextUp? c.queue c.before = some (c.frame, .closing 1) :=
  exists_carried_of_latest (by decide +kernel)

/-- Where nothing moves any more the owner is not stalled, and something is left on its queue. -/
theorem exists_left_stalledRestart :
    ∃ (t : Session) (service : Service) (e : Envelope) (inbound : List UInt8) (g' : Gateway),
      stalledRestart.sessions[1]? = some t ∧ t.phase = .serving service ∧
      Reads stalledRestart.settings.sessionLimit t service e inbound ∧
      e.command = .gracefulRestart ∧
      stalledRestart.registry.key? service.identity.node = some service.key ∧
      stalledRestart.move? (.receive 1) = some g' ∧ Leads g' stalledRestartEnd ∧
      Quiescent stalledRestartEnd ∧ stalledRestartEnd.service? 1 ≠ none ∧
      (stalledRestartEnd.registry.queue service.queue).frames ≠ [] ∧
      ¬ Stalled stalledRestartEnd 1 service.queue := by
  have serves : (stalledRestart.service? 1).map (fun p => (p.identity.node, p.queue, p.first)) =
      some ("default_node", 0, none) := by
    decide +kernel
  have owner : stalledRestart.registry.key? "default_node" =
      (stalledRestart.service? 1).map (·.key) := by
    decide +kernel
  have reads : (stalledRestart.sessions[1]?).map (fun t =>
      Wire.Frame.next stalledRestart.settings.sessionLimit t.inbound t.inboundTail) =
      some (.frame { command := .gracefulRestart } []) := by
    decide +kernel
  have step : (stalledRestart.move? (.receive 1)).isSome = true := by decide +kernel
  have quiet : Quiescent stalledRestartEnd := quiescent_iff_advance?.2 (by decide +kernel)
  have serves' : ((stalledRestartEnd.service? 1).map (·.sender)) = some .waiting := by
    decide +kernel
  have left : (stalledRestartEnd.registry.queue 0).frames ≠ [] := by decide +kernel
  obtain ⟨t, service, here, serving, serves, node, queue, read⟩ := exists_announcement serves reads
  rw [serves, Option.map_some, ← node] at owner
  obtain ⟨g', step⟩ := Option.isSome_iff_exists.1 step
  obtain ⟨service', serves', waiting⟩ := Option.map_eq_some_iff.1 serves'
  refine ⟨t, service, _, _, g', here, serving, read, rfl, owner, step,
    leads_foldl_cons (a := .move (.receive 1)) step _, quiet, ?_, queue ▸ left, ?_⟩
  · rw [serves']
    simp
  -- its sender waits for the queue, which the stalled session holds
  · rintro ⟨u, theirs, rest, there, serving', -, writing, -⟩
    obtain rfl := Option.some.inj (serves'.symm.trans (service?_eq_some.2 ⟨u, there, serving'⟩))
    exact absurd (waiting.symm.trans writing) (by simp)

/-- After the announcement of the owner of a node envelopes can stay on its queue although its stream
takes bytes, and a close marker can be taken by another session than the one that put it there. -/
theorem exists_undrained :
    (¬ ∀ {s : Settings} {g : Gateway}, Reachable s g →
      ∀ {id : SessionId} {t : Session} {service : Service} {e : Envelope} {inbound : List UInt8},
        g.sessions[id]? = some t → t.phase = .serving service →
        Reads g.settings.sessionLimit t service e inbound → e.command = .gracefulRestart →
        g.registry.key? service.identity.node = some service.key →
        ∀ {g' later : Gateway}, g.move? (.receive id) = some g' → Leads g' later →
          Quiescent later → later.service? id ≠ none →
          (later.registry.queue service.queue).frames = [] ∨ Stalled later id service.queue) ∧
      ¬ ∀ {s : Settings} {g : Gateway}, Reachable s g → ∀ {id other : SessionId} {c : Carriage},
        c ∈ carried other g.journal → nextUp? c.queue c.before = some (c.frame, .closing id) →
          other = id := by
  constructor
  · intro claim
    obtain ⟨t, service, e, inbound, g', here, serving, read, restart, owner, step, run, quiet, runs,
      left, free⟩ := exists_left_stalledRestart
    have reached : Reachable sample stalledRestart := reachable_play _ _
    rcases claim reached here serving read restart owner step run quiet runs with empty | stalled
    · exact left empty
    · exact free stalled
  · intro claim
    obtain ⟨c, mem, marker⟩ := exists_carried_strayRun
    exact absurd (claim (reachable_play sample strayRun) mem marker) (by simp)

end Switchboard.Gateway
