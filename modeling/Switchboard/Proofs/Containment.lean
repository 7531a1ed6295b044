import Switchboard.Proofs.Closing
import Switchboard.Proofs.Replies
import Switchboard.Proofs.Reporting

/-!
# What a session can do to the others

Whatever a worker sends, and however it ends, the steps of its session reach the rest of the gateway in
few ways (`Contained`). The registry changes only at the node of the session, and after the session
has registered only while it still owns the node. Slots go away only under ids that a frame of the
worker names. Only the queue of the session changes, on which it registered last, at least when it last
looked for a takeover (`Entitled`): the session takes envelopes from it, whoever waits for the room gets
it, and the session itself puts at most one envelope there in its life, its close marker (`markers`).

A step of a session is a core, which does one of these things, with quiet steps around it (`Quiet`).
Each core has a lemma of its own, and the moves are put together from them.

Main results: `contained_of_step`, `steps_contained`.
-/

set_option autoImplicit false

namespace Switchboard

/-- An event that neither registers nor has to do with a queue or a takeover. -/
def Event.isStill : Event → Bool
  | .registered _ _ | .queued _ _ _ | .looked _ | .taken _ _ _ => false
  | _ => true

namespace Gateway

/-- The steps of a session: what its worker and the scheduler do to it, and the moves that the gateway
takes for it. -/
inductive StepOf (id : SessionId) : Action → Prop
  | worker {i : Input} (own : FromWorker id i) : StepOf id (.input i)
  | rouse : StepOf id (.input (.rouse id))
  | tally : StepOf id (.move (.tally (.session id)))
  | publish : StepOf id (.move (.publish (.session id)))
  | move {m : Move} (mem : m ∈ sessionMoves id) : StepOf id (.move m)

/-- A step of a session may change the entry of a node: the session has the node, and if it had it
before the step, the entry had its key. -/
def Edits (id : SessionId) (g g' : Gateway) (node : String) : Prop :=
  ∃ first, .registered id first ∈ g'.journal ∧ first.identity.node = node ∧
    (.registered id first ∈ g.journal → g.registry.key? node = some first.key)

/-- The correlation ids in the frames that a session read. -/
def named (id : SessionId) : List Event → List CorrelationId
  | [] => []
  | .received other e :: before =>
    if other = id then e.correlationId :: named id before else named id before
  | _ :: before => named id before

/-- The queue is that of a session: the session registered last on it, or had done so when it last
looked for a takeover, and nothing was taken from the queue since. -/
def Entitled (id : SessionId) (g : Gateway) (queue : QueueId) : Prop :=
  (∃ first, tenant? queue g.journal = some (id, first)) ∨
    ∃ earlier first, lastLook? id g.journal = some earlier ∧
      tenant? queue earlier = some (id, first) ∧
      dequeued queue g.journal = dequeued queue earlier

/-- What a queue gets in a step of a session: its close marker, if the session registered last there,
or, where the session takes an envelope, the request of the dispatch that waited for the room, put
there by that dispatch. -/
inductive Entrant (g : Gateway) (id : SessionId) (queue : QueueId) : Envelope → Origin → Prop
  | marker {first : Service} (latest : tenant? queue g.journal = some (id, first)) :
      Entrant g id queue .keepalive (.closing id)
  | caller {other : DispatchId} {x : Dispatch} {left : List Candidate}
      (here : g.dispatches[other]? = some x) (blocked : x.progress = .blocked queue left) :
      Entrant g id queue x.request (.dispatch other)

/-- A step leaves all nodes alone but the one of the session, and tells nobody to retire unless it
takes a queue over. -/
structure KeepsNodes (id : SessionId) (g g' : Gateway) : Prop where
  entries : ∀ node, g'.registry.nodes.get? node = g.registry.nodes.get? node ∨ Edits id g g' node
  members : ∀ node, (∀ group, node ∈ g'.registry.members group ↔ node ∈ g.registry.members group) ∨
    Edits id g g' node
  signals : ∀ {other service}, other ≠ id → g.service? other = some service →
    g'.registry.notified service.signal = g.registry.notified service.signal ∨
      ∃ first, .registered id first ∈ g'.journal ∧ .registered id first ∉ g.journal ∧
        first.queue = service.queue

/-- A step touches no queue but that of the session, and no dispatch but one that waits there. -/
structure KeepsQueues (id : SessionId) (g g' : Gateway) : Prop where
  queues : ∀ queue, g'.registry.queue queue = g.registry.queue queue ∨ Entitled id g queue
  enqueues : ∀ queue, enqueued queue g'.journal = enqueued queue g.journal ∨
    Entitled id g queue ∧
      ∃ e origin, enqueued queue g'.journal = enqueued queue g.journal ++ [(e, origin)] ∧
        Entrant g id queue e origin
  dequeues : ∀ queue, dequeued queue g'.journal = dequeued queue g.journal ∨
    Entitled id g queue ∧
      ∃ e, dequeued queue g'.journal = dequeued queue g.journal ++ [(id, e)]
  dispatches : ∀ other : DispatchId, g'.dispatches[other]? = g.dispatches[other]? ∨
    ∃ x queue left, g.dispatches[other]? = some x ∧ x.progress = .blocked queue left ∧
      Entitled id g queue ∧ g'.dispatches[other]? = some { x with progress := .awaiting }

/-- A step leaves the slots and replies alone whose ids no frame of the session has. -/
structure KeepsReplies (id : SessionId) (g g' : Gateway) : Prop where
  slots : ∀ c, g'.replies.waiter? c = g.replies.waiter? c ∨
    g'.replies.waiter? c = none ∧ c ∈ named id g'.journal
  looks : ∀ {other : DispatchId} {x}, g.dispatches[other]? = some x →
    g'.look x = g.look x ∨ x.request.correlationId ∈ named id g'.journal

/-- A step of a session stays within what is the session's. -/
structure Contained (id : SessionId) (g g' : Gateway) : Prop where
  sessions : ∀ {other}, other ≠ id → g'.sessions[other]? = g.sessions[other]?
  nodes : KeepsNodes id g g'
  queues : KeepsQueues id g g'
  replies : KeepsReplies id g g'

/-! ## Quiet steps -/

/-- What happens tells of no registration and of nothing on a queue. -/
structure Still (journal journal' : List Event) : Prop where
  tenants : ∀ queue, tenant? queue journal' = tenant? queue journal
  looks : ∀ id, lastLook? id journal' = lastLook? id journal
  enqueued : ∀ queue, enqueued queue journal' = enqueued queue journal
  dequeued : ∀ queue, dequeued queue journal' = dequeued queue journal
  registered : ∀ {id first}, .registered id first ∈ journal' ↔ .registered id first ∈ journal
  named : ∀ {id c}, c ∈ named id journal → c ∈ named id journal'

/-- Only a session itself changes, and nothing happens that others could notice. -/
structure Quiet (id : SessionId) (g g' : Gateway) : Prop where
  sessions : ∀ {other}, other ≠ id → g'.sessions[other]? = g.sessions[other]?
  registry : g'.registry = g.registry
  dispatches : g'.dispatches = g.dispatches
  replies : g'.replies = g.replies
  journal : Still g.journal g'.journal

section Quiet

variable {id : SessionId} {g g' h : Gateway} {journal : List Event}

theorem Still.refl (journal : List Event) : Still journal journal :=
  ⟨fun _ => rfl, fun _ => rfl, fun _ => rfl, fun _ => rfl, Iff.rfl, fun mem => mem⟩

theorem Still.cons {event : Event} (still : event.isStill = true) :
    Still journal (event :: journal) := by
  have registers : ∀ id first, event ≠ .registered id first := by
    rintro id first rfl
    exact absurd still (by simp [Event.isStill])
  constructor
  case tenants =>
    intro queue
    cases event with
    | registered id first => exact absurd rfl (registers id first)
    | _ => rfl
  case looks =>
    intro id
    cases event with
    | looked other => exact absurd still (by simp [Event.isStill])
    | _ => rfl
  case enqueued =>
    intro queue
    cases event with
    | queued queue e origin => exact absurd still (by simp [Event.isStill])
    | _ => rfl
  case dequeued =>
    intro queue
    cases event with
    | taken id queue e => exact absurd still (by simp [Event.isStill])
    | _ => rfl
  case registered =>
    intro id first
    rw [List.mem_cons, or_iff_right (registers id first).symm]
  case named =>
    intro id c mem
    cases event with
    | received other e =>
      rw [Gateway.named]
      split
      · exact List.mem_cons_of_mem _ mem
      · exact mem
    | _ => exact mem

theorem Still.trans {first second third : List Event} (a : Still first second)
    (b : Still second third) : Still first third :=
  ⟨fun queue => (b.tenants queue).trans (a.tenants queue),
    fun id => (b.looks id).trans (a.looks id),
    fun queue => (b.enqueued queue).trans (a.enqueued queue),
    fun queue => (b.dequeued queue).trans (a.dequeued queue), b.registered.trans a.registered,
    fun mem => b.named (a.named mem)⟩

theorem Contained.refl (id : SessionId) (g : Gateway) : Contained id g g where
  sessions _ := rfl
  nodes := ⟨fun _ => Or.inl rfl, fun _ => Or.inl fun _ => Iff.rfl, fun _ _ => Or.inl rfl⟩
  queues := ⟨fun _ => Or.inl rfl, fun _ => Or.inl rfl, fun _ => Or.inl rfl, fun _ => Or.inl rfl⟩
  replies := ⟨fun _ => Or.inl rfl, fun _ => Or.inl rfl⟩

theorem Quiet.service? (q : Quiet id g g') {other : SessionId} (apart : other ≠ id) :
    g'.service? other = g.service? other := by
  rw [Gateway.service?, q.sessions apart, Gateway.service?]

theorem Quiet.look (q : Quiet id g g') (x : Dispatch) : g'.look x = g.look x := by
  rw [Gateway.look, q.replies, Gateway.look]

theorem Quiet.edits_before (q : Quiet id g h) (node : String) :
    Edits id h g' node ↔ Edits id g g' node := by
  rw [Edits, Edits, q.registry]
  simp only [q.journal.registered]

theorem Quiet.edits_after (q : Quiet id h g') (node : String) :
    Edits id g g' node ↔ Edits id g h node := by
  simp only [Edits, q.journal.registered]

theorem Quiet.entitled (q : Quiet id g h) (queue : QueueId) :
    Entitled id h queue ↔ Entitled id g queue := by
  rw [Entitled, Entitled, q.journal.tenants, q.journal.looks, q.journal.dequeued]

/-- A contained step stays so when a quiet one comes before it. -/
theorem Contained.after (c : Contained id h g') (q : Quiet id g h) : Contained id g g' where
  -- what the later step is measured against is the same before the quiet one
  sessions apart := (c.sessions apart).trans (q.sessions apart)
  nodes := by
    constructor
    case entries =>
      intro node
      rw [← q.edits_before, ← q.registry]
      exact c.nodes.entries node
    case members =>
      intro node
      rw [← q.edits_before, ← q.registry]
      exact c.nodes.members node
    case signals =>
      intro other service apart serves
      simp only [← q.registry, ← q.journal.registered]
      exact c.nodes.signals apart ((q.service? apart).trans serves)
  queues := by
    constructor
    case queues =>
      intro queue
      rw [← q.registry, ← q.entitled]
      exact c.queues.queues queue
    case enqueues =>
      intro queue
      rw [← q.journal.enqueued, ← q.entitled]
      refine (c.queues.enqueues queue).imp_right ?_
      rintro ⟨entitled, e, origin, grown, entrant⟩
      refine ⟨entitled, e, origin, grown, ?_⟩
      cases entrant with
      | marker latest => exact .marker ((q.journal.tenants queue).symm.trans latest)
      | caller here blocked => exact .caller (by rwa [q.dispatches] at here) blocked
    case dequeues =>
      intro queue
      rw [← q.journal.dequeued, ← q.entitled]
      exact c.queues.dequeues queue
    case dispatches =>
      intro other
      simp only [← q.dispatches, ← q.entitled]
      exact c.queues.dispatches other
  replies := by
    constructor
    case slots =>
      intro c'
      rw [← q.replies]
      exact c.replies.slots c'
    case looks =>
      intro other x here
      rw [← q.look]
      exact c.replies.looks (by rwa [q.dispatches])

/-- A contained step stays so when a quiet one follows. -/
theorem Contained.before (c : Contained id g h) (q : Quiet id h g') : Contained id g g' where
  sessions apart := (q.sessions apart).trans (c.sessions apart)
  nodes := by
    constructor
    case entries =>
      intro node
      rw [q.edits_after, q.registry]
      exact c.nodes.entries node
    case members =>
      intro node
      rw [q.edits_after, q.registry]
      exact c.nodes.members node
    case signals =>
      intro other service apart serves
      simp only [q.registry, q.journal.registered]
      exact c.nodes.signals apart serves
  queues := by
    constructor
    case queues =>
      intro queue
      rw [q.registry]
      exact c.queues.queues queue
    case enqueues =>
      intro queue
      rw [q.journal.enqueued]
      exact c.queues.enqueues queue
    case dequeues =>
      intro queue
      rw [q.journal.dequeued]
      exact c.queues.dequeues queue
    case dispatches =>
      intro other
      rw [q.dispatches]
      exact c.queues.dispatches other
  replies := by
    constructor
    case slots =>
      intro c'
      rw [q.replies]
      exact (c.replies.slots c').imp_right fun gone => ⟨gone.1, q.journal.named gone.2⟩
    case looks =>
      intro other x here
      rw [q.look]
      exact (c.replies.looks here).imp_right q.journal.named

theorem Quiet.contained (q : Quiet id g g') : Contained id g g' := (Contained.refl id g).before q

/-- A session changes its own state, and at most something still is recorded. -/
theorem Quiet.of_set {t : Session} (sessions : g'.sessions = g.sessions.set id t)
    (registry : g'.registry = g.registry) (dispatches : g'.dispatches = g.dispatches)
    (replies : g'.replies = g.replies) (journal : Still g.journal g'.journal) : Quiet id g g' := by
  refine ⟨?_, registry, dispatches, replies, journal⟩
  intro other apart
  rw [sessions, List.getElem?_set_ne (Ne.symm apart)]

theorem quiet_record {event : Event} (still : event.isStill = true) : Quiet id g (g.record event) :=
  ⟨fun _ => rfl, rfl, rfl, rfl, .cons still⟩

theorem quiet_dismiss (s : Session) (reason : SessionError) : Quiet id g (g.dismiss id s reason) :=
  .of_set rfl rfl rfl rfl (.cons rfl)

end Quiet

/-! ## Registering and leaving -/

section Cores

variable {s : Settings} {g g' : Gateway} {id : SessionId} {service : Service}

/-- The members of the groups follow the entries. -/
theorem KeepsNodes.of_entries (before : g.registry.Coherent) (after : g'.registry.Coherent)
    (entries : ∀ node, g'.registry.nodes.get? node = g.registry.nodes.get? node ∨
      Edits id g g' node)
    (signals : ∀ {other service}, other ≠ id → g.service? other = some service →
      g'.registry.notified service.signal = g.registry.notified service.signal ∨
        ∃ first, .registered id first ∈ g'.journal ∧ .registered id first ∉ g.journal ∧
          first.queue = service.queue) : KeepsNodes id g g' := by
  refine ⟨entries, ?_, signals⟩
  intro node
  refine (entries node).imp_left ?_
  intro same group
  rw [Registry.mem_members_iff after, Registry.mem_members_iff before, same]

/-- Nothing is registered, and nobody leaves. -/
theorem KeepsNodes.of_same (nodes : g'.registry.nodes = g.registry.nodes)
    (groups : g'.registry.groups = g.registry.groups)
    (signals : ∀ {other service}, other ≠ id → g.service? other = some service →
      g'.registry.notified service.signal = g.registry.notified service.signal) :
    KeepsNodes id g g' := by
  refine ⟨?_, ?_, fun apart serves => Or.inl (signals apart serves)⟩
  · intro node
    rw [nodes]
    exact Or.inl rfl
  · intro node
    exact Or.inl fun group => by rw [Registry.members, groups, ← Registry.members]

/-- Nothing happens on the queues. -/
theorem KeepsQueues.of_same (queues : ∀ queue, g'.registry.queue queue = g.registry.queue queue)
    (enqueues : ∀ queue, enqueued queue g'.journal = enqueued queue g.journal)
    (dequeues : ∀ queue, dequeued queue g'.journal = dequeued queue g.journal)
    (dispatches : g'.dispatches = g.dispatches) : KeepsQueues id g g' := by
  refine ⟨fun queue => Or.inl (queues queue), fun queue => Or.inl (enqueues queue),
    fun queue => Or.inl (dequeues queue), ?_⟩
  intro other
  rw [dispatches]
  exact Or.inl rfl

/-- Only the queue of the session changes. -/
theorem KeepsQueues.of_own {own : QueueId} (entitled : Entitled id g own)
    (others : ∀ queue, own ≠ queue → g'.registry.queue queue = g.registry.queue queue ∧
      enqueued queue g'.journal = enqueued queue g.journal ∧
      dequeued queue g'.journal = dequeued queue g.journal)
    (enqueues : enqueued own g'.journal = enqueued own g.journal ∨
      ∃ e origin, enqueued own g'.journal = enqueued own g.journal ++ [(e, origin)] ∧
        Entrant g id own e origin)
    (dequeues : dequeued own g'.journal = dequeued own g.journal ∨
      ∃ e, dequeued own g'.journal = dequeued own g.journal ++ [(id, e)])
    (dispatches : ∀ other : DispatchId, g'.dispatches[other]? = g.dispatches[other]? ∨
      ∃ x left, g.dispatches[other]? = some x ∧ x.progress = .blocked own left ∧
        g'.dispatches[other]? = some { x with progress := .awaiting }) : KeepsQueues id g g' := by
  constructor
  case queues =>
    intro queue
    by_cases mine : own = queue
    · subst mine
      exact Or.inr entitled
    · exact Or.inl (others queue mine).1
  case enqueues =>
    intro queue
    by_cases mine : own = queue
    · subst mine
      exact enqueues.imp_right fun grown => ⟨entitled, grown⟩
    · exact Or.inl (others queue mine).2.1
  case dequeues =>
    intro queue
    by_cases mine : own = queue
    · subst mine
      exact dequeues.imp_right fun grown => ⟨entitled, grown⟩
    · exact Or.inl (others queue mine).2.2
  case dispatches =>
    intro other
    refine (dispatches other).imp_right ?_
    rintro ⟨x, left, here, blocked, after⟩
    exact ⟨x, own, left, here, blocked, entitled, after⟩

/-- The table of slots stays as it is. -/
theorem KeepsReplies.of_same (replies : g'.replies = g.replies) : KeepsReplies id g g' := by
  constructor
  · intro c
    rw [replies]
    exact Or.inl rfl
  · intro other x _
    rw [look, replies, ← look]
    exact Or.inl rfl

/-- Registering changes the entry of the node, makes an empty queue at most, and tells the connections
on the node's queue to retire. -/
theorem contained_enroll (tenancy : Tenancy g) (newcomer : ∀ first, .registered id first ∉ g.journal)
    (t : Session) (e : Envelope) (rest : List UInt8) : Contained id g (g.enroll id t e rest) := by
  have mine : .registered id (g.newService e) ∈ (g.enroll id t e rest).journal :=
    List.mem_cons_self
  have edits : Edits id g (g.enroll id t e rest) (firstIdentity e).node :=
    ⟨g.newService e, mine, rfl, fun listed => absurd listed (newcomer _)⟩
  have entries : ∀ node, (g.enroll id t e rest).registry.nodes.get? node =
      g.registry.nodes.get? node ∨ Edits id g (g.enroll id t e rest) node := by
    intro node
    show ((g.newRegistration e).2.nodes).get? node = _ ∨ _
    rw [newRegistration, Registry.nodes_register, Assoc.get?_insert]
    split
    · rename_i same
      subst same
      exact Or.inr edits
    · exact Or.inl rfl
  refine ⟨?_, .of_entries tenancy.coherent (Registry.coherent_register tenancy.coherent _ _ _) entries ?_,
    .of_same (Registry.queue_register _ _ _ _) (fun _ => rfl) (fun _ => rfl) rfl, .of_same rfl⟩
  · intro other apart
    exact List.getElem?_set_ne (Ne.symm apart)
  · intro other service apart serves
    have told := tenancy.notified_newRegistration e serves
    split at told
    · rename_i shared
      exact Or.inr ⟨g.newService e, mine, newcomer _, shared.symm⟩
    · exact Or.inl told

/-- A session has the seat that it registered, and as long as it owns its node it is the one that
registered last on its queue. -/
structure Seated (id : SessionId) (g : Gateway) (service : Service) : Prop where
  listed : ∃ first, .registered id first ∈ g.journal ∧ first.seat = service.seat
  latest : g.registry.key? service.identity.node = some service.key →
    ∃ first, tenant? service.queue g.journal = some (id, first)
  coherent : g.registry.Coherent

theorem seated_of_attained (attained : Attained s g) (serves : g.service? id = some service) :
    Seated id g service where
  listed := (owned_of_attained attained).seats serves
  latest owner := ((tenancy_of_attained attained).entry_of_key? serves owner).2.2
  coherent := (tenancy_of_attained attained).coherent

theorem Quiet.seated (q : Quiet id g g') (seated : Seated id g service) : Seated id g' service := by
  refine ⟨?_, ?_, ?_⟩
  · simp only [q.journal.registered]
    exact seated.listed
  · rw [q.registry, q.journal.tenants]
    exact seated.latest
  · rw [q.registry]
    exact seated.coherent

/-- Where a session leaves, its node goes if the session owns it, and every other entry stays. -/
theorem KeepsNodes.of_deregister (seated : Seated id g service)
    (nodes : g'.registry.nodes = (g.registry.deregister service.identity.group
      service.identity.node service.key).2.nodes)
    (groups : g'.registry.groups = (g.registry.deregister service.identity.group
      service.identity.node service.key).2.groups)
    (signals : g'.registry.signals = g.registry.signals)
    (registered : ∀ {first}, .registered id first ∈ g.journal → .registered id first ∈ g'.journal) :
    KeepsNodes id g g' := by
  have coherent := Registry.coherent_deregister seated.coherent service.identity.group
    service.identity.node service.key
  refine .of_entries seated.coherent ⟨?_, ?_⟩ ?_ ?_
  · rw [groups, nodes]
    exact coherent.listed
  · rw [nodes]
    exact coherent.distinct
  · intro node
    rw [nodes, Registry.get?_deregister_eq]
    cases entry : g.registry.nodes.get? node with
    | none => exact Or.inl rfl
    | some entry' =>
      by_cases mine : node = service.identity.node ∧ entry'.key = service.key ∧
          entry'.group = service.identity.group
      · obtain ⟨rfl, key, -⟩ := mine
        obtain ⟨first, listed, seat⟩ := seated.listed
        obtain ⟨identity, key', -, -⟩ := Service.seat_eq_seat.1 seat
        refine Or.inr ⟨first, registered listed, by rw [identity], fun _ => ?_⟩
        rw [Registry.key?, entry, key', ← key]
        rfl
      · rw [Option.filter_some, decide_eq_false mine]
        exact Or.inl rfl
  · intro other service' _ _
    rw [Registry.notified, signals, ← Registry.notified]
    exact Or.inl rfl

/-- Leaving puts a close marker on the queue of the session, and only if the session owned its node. -/
theorem contained_deregister (seated : Seated id g service) :
    Contained id g (g.deregister id service) := by
  obtain ⟨signals, -, -⟩ := Registry.deregister_frame g.registry service.identity.group
    service.identity.node service.key
  rcases deregister_shape (g := g) id service with
    ⟨current, metrics, -, -, eq⟩ | ⟨members, q, removed, pushed, eq⟩
  · rw [eq]
    exact ⟨fun _ => rfl, .of_deregister seated rfl rfl signals (List.mem_cons_of_mem _),
      .of_same (Registry.queue_deregister _ _ _ _) (fun _ => rfl) (fun _ => rfl) rfl, .of_same rfl⟩
  · -- the marker goes on the queue of the node that the session owned
    rw [eq]
    obtain ⟨first, latest⟩ := seated.latest (Registry.key?_of_removed removed)
    refine ⟨fun _ => rfl, .of_deregister seated rfl rfl signals ?_,
      .of_own (Or.inl ⟨first, latest⟩) ?_
        (Or.inr ⟨.keepalive, .closing id, if_pos rfl, .marker latest⟩) (Or.inl rfl)
        fun _ => Or.inl rfl, .of_same rfl⟩
    · exact fun listed => List.mem_cons_of_mem _ (List.mem_cons_of_mem _ listed)
    · intro queue other
      refine ⟨?_, if_neg other, rfl⟩
      rw [queue_setQueue, if_neg fun same => other same.1, Registry.queue_deregister]

theorem contained_close (seated : Seated id g service) : Contained id g (g.close id service) := by
  rw [close]
  split
  · exact .refl id g
  · exact contained_deregister seated

/-- Ending does the closing actions, and then only the session itself changes. -/
theorem contained_finish (seated : Seated id g service) (t : Session) (reason : SessionError) :
    Contained id g (g.finish id t service reason) := by
  have closed : Contained id g (g.close id service) := contained_close seated
  rw [finish]
  generalize g.close id service = h at closed
  exact closed.before (.of_set rfl rfl rfl rfl (.cons rfl))

/-! ## Replies and envelopes -/

/-- Who holds the ticket that waits under an id claims this id. -/
theorem Posted.id_of_waiter? (p : Posted g) {c : CorrelationId} {other : DispatchId}
    {claim : Correlation.Claim} (waits : g.replies.waiter? c = some claim.ticket)
    (has : g.claim? other = some claim) : claim.id = c := by
  rw [p.slots] at waits
  obtain ⟨winner, holds, waits⟩ := Option.bind_eq_some_iff.1 waits
  obtain ⟨theirs, has', same⟩ := Option.map_eq_some_iff.1 waits
  obtain rfl := p.apart has' has same
  obtain ⟨claim', has'', id⟩ := p.claim_of_holder holds
  obtain rfl := Option.some.inj (has.symm.trans has'')
  exact id

/-- A reply goes to the dispatch that its id names, and everyone else sees what they saw before. -/
theorem contained_deliver (posted : Posted g) {e : Envelope} {ticket : Correlation.Ticket}
    {replies : Correlation.Table} (handed : g.replies.deliver e = (.delivered ticket, replies))
    (t : Session) :
    Contained id g
      { g with
        sessions := g.sessions.set id t
        replies
        journal := .delivered ticket e :: .received id e :: g.journal } := by
  have still : Still g.journal (.delivered ticket e :: .received id e :: g.journal) :=
    Still.trans (.cons rfl) (.cons rfl)
  have mem : e.correlationId ∈ named id (.delivered ticket e :: .received id e :: g.journal) := by
    show _ ∈ if id = id then e.correlationId :: named id g.journal else _
    rw [if_pos rfl]
    exact List.mem_cons_self
  refine ⟨?_, .of_same rfl rfl fun _ _ => rfl,
    .of_same (fun _ => rfl) still.enqueued still.dequeued rfl, ⟨?_, ?_⟩⟩
  · intro other apart
    exact List.getElem?_set_ne (Ne.symm apart)
  · intro c
    show replies.waiter? c = _ ∨ replies.waiter? c = none ∧ _
    rw [Correlation.Table.waiter?_deliver handed]
    by_cases same : c = e.correlationId
    · subst same
      rw [if_pos rfl]
      exact Or.inr ⟨rfl, mem⟩
    · rw [if_neg same]
      exact Or.inl rfl
  · intro other x here
    cases claim : x.claim with
    | none =>
      left
      rw [look, look, claim]
    | some c =>
      by_cases same : c.id = e.correlationId
      · rw [← (posted.known here).stamp claim, same]
        exact Or.inr mem
      · -- another slot and another ticket, so what the claim sees does not change
        left
        rw [look, look, claim]
        refine Correlation.Table.look_deliver handed same ?_
        rintro rfl
        obtain ⟨-, waits, -⟩ := Correlation.Table.deliver_eq_delivered handed
        exact same (posted.id_of_waiter? waits (claim?_eq_some.2 ⟨x, here, claim⟩))

/-- A control frame closes the session, and any other frame goes to the table of slots. -/
theorem contained_handle (posted : Posted g) (seated : Seated id g service) (t : Session)
    (e : Envelope) : Contained id g (g.handle id t service e) := by
  have read : Quiet id g (g.record (.received id e)) := quiet_record rfl
  have kept : Quiet id g ((g.record (.received id e)).setSession id
      { t with phase := .serving service }) :=
    .of_set rfl rfl rfl rfl (.cons rfl)
  rcases handle_cases g id t service e with
    ⟨-, eq⟩ | ⟨ticket, replies, -, handed, eq⟩ | ⟨replies, -, -, eq⟩ | ⟨replies, -, -, eq⟩ <;>
    rw [eq]
  · exact ((contained_close (read.seated seated)).after read).before
      (.of_set rfl rfl rfl rfl (.refl _))
  · exact contained_deliver posted handed _
  · exact kept.contained.before ⟨fun _ => rfl, rfl, rfl, rfl, .refl _⟩
  · exact kept.contained

/-- Taking an envelope makes room, which goes to the dispatch that waits for it first. -/
theorem contained_afterTaking (ledger : Ledger g) {taken : Queue.Taken DispatchId}
    (entitled : Entitled id g service.queue)
    (popped : (g.registry.queue service.queue).pop? = some taken) :
    Contained id g (g.afterTaking id service taken) := by
  obtain ⟨others, own⟩ : (∀ queue, service.queue ≠ queue →
      (g.registry.setQueue service.queue taken.queue).queue queue = g.registry.queue queue) ∧
      dequeued service.queue (.taken id service.queue taken.frame :: g.journal) =
        dequeued service.queue g.journal ++ [(id, taken.frame)] := by
    refine ⟨fun queue other => ?_, if_pos rfl⟩
    rw [queue_setQueue, if_neg fun same => other same.1]
  rw [afterTaking]
  rcases letIn_cases
      ({ g with registry := g.registry.setQueue service.queue taken.queue }.record
        (.taken id service.queue taken.frame)) taken.served service.queue with
    ⟨eq, -⟩ | ⟨caller, d, served, here, eq⟩
  · rw [eq]
    refine ⟨fun _ => rfl, .of_same rfl rfl fun _ _ => rfl,
      .of_own entitled ?_ (Or.inl rfl) (Or.inr ⟨_, own⟩) fun _ => Or.inl rfl, .of_same rfl⟩
    intro queue other
    exact ⟨others queue other, rfl, if_neg other⟩
  · obtain ⟨left, blocked⟩ := ledger.blocked_of_served popped served here
    rw [eq]
    refine ⟨fun _ => rfl, .of_same rfl rfl fun _ _ => rfl,
      .of_own entitled ?_ (Or.inr ⟨d.request, .dispatch caller, if_pos rfl, .caller here blocked⟩)
        (Or.inr ⟨_, own⟩) ?_, .of_same rfl⟩
    · intro queue other
      exact ⟨others queue other, if_neg other, if_neg other⟩
    · intro other
      by_cases same : caller = other
      · subst same
        obtain ⟨lt, -⟩ := List.getElem?_eq_some_iff.1 here
        exact Or.inr ⟨d, left, here, blocked, List.getElem?_set_self lt⟩
      · exact Or.inl (List.getElem?_set_ne same)

/-- A sender that looks for a takeover changes its own state only. -/
theorem contained_looked (t : Session) :
    Contained id g ((g.setSession id t).record (.looked id)) := by
  refine ⟨fun apart => ?_, .of_same rfl rfl fun _ _ => rfl,
    .of_same (fun _ => rfl) (fun _ => rfl) (fun _ => rfl) rfl, .of_same rfl⟩
  exact List.getElem?_set_ne (Ne.symm apart)

/-- A superseded session uses up the notification of its own signal. -/
theorem contained_takeSignal (tenancy : Tenancy g) (serves : g.service? id = some service)
    (t : Session) :
    Contained id g
      { g with
        registry := g.registry.takeSignal service.signal
        sessions := g.sessions.set id t } := by
  refine ⟨?_, .of_same rfl rfl ?_, .of_same (fun _ => rfl) (fun _ => rfl) (fun _ => rfl) rfl,
    .of_same rfl⟩
  · intro other apart
    exact List.getElem?_set_ne (Ne.symm apart)
  · intro other service' apart serves'
    exact (Registry.notified_takeSignal _ _ _).trans
      (if_neg fun same => apart (tenancy.signalsApart serves' serves same.symm))

end Cores

/-! ## The nodes of queues -/

/-- Whoever registered on a queue did so for one node. -/
structure Housed (g : Gateway) : Prop where
  made : ∀ {id service}, .registered id service ∈ g.journal →
    service.queue < g.registry.queues.length
  node : ∀ {id id' service service'}, .registered id service ∈ g.journal →
    .registered id' service' ∈ g.journal → service.queue = service'.queue →
    service.identity.node = service'.identity.node
  owner : ∀ {node entry}, g.registry.nodes.get? node = some entry → ∀ {id service},
    .registered id service ∈ g.journal → service.queue = entry.queue →
    service.identity.node = node

section Housed

variable {s : Settings} {g g' : Gateway} {id : SessionId} {queue : QueueId}

theorem Entitled.registered (entitled : Entitled id g queue) :
    ∃ first, .registered id first ∈ g.journal ∧ first.queue = queue := by
  rcases entitled with ⟨first, latest⟩ | ⟨earlier, first, look, latest, -⟩
  · exact ⟨first, registered_of_tenant _ latest, queue_of_tenant _ latest⟩
  · have before := (List.suffix_cons _ _).trans (suffix_of_lastLook? look)
    exact ⟨first, before.subset (registered_of_tenant _ latest), queue_of_tenant _ latest⟩

/-- Whoever registers for a node does so on the queue of the node, or on a new one. -/
theorem Housed.enroll (housed : Housed g) (tenancy : Tenancy g) {e : Envelope}
    (registry : g'.registry = (g.newRegistration e).2)
    (journal : g'.journal = .registered id (g.newService e) :: g.journal) : Housed g' := by
  -- an earlier registration on the queue was for the same node
  have alike : ∀ {other service}, .registered other service ∈ g.journal →
      service.queue = (g.newService e).queue → service.identity.node = (firstIdentity e).node := by
    intro other service listed same
    rcases tenancy.register_cases e with ⟨entry, owned, made, -, -⟩ | ⟨-, made, -, -⟩
    · exact housed.owner owned listed (by rw [same, newService, made])
    · have lt := housed.made listed
      rw [same, newService, made] at lt
      exact absurd lt (Nat.lt_irrefl _)
  have registered : ∀ {other service}, .registered other service ∈ g'.journal →
      service = g.newService e ∨ .registered other service ∈ g.journal := by
    intro other service mem
    rw [journal] at mem
    rcases List.mem_cons.1 mem with now | before
    · exact Or.inl (Event.registered.inj now).2
    · exact Or.inr before
  constructor
  · intro other service mem
    rw [registry]
    rcases registered mem with rfl | before
    · exact (tenancy.queues_newRegistration e).2
    · exact Nat.lt_of_lt_of_le (housed.made before) (tenancy.queues_newRegistration e).1
  · intro a b p q hp hq same
    rcases registered hp with rfl | hp <;> rcases registered hq with rfl | hq
    · rfl
    · exact (alike hq same.symm).symm
    · exact alike hp same
    · exact housed.node hp hq same
  · intro node entry there other service mem same
    rw [registry, newRegistration, Registry.nodes_register, Assoc.get?_insert] at there
    split at there
    · rename_i mine
      obtain rfl := Option.some.inj there
      rcases registered mem with rfl | before
      · exact mine
      · exact (alike before same).trans mine
    · rename_i apart
      rcases registered mem with rfl | before
      · -- the node of the other entry would be this one
        obtain ⟨owner, theirs, first, serves, -, name, entries, latest⟩ := tenancy.owned there
        have node := alike (registered_of_tenant _ latest) ((queue_of_tenant _ latest).trans same.symm)
        exact absurd (node.symm.trans
          (housed.owner there (registered_of_tenant _ latest) (queue_of_tenant _ latest))) apart
      · exact housed.owner there before same

/-- Where nobody registers all stay in their places. -/
theorem Housed.of_same (housed : Housed g)
    (registered : ∀ {id service}, .registered id service ∈ g'.journal →
      .registered id service ∈ g.journal)
    (made : g'.registry.queues.length = g.registry.queues.length)
    (nodes : ∀ {node entry}, g'.registry.nodes.get? node = some entry →
      g.registry.nodes.get? node = some entry) : Housed g' where
  made listed := Nat.lt_of_lt_of_eq (housed.made (registered listed)) made.symm
  node first second same := housed.node (registered first) (registered second) same
  owner there _ _ listed same := housed.owner (nodes there) (registered listed) same

theorem housed_of_change (housed : Housed g) (tenancy : Tenancy g) (c : Change g g') :
    Housed g' := by
  cases reseating_of_change c with
  | joins e room registry journal => exact housed.enroll tenancy registry journal
  | @leaves id service current registry journal =>
    obtain ⟨-, made, -⟩ := Registry.deregister_frame g.registry service.identity.group
      service.identity.node service.key
    refine housed.of_same (fun mem => ?_) ?_ fun there => ?_
    · rw [journal] at mem
      exact (List.mem_cons.1 mem).resolve_left (by simp)
    · rw [registry, made]
    · rw [registry] at there
      exact (Registry.get?_deregister there).1
  | stay nodes made tenants registered =>
    exact housed.of_same registered made fun there => nodes ▸ there

theorem housed_of_attained (attained : Attained s g) : Housed g := by
  induction attained with
  | refl =>
    exact ⟨fun listed => absurd listed (by simp [start]), fun listed => absurd listed (by simp [start]),
      fun there => absurd there (by simp [start])⟩
  | tail before c ih => exact housed_of_change ih (tenancy_of_attained before) c

end Housed

/-! ## The steps of a session -/

section Steps

variable {s : Settings} {g g' : Gateway} {id : SessionId}

/-- The moves of a session, each of which has one core. -/
theorem contained_of_deed (attained : Attained s g) {m : Move} (d : Deed g id m g') :
    Contained id g g' := by
  have tenancy := tenancy_of_attained attained
  have ledger := ledger_of_attained attained
  have serves : ∀ {t : Session} {service : Service}, g.sessions[id]? = some t →
      t.phase = .serving service → g.service? id = some service :=
    fun here serving => service?_eq_some.2 ⟨_, here, serving⟩
  -- whoever takes from a queue had registered last on it when it looked
  have entitled : ∀ {t : Session} {service : Service}, g.sessions[id]? = some t →
      t.phase = .serving service → service.sender = .reaching → Entitled id g service.queue :=
    fun here serving reaching =>
      Or.inr (poised_of_attained attained _ _ (serves here serving) reaching)
  cases d with
  | dismissed reason how here greeting => exact (quiet_dismiss _ _).contained
  | enrolled e rest here greeting room =>
    exact contained_enroll tenancy (not_registered_of_greeting attained here greeting) _ _ _
  | broke here greeting =>
    apply Quiet.contained
    exact .of_set rfl rfl rfl rfl (.refl _)
  | finished reason how here serving =>
    exact contained_finish (seated_of_attained attained (serves here serving)) _ _
  | @handled t service e inbound here serving read =>
    -- a frame is read from the seat that the session has had all along
    have seated : Seated id g service := seated_of_attained attained (serves here serving)
    have opened : Seated id g { service with first := none } :=
      ⟨seated.listed, seated.latest, seated.coherent⟩
    exact contained_handle (posted_of_attained attained) opened _ _
  | acquired here serving waiting free =>
    apply Quiet.contained
    exact .of_set rfl rfl rfl rfl (.refl _)
  | retired here serving between notified =>
    exact contained_takeSignal tenancy (serves here serving) _
  | looked here serving idle current => exact contained_looked _
  | missed here serving reaching empty =>
    apply Quiet.contained
    exact .of_set rfl rfl rfl rfl (.refl _)
  | took here serving reaching popped encoded =>
    have taking := contained_afterTaking ledger (entitled here serving reaching) popped
    generalize g.afterTaking id _ _ = h at taking
    exact taking.before (.of_set rfl rfl rfl rfl (.refl _))
  | skipped here serving reaching popped unwritable =>
    have taking := contained_afterTaking ledger (entitled here serving reaching) popped
    generalize g.afterTaking id _ _ = h at taking
    exact taking.before (.of_set rfl rfl rfl rfl (.cons rfl))
  | wrote here serving writing whole pos room le =>
    apply Quiet.contained
    exact .of_set rfl rfl rfl rfl (.cons rfl)

/-- What a worker does to its stream changes the stream of its session at most. -/
theorem exists_onStream {i : Input} (own : FromWorker id i) :
    ∃ change, g.input i = g.onStream id change := by
  cases own <;> exact ⟨_, rfl⟩

/-- What a worker does to its stream changes its own session only. -/
theorem quiet_onStream (change : Session → Session) : Quiet id g (g.onStream id change) := by
  rw [onStream]
  split
  · exact .of_set rfl rfl rfl rfl (.refl _)
  · exact ⟨fun _ => rfl, rfl, rfl, rfl, .refl _⟩

/-- Every step of a session stays within what is the session's. -/
theorem contained_of_step (attained : Attained s g) {a : Action} (own : StepOf id a)
    (step : g.act? a = some g') : Contained id g g' := by
  cases own with
  | move mem => exact contained_of_deed attained (deed_of_move mem step)
  | rouse =>
    obtain rfl := Option.some.inj step
    rw [input]
    split
    · exact .refl id g
    · cases h : g.reach id with
      | none => exact .refl id g
      | some g' => exact contained_of_deed attained (deed_of_reach h)
  | tally =>
    obtain ⟨-, rfl⟩ := tally_eq_some (step?_of_move? step)
    exact Quiet.contained ⟨fun _ => rfl, rfl, rfl, rfl, .cons rfl⟩
  | publish =>
    obtain ⟨number, -, rfl⟩ := publish_eq_some (step?_of_move? step)
    exact Quiet.contained ⟨fun _ => rfl, rfl, rfl, rfl, .cons rfl⟩
  | worker own =>
    obtain rfl := Option.some.inj step
    obtain ⟨change, eq⟩ := exists_onStream (g := g) own
    rw [eq]
    exact (quiet_onStream change).contained

/-- A step of a session changes no gauge that another has to set. -/
theorem reports_of_step {a : Action} (own : StepOf id a) (step : g.act? a = some g') {r : Reporter}
    (other : r ≠ .session id) : g'.reports.get? r = g.reports.get? r := by
  cases own with
  | move mem => exact (unread_of_deed (deed_of_move mem step)).others other
  | rouse =>
    obtain rfl := Option.some.inj step
    rw [input]
    split
    · rfl
    · cases h : g.reach id with
      | none => rfl
      | some g' => exact (unread_of_deed (deed_of_reach h)).others other
  | tally =>
    obtain ⟨-, rfl⟩ := tally_eq_some (step?_of_move? step)
    show (Assoc.insert _ _ _).get? _ = _
    rw [Assoc.get?_insert, if_neg (Ne.symm other)]
  | publish =>
    obtain ⟨number, -, rfl⟩ := publish_eq_some (step?_of_move? step)
    show (Assoc.erase _ _).get? _ = _
    rw [Assoc.get?_erase, if_neg (Ne.symm other)]
  | worker own =>
    obtain rfl := Option.some.inj step
    obtain ⟨change, eq⟩ := exists_onStream (g := g) own
    rw [eq, onStream]
    split <;> rfl

/-- A node that a session does not register is left alone by it, and so is the node's queue. -/
theorem Contained.of_other_node (c : Contained id g g') (attained : Attained s g)
    (later : g.journal <:+ g'.journal) {node : String} {entry : Entry}
    (registered : g.registry.nodes.get? node = some entry)
    (other : ∀ first, .registered id first ∈ g'.journal → first.identity.node ≠ node) :
    g'.registry.nodes.get? node = some entry ∧
      g'.registry.queue entry.queue = g.registry.queue entry.queue := by
  constructor
  · rcases c.nodes.entries node with same | ⟨first, listed, name, -⟩
    · exact same.trans registered
    · exact absurd name (other first listed)
  · rcases c.queues.queues entry.queue with same | entitled
    · exact same
    · -- the queue would be the session's, and with it the node
      obtain ⟨first, listed, own⟩ := entitled.registered
      have node := (housed_of_attained attained).owner registered listed own
      exact absurd node (other first (later.subset listed))

end Steps

/-! ## Close markers -/

/-- How often a session put a close marker on a queue. -/
def markers (id : SessionId) : List Event → Nat
  | [] => 0
  | .queued _ _ origin :: before =>
    if origin = .closing id then markers id before + 1 else markers id before
  | _ :: before => markers id before

section Markers

variable {s : Settings} {g : Gateway}

theorem markers_letIn (id : SessionId) (waiting : Option DispatchId) (queue : QueueId) :
    markers id (g.letIn waiting queue).journal = markers id g.journal := by
  rcases journal_letIn g waiting queue with eq | ⟨caller, d, -, -, eq⟩
  · rw [eq]
  · rw [eq, markers, if_neg (by simp)]

/-- Every close marker comes right after closing actions, and no second one does. -/
theorem markers_of_attained (attained : Attained s g) (id : SessionId) :
    markers id g.journal ≤ closings id g.journal ∧
      ∀ before, g.journal = .closed id true :: before →
        markers id g.journal < closings id g.journal := by
  -- the second part is what leaves room for the marker that the next change puts on the queue
  induction attained with
  | refl => exact ⟨Nat.le_refl _, fun before now => absurd now (by simp [start])⟩
  | @tail g g' attained c ih =>
    constructor
    · cases c with
      | @closed other t service current here serving fresh report =>
        show markers id g.journal ≤ if _ then _ else _
        split
        · exact Nat.le_succ_of_le ih.1
        · exact ih.1
      | @offered queue origin q live due pushed =>
        show (if _ then _ else _) ≤ closings id g.journal
        split
        · rename_i mine
          subst mine
          cases due with
          | closing here serving mine now => exact ih.2 _ now
        · exact ih.1
      | took here serving reaching popped encoded =>
        rw [markers_letIn, closings_letIn]
        exact ih.1
      | skipped here serving reaching popped unwritable =>
        show markers id (Gateway.journal (letIn _ _ _)) ≤ closings id (Gateway.journal (letIn _ _ _))
        rw [markers_letIn, closings_letIn]
        exact ih.1
      | placed here placing among live pushed =>
        show (if _ then _ else _) ≤ closings id g.journal
        rw [if_neg (by simp)]
        exact ih.1
      | _ => exact ih.1
    · intro before now
      rcases closed_of_change c now with same | ⟨service, members, -, -, -, journal⟩
      · rw [same] at now ⊢
        exact ih.2 before now
      · rw [journal]
        show markers id g.journal < if _ then _ else _
        rw [if_pos rfl]
        exact Nat.lt_succ_of_le ih.1

/-- A session puts one close marker on a queue at most. -/
theorem markers_le_one (attained : Attained s g) (id : SessionId) : markers id g.journal ≤ 1 :=
  Nat.le_trans (markers_of_attained attained id).1 (closings_le_one attained id)

end Markers

/-- Whatever a worker sends or stops sending, each step of its session stays within what is the
session's, all nodes but its own keep their entries and queues, and nobody else has a gauge to set
because of it. In its life the session itself puts at most one envelope on a queue, its close marker,
on the queue on which it registered. -/
theorem steps_contained {s : Settings} {g : Gateway} (h : Reachable s g) (id : SessionId) :
    (∀ {a g'}, StepOf id a → g.act? a = some g' → Contained id g g' ∧
      (∀ {r}, r ≠ .session id → g'.reports.get? r = g.reports.get? r) ∧
      ∀ {node entry}, g.registry.nodes.get? node = some entry →
        (∀ first, .registered id first ∈ g'.journal → first.identity.node ≠ node) →
        g'.registry.nodes.get? node = some entry ∧
          g'.registry.queue entry.queue = g.registry.queue entry.queue) ∧
      markers id g.journal ≤ 1 ∧
      ∀ {queue e}, (e, .closing id) ∈ enqueued queue g.journal →
        ∃ first, .registered id first ∈ g.journal ∧ first.queue = queue := by
  have attained := attained_of_reachable h
  refine ⟨?_, markers_le_one attained id, ?_⟩
  · intro a g' own step
    have contained := contained_of_step attained own step
    exact ⟨contained, reports_of_step own step,
      contained.of_other_node attained (journal_of_changes (changes_of_act step))⟩
  · intro queue e marker
    obtain ⟨-, first, latest⟩ := (marked_of_attained attained).marked marker
    exact ⟨first, registered_of_tenant _ latest, queue_of_tenant _ latest⟩

/-- A `Register` on its way, for the node `b` of the group `a`. -/
def otherNodeFrame : List UInt8 :=
  [0, 0, 0, 37, 1, 49, 0, 0, 0, 29, 123, 34, 99, 108, 105, 101, 110, 116, 95, 105, 100, 34, 58,
    34, 98, 34, 44, 34, 103, 114, 111, 117, 112, 34, 58, 34, 97, 34, 125, 0, 0]

/-- Two nodes are connected, two requests are queued for the first, and the worker of the second sends
a reply to one of them. -/
def forgedStart : Gateway :=
  play sample (join 0 100 keepaliveFrame ++ join 1 100 otherNodeFrame ++
    ask 0 "default_group" { command := .getItem } 1000 ++ [.move (.place 0 0)] ++
    ask 1 "default_group" { command := .getItem } 1000 ++
    [.move (.place 1 0), .input (.send 1 (replyFrame 1))])

/-- The forged reply goes to the dispatch that it names. The other node keeps its entry and its queue
with both requests, and the dispatch that was not named waits as before. -/
theorem steps_contained_forgedStart :
    Reachable sample forgedStart ∧ StepOf 1 (.move (.receive 1)) ∧
      ∃ g', forgedStart.act? (.move (.receive 1)) = some g' ∧
        g'.sessions[0]? = forgedStart.sessions[0]? ∧
        (∃ entry, g'.registry.nodes.get? "default_node" = some entry ∧
          (forgedStart.registry.queue entry.queue).frames.length = 2 ∧
          g'.registry.queue entry.queue = forgedStart.registry.queue entry.queue) ∧
        (∃ x, forgedStart.dispatches[0]? = some x ∧ g'.look x ≠ forgedStart.look x) ∧
        ∃ x, forgedStart.dispatches[1]? = some x ∧ g'.look x = forgedStart.look x := by
  have reached : Reachable sample forgedStart := reachable_play _ _
  have own : StepOf 1 (.move (.receive 1)) := .move (by decide)
  obtain ⟨g', step⟩ : ∃ g', forgedStart.act? (.move (.receive 1)) = some g' :=
    Option.isSome_iff_exists.1 (by decide +kernel)
  obtain ⟨contained, -, others⟩ := (steps_contained reached 1).1 own step
  refine ⟨reached, own, g', step, contained.sessions (by decide), ?_, ?_, ?_⟩
  · -- the session that forges the reply registered another node
    have queued : (forgedStart.registry.nodes.get? "default_node").map (fun entry =>
        (forgedStart.registry.queue entry.queue).frames.length) = some 2 := by
      decide +kernel
    have name : (forgedStart.act? (.move (.receive 1))).map (fun g' =>
        (registration? 1 g'.journal).map (·.identity.node)) = some (some "b") := by
      decide +kernel
    rw [step] at name
    obtain ⟨entry, registered, length⟩ := Option.map_eq_some_iff.1 queued
    obtain ⟨kept, queue⟩ := others registered fun first listed same => by
      have attained := attained_of_reachable (reachable_of_act? reached step)
      obtain ⟨latest, -⟩ := registration_of_attained attained listed
      rw [Option.map_some, latest, Option.map_some, same] at name
      exact absurd name (by decide)
    exact ⟨entry, kept, length, queue⟩
  · have named : (forgedStart.act? (.move (.receive 1))).map (fun g' =>
        (forgedStart.dispatches[0]?).map fun x => decide (g'.look x = forgedStart.look x)) =
          some (some false) := by
      decide +kernel
    rw [step] at named
    obtain ⟨x, here, sees⟩ := Option.map_eq_some_iff.1 (Option.some.inj named)
    exact ⟨x, here, of_decide_eq_false sees⟩
  · have unnamed : (forgedStart.act? (.move (.receive 1))).map (fun g' =>
        (forgedStart.dispatches[1]?).map fun x =>
          decide (x.request.correlationId ∈ named 1 g'.journal)) = some (some false) := by
      decide +kernel
    rw [step] at unnamed
    obtain ⟨x, here, not⟩ := Option.map_eq_some_iff.1 (Option.some.inj unnamed)
    exact ⟨x, here, (contained.replies.looks here).resolve_right (of_decide_eq_false not)⟩

end Gateway

end Switchboard
