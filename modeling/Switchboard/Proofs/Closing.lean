import Switchboard.Proofs.Abandonment
import Switchboard.Proofs.Streams

/-!
# Closing actions

A session does its closing actions once (`closings_le_one`): it leaves the registry and, if it still
owned its node, puts a close marker on the queue. Whatever it does afterwards, its end included, touches
neither the registered nodes nor their queues, unless its sender was overtaken by a newer connection while
it reached for the queue (`spares_of_move`). A close marker is on a queue that was left behind, and only
the session that put it there takes it, or one that was overtaken by that session (`taker_of_marker`).
-/

set_option autoImplicit false

namespace Switchboard.Gateway

/-- How often a session did its closing actions. -/
def closings (id : SessionId) : List Event → Nat
  | [] => 0
  | .closed other _ :: before => if other = id then closings id before + 1 else closings id before
  | _ :: before => closings id before

section Closings

variable {s : Settings} {g g' : Gateway} {id : SessionId}

theorem closings_pos_iff {journal : List Event} :
    0 < closings id journal ↔ ∃ current, .closed id current ∈ journal := by
  induction journal with
  | nil => simp [closings]
  | cons event before ih =>
    cases event with
    | closed other current =>
      rw [closings]
      split
      · rename_i same
        subst same
        exact ⟨fun _ => ⟨current, List.mem_cons_self⟩, fun _ => Nat.succ_pos _⟩
      · rename_i other
        rw [ih]
        refine exists_congr fun _ => ⟨List.mem_cons_of_mem _, fun mem => ?_⟩
        refine (List.mem_cons.1 mem).resolve_left fun same => ?_
        exact other (Event.closed.inj same).1.symm
    | _ => simpa [closings] using ih

theorem closings_letIn (waiting : Option DispatchId) (queue : QueueId) :
    closings id (g.letIn waiting queue).journal = closings id g.journal := by
  rcases journal_letIn g waiting queue with eq | ⟨caller, d, -, -, eq⟩
  · rw [eq]
  · rw [eq]
    rfl

/-- A session does its closing actions at most once. -/
theorem closings_le_one (attained : Attained s g) (id : SessionId) : closings id g.journal ≤ 1 := by
  induction attained with
  | refl => exact Nat.zero_le _
  | @tail g g' attained c ih =>
    cases c with
    | @closed other t service current here serving fresh report =>
      show (if _ then _ else _) ≤ 1
      split
      · -- a session that has not closed did no closing actions before
        rename_i same
        subst same
        have none : ¬ 0 < closings other g.journal := by
          rw [closings_pos_iff, ← (owned_of_attained attained).closings
            (service?_eq_some.2 ⟨t, here, serving⟩), fresh]
          simp
        exact Nat.succ_le_succ (Nat.le_of_not_lt none)
      · exact ih
    | took here serving reaching popped encoded => rwa [closings_letIn]
    | skipped here serving reaching popped unwritable =>
      show closings id (Gateway.journal (letIn _ _ _)) ≤ 1
      rwa [closings_letIn]
    | _ => exact ih

end Closings

/-! ## What a session does after its closing actions -/

/-- The sender of a session reaches for a queue on which it had registered last when it looked for a
takeover, and another session has registered on the queue since. -/
structure Overtaken (g : Gateway) (id : SessionId) (queue : QueueId) : Prop where
  reaching : ∃ service, g.service? id = some service ∧ service.queue = queue ∧
    service.sender = .reaching
  looked : ∃ earlier first, lastLook? id g.journal = some earlier ∧
    tenant? queue earlier = some (id, first)
  other : ∃ newer second, tenant? queue g.journal = some (newer, second) ∧ newer ≠ id

/-- The registered nodes stay, and so does what is on their queues, except that a sender that was
overtaken may take the envelope for which it reaches. -/
structure Spares (g g' : Gateway) (id : SessionId) : Prop where
  nodes : g'.registry.nodes = g.registry.nodes
  groups : g'.registry.groups = g.registry.groups
  queues : ∀ {queue}, g.registry.owns queue = true →
    g'.registry.queue queue = g.registry.queue queue ∨
      Overtaken g id queue ∧ ∃ taken, (g.registry.queue queue).pop? = some taken ∧
        g'.registry.queue queue = taken.queue

section Spares

variable {s : Settings} {g g' : Gateway} {id : SessionId} {t : Session} {service : Service}

theorem Spares.of_registry (same : g'.registry = g.registry) : Spares g g' id := by
  constructor
  · rw [same]
  · rw [same]
  · intro queue _
    exact Or.inl (by rw [same])

theorem registry_finish (past : service.closed = true) (reason : SessionError) :
    (g.finish id t service reason).registry = g.registry := by
  rw [finish, close, if_pos past]
  rfl

theorem registry_handle (service : Service) (past : service.closed = true) (e : Envelope) :
    (g.handle id t service e).registry = g.registry := by
  rcases handle_cases g id t service e with
    ⟨-, eq⟩ | ⟨ticket, replies, -, -, eq⟩ | ⟨replies, -, -, eq⟩ | ⟨replies, -, -, eq⟩ <;> rw [eq]
  · rw [close, if_pos past]
    rfl
  all_goals rfl

/-- The queue on which a session registered last was left behind once the session has closed: no node has
it, because its owner would be this session. -/
theorem Tenancy.abandoned_of_closed (t : Tenancy g) (serves : g.service? id = some service)
    (past : service.closed = true) {first : Service}
    (latest : tenant? service.queue g.journal = some (id, first)) : Abandoned g service.queue := by
  refine .of_entries t (t.queueMade serves) fun {node entry} registered same => ?_
  obtain ⟨owner, theirs, first', serves', opened, -, -, latest'⟩ := t.owned registered
  rw [same, latest] at latest'
  obtain ⟨rfl, -⟩ := Prod.mk.inj (Option.some.inj latest')
  obtain rfl := Option.some.inj (serves.symm.trans serves')
  exact absurd (past.symm.trans opened) (by simp)

/-- A session that has closed and reaches for the queue of a registered node was overtaken. -/
theorem overtaken_of_closed (attained : Attained s g) (serves : g.service? id = some service)
    (past : service.closed = true) (reaching : service.sender = .reaching)
    (owned : g.registry.owns service.queue = true) : Overtaken g id service.queue := by
  have tenancy := tenancy_of_attained attained
  obtain ⟨earlier, first, look, tenant, -⟩ := poised_of_attained attained id service serves reaching
  obtain ⟨newer, second, latest, -⟩ := tenancy.seated serves
  refine ⟨⟨service, serves, rfl, reaching⟩, ⟨earlier, first, look, tenant⟩, newer, second, latest, ?_⟩
  rintro rfl
  have abandoned := tenancy.abandoned_of_closed serves past latest
  exact absurd (owned.symm.trans abandoned.free) (by simp)

/-- Taking from its queue spares the registered nodes and the other queues. -/
theorem spares_afterTaking {taken : Queue.Taken DispatchId}
    (popped : (g.registry.queue service.queue).pop? = some taken)
    (made : service.queue < g.registry.queues.length)
    (overtaken : g.registry.owns service.queue = true → Overtaken g id service.queue) :
    Spares g (g.afterTaking id service taken) id := by
  have registry : (g.afterTaking id service taken).registry =
      g.registry.setQueue service.queue taken.queue := registry_letIn _ _
  constructor
  · rw [registry]
    rfl
  · rw [registry]
    rfl
  · intro queue owned
    rw [registry, queue_setQueue_of_lt made]
    split
    · rename_i same
      subst same
      exact Or.inr ⟨overtaken owned, taken, popped, rfl⟩
    · exact Or.inl rfl

/-- Whatever a session does after its closing actions spares the registered nodes and their queues, as
far as its sender was not overtaken. -/
theorem spares_of_move (attained : Attained s g) {current : Bool}
    (closed : .closed id current ∈ g.journal) {m : Move} (mem : m ∈ sessionMoves id)
    (step : g.move? m = some g') : Spares g g' id := by
  have owned := owned_of_attained attained
  have tenancy := tenancy_of_attained attained
  have past : ∀ {t : Session} {service : Service}, g.sessions[id]? = some t →
      t.phase = .serving service → service.closed = true := by
    intro t service here serving
    exact (owned.closings (service?_eq_some.2 ⟨t, here, serving⟩)).2 ⟨current, closed⟩
  -- it does not wait for its first frame any more
  have begun : ∀ {t : Session} {deadline : Nat}, g.sessions[id]? = some t →
      t.phase ≠ .greeting deadline := by
    intro t deadline here phase
    obtain ⟨first, listed⟩ := owned.closers closed
    exact not_registered_of_greeting attained here phase first listed
  -- the queue from which it takes was left behind when it closed, unless it was overtaken
  have takes : ∀ {t : Session} {service : Service} {taken : Queue.Taken DispatchId},
      g.sessions[id]? = some t → t.phase = .serving service → service.sender = .reaching →
      (g.registry.queue service.queue).pop? = some taken →
      Spares g (g.afterTaking id service taken) id := by
    intro t service taken here serving reaching popped
    have serves : g.service? id = some service := service?_eq_some.2 ⟨t, here, serving⟩
    exact spares_afterTaking popped (tenancy.queueMade serves)
      (overtaken_of_closed attained serves (past here serving) reaching)
  cases deed_of_move mem step with
  | dismissed reason how here greeting => exact absurd greeting (begun here)
  | enrolled e rest here greeting room => exact absurd greeting (begun here)
  | broke here greeting => exact absurd greeting (begun here)
  | finished reason how here serving => exact .of_registry (registry_finish (past here serving) _)
  | @handled t service e inbound here serving read =>
    have past : service.closed = true := past here serving
    exact .of_registry (registry_handle { service with first := none } past _)
  | acquired here serving waiting free => exact .of_registry rfl
  | retired here serving between notified => exact ⟨rfl, rfl, fun _ => Or.inl rfl⟩
  | looked here serving idle current => exact .of_registry rfl
  | missed here serving reaching empty => exact .of_registry rfl
  | took here serving reaching first encoded =>
    obtain ⟨nodes, groups, queues⟩ := takes here serving reaching first
    exact ⟨nodes, groups, queues⟩
  | skipped here serving reaching first unwritable =>
    obtain ⟨nodes, groups, queues⟩ := takes here serving reaching first
    exact ⟨nodes, groups, queues⟩
  | wrote here serving writing whole pos room le => exact .of_registry rfl

end Spares

/-! ## Leaving the registry -/

section Leaving

variable {s : Settings} {g g' : Gateway} {id : SessionId} {service : Service}

/-- The connection that owns a node has not closed, registered last on the queue of the node, and has it
as it registered it. -/
theorem Tenancy.entry_of_key? (t : Tenancy g) (serves : g.service? id = some service)
    (owner : g.registry.key? service.identity.node = some service.key) :
    g.registry.nodes.get? service.identity.node = some service.entry ∧ service.closed = false ∧
      ∃ first, tenant? service.queue g.journal = some (id, first) := by
  obtain ⟨entry, registered, mine⟩ := Option.map_eq_some_iff.1 owner
  obtain ⟨opened, -, rfl, latest⟩ := t.entry_of_key serves registered mine
  exact ⟨registered, opened, latest⟩

/-- A session is removed from the registry exactly if it owns its node. -/
theorem Tenancy.removed_iff (t : Tenancy g) (serves : g.service? id = some service) :
    (∃ members, (g.registry.deregister service.identity.group service.identity.node
        service.key).1 = .removed members) ↔
      g.registry.key? service.identity.node = some service.key := by
  constructor
  · rintro ⟨members, removed⟩
    exact Registry.key?_of_removed removed
  · intro owner
    obtain ⟨registered, -, -⟩ := t.entry_of_key? serves owner
    rcases Registry.deregister_cases g.registry service.identity.group service.identity.node
      service.key with ⟨entry, -, -, -, eq⟩ | ⟨stale, -⟩
    · exact ⟨_, congrArg Prod.fst eq⟩
    · exact absurd ⟨rfl, rfl⟩ (stale _ registered)

/-- The queue of a connection that left the registry was left behind. -/
theorem Tenancy.abandoned_of_left (t : Tenancy g) (t' : Tenancy g')
    (serves : g.service? id = some service)
    (owner : g.registry.key? service.identity.node = some service.key)
    (nodes : g'.registry.nodes = (g.registry.deregister service.identity.group
      service.identity.node service.key).2.nodes)
    (queues : g'.registry.queues.length = g.registry.queues.length) :
    Abandoned g' service.queue := by
  obtain ⟨mine, -, -⟩ := t.entry_of_key? serves owner
  refine .of_entries t' (Nat.lt_of_lt_of_eq (t.queueMade serves) queues.symm) ?_
  intro node entry left same
  rw [nodes] at left
  obtain ⟨registered, other⟩ := Registry.get?_deregister left
  obtain rfl := t.queues_apart registered mine same
  obtain rfl := Option.some.inj (registered.symm.trans mine)
  exact other ⟨rfl, rfl, rfl⟩

/-- What was recorded last is a closing only right after it. -/
theorem closed_of_change (c : Change g g') {before : List Event}
    (now : g'.journal = .closed id true :: before) :
    g'.journal = g.journal ∨ ∃ service members, g.service? id = some service ∧
      (g.registry.deregister service.identity.group service.identity.node service.key).1 =
        .removed members ∧
      g'.registry = (g.registry.deregister service.identity.group service.identity.node
        service.key).2 ∧ g'.journal = .closed id true :: g.journal := by
  have letIn : ∀ {h : Gateway} {waiting : Option DispatchId} {queue : QueueId} {event : Event},
      h.journal = event :: g.journal → event ≠ .closed id true →
      (h.letIn waiting queue).journal ≠ .closed id true :: before := by
    intro h waiting queue event journal other same
    rcases journal_letIn h waiting queue with eq | ⟨caller, d, -, -, eq⟩
    · rw [eq, journal] at same
      exact other (List.cons.inj same).1
    · rw [eq] at same
      exact absurd (List.cons.inj same).1 (by simp)
  cases c with
  | @closed other t service current here serving fresh report =>
    obtain ⟨rfl, rfl⟩ := Event.closed.inj (List.cons.inj now).1
    obtain ⟨members, removed⟩ := report.1 rfl
    exact Or.inr ⟨service, members, service?_eq_some.2 ⟨t, here, serving⟩, removed, rfl, rfl⟩
  | took here serving reaching popped encoded => exact absurd now (letIn rfl (by simp))
  | skipped here serving reaching popped unwritable =>
    exact absurd (List.cons.inj now).1 (by simp)
  | _ =>
    first
    | exact Or.inl rfl
    | exact absurd (List.cons.inj now).1 (by simp)

end Leaving

/-! ## Close markers -/

/-- Close markers are on queues that were left behind, each from the session that registered last on the
queue, and so it is with those that are about to be put there. -/
structure Marked (g : Gateway) : Prop where
  marked : ∀ {queue e id}, (e, .closing id) ∈ enqueued queue g.journal →
    Abandoned g queue ∧ ∃ first, tenant? queue g.journal = some (id, first)
  due : ∀ {id before}, g.journal = .closed id true :: before →
    ∃ queue first, Abandoned g queue ∧ tenant? queue g.journal = some (id, first)

section Marked

variable {s : Settings} {g g' : Gateway}

/-- A keepalive that is due from a session is due on the queue on which it registered last. -/
theorem Marked.of_due (m : Marked g) (attained : Attained s g) {queue : QueueId} {id : SessionId}
    (due : Due g queue (.closing id)) :
    Abandoned g queue ∧ ∃ first, tenant? queue g.journal = some (id, first) := by
  cases due with
  | @closing _ t service before here serving mine now =>
    obtain ⟨queue', first, a, latest⟩ := m.due now
    have same : service.queue = queue' :=
      queue_of_tenant_service attained (service?_eq_some.2 ⟨t, here, serving⟩) latest
    rw [← mine, same]
    exact ⟨a, first, latest⟩

theorem marked_of_change (m : Marked g) (attained : Attained s g) (c : Change g g') :
    Marked g' := by
  have t := tenancy_of_attained attained
  have keeps : ∀ {queue id}, (Abandoned g queue ∧ ∃ first, tenant? queue g.journal = some (id, first)) →
      Abandoned g' queue ∧ ∃ first, tenant? queue g'.journal = some (id, first) := by
    rintro queue id ⟨a, first, latest⟩
    obtain ⟨a', tenants, -⟩ := abandoned_of_change t a c
    exact ⟨a', first, tenants.trans latest⟩
  refine ⟨fun {queue e id} mem => ?_, fun {id before} now => ?_⟩
  · obtain ⟨news, all, each⟩ := arrivals_of_change (ledger_of_attained attained) c queue
    rw [all] at mem
    apply keeps
    rcases List.mem_append.1 mem with old | new
    · exact m.marked old
    · generalize same : Origin.closing id = origin at new
      cases each new with
      | request here target => exact absurd same (by simp)
      | keepalive due room =>
        subst same
        exact m.of_due attained due
  · rcases closed_of_change c now with same | ⟨service, members, serves, removed, registry, journal⟩
    · obtain ⟨queue, first, a, latest⟩ := m.due (same.symm.trans now)
      obtain ⟨a', first', latest'⟩ := keeps ⟨a, first, latest⟩
      exact ⟨queue, first', a', latest'⟩
    · have owner := (t.removed_iff serves).1 ⟨members, removed⟩
      obtain ⟨-, -, first, latest⟩ := t.entry_of_key? serves owner
      refine ⟨service.queue, first, ?_, ?_⟩
      · refine t.abandoned_of_left (tenancy_of_change t c) serves owner (by rw [registry]) ?_
        rw [registry, (Registry.deregister_frame g.registry _ _ _).2.1]
      · rw [journal]
        exact latest

theorem marked_of_attained (attained : Attained s g) : Marked g := by
  induction attained with
  | refl =>
    exact ⟨fun mem => absurd mem (by simp [start, enqueued]), fun now => absurd now (by simp [start])⟩
  | tail attained c ih => exact marked_of_change ih attained c

/-- The close marker of a session is taken by the session itself, or by one that had looked for a takeover
before this session registered, and that takes nothing else from the queue after that look. -/
theorem taker_of_marker (attained : Attained s g) {id other : SessionId} {queue : QueueId}
    {e : Envelope} {before : List Event} (taken : .taken other queue e :: before <:+ g.journal)
    (next : nextUp? queue before = some (e, .closing id)) :
    other = id ∨ ∃ earlier first, lastLook? other before = some earlier ∧
      tenant? queue earlier = some (other, first) ∧ dequeued queue before = dequeued queue earlier ∧
      ∀ service, .registered id service ∉ earlier := by
  induction attained with
  | refl => exact absurd taken (by simp [start])
  | @tail h g' attained c ih =>
    rcases taken_of_change c taken with earlier | ⟨rfl, t, service, first, here, serving, reaching,
      rfl, -, -⟩
    · exact ih earlier
    · obtain ⟨-, tenant, latest⟩ := (marked_of_attained attained).marked (List.mem_of_getElem? next)
      obtain ⟨earlier, tenant', look, latest', same⟩ := poised_of_attained attained _ _
        (service?_eq_some.2 ⟨t, here, serving⟩) reaching
      refine or_iff_not_imp_left.2 fun apart =>
        ⟨earlier, tenant', look, latest', same, fun service listed => apart ?_⟩
      -- had the session registered before the look, it would have been the last one then
      have seen : earlier <:+ h.journal := (List.suffix_cons _ _).trans (suffix_of_lastLook? look)
      have still := tenant_of_later attained List.suffix_rfl latest seen listed
      exact (Prod.mk.inj (Option.some.inj (latest'.symm.trans still))).1

end Marked

end Switchboard.Gateway
