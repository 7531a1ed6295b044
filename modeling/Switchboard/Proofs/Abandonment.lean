import Switchboard.Proofs.Ownership

/-!
# Queues that were left behind

When a connection that owns a node leaves the registry, its queue stays with the sessions that
registered on it. No registered node has the queue any more (`Abandoned`), and none will: nobody
registers on it again, so who registered on it last stays the last (`abandoned_of_changes`). A session
that is gone does not come back (`gone_of_changes`), so the queue closes for good when the last of its
sessions ends (`isOpen_of_abandoned`).
-/

set_option autoImplicit false

namespace Switchboard.Gateway

/-- A queue was made, and no registered node has it. -/
structure Abandoned (g : Gateway) (queue : QueueId) : Prop where
  made : queue < g.registry.queues.length
  free : g.registry.owns queue = false

section Abandoned

variable {s : Settings} {g g' : Gateway} {queue : QueueId}

/-! ## Nodes and their queues -/

theorem Tenancy.owns_of_get? (t : Tenancy g) {node : String} {entry : Entry}
    (registered : g.registry.nodes.get? node = some entry) :
    g.registry.owns entry.queue = true :=
  (Registry.owns_iff t.coherent _).2 ⟨node, entry, registered, rfl⟩

/-- A queue belongs to one node. -/
theorem Tenancy.queues_apart (t : Tenancy g) {a b : String} {p q : Entry}
    (first : g.registry.nodes.get? a = some p) (second : g.registry.nodes.get? b = some q)
    (shared : p.queue = q.queue) : a = b := by
  obtain ⟨owner, service, opening, serves, -, name, -, latest⟩ := t.owned first
  obtain ⟨owner', service', opening', serves', -, name', -, latest'⟩ := t.owned second
  rw [shared, latest'] at latest
  obtain ⟨rfl, -⟩ := Prod.mk.inj (Option.some.inj latest)
  obtain rfl := Option.some.inj (serves.symm.trans serves')
  exact name.symm.trans name'

/-- A node that is registered under the key of a session is the node of this session, which has not
closed and registered last on its queue. -/
theorem Tenancy.entry_of_key (t : Tenancy g) {id : SessionId} {service : Service} {node : String}
    {entry : Entry} (serves : g.service? id = some service)
    (registered : g.registry.nodes.get? node = some entry) (mine : entry.key = service.key) :
    service.closed = false ∧ service.identity.node = node ∧ service.entry = entry ∧
      ∃ first, tenant? service.queue g.journal = some (id, first) := by
  obtain ⟨owner, theirs, first, serves', opened, name, rfl, latest⟩ := t.owned registered
  obtain rfl := t.keysApart serves' serves mine
  obtain rfl := Option.some.inj (serves.symm.trans serves')
  exact ⟨opened, name, rfl, first, latest⟩

theorem Abandoned.queue_ne (a : Abandoned g queue) (t : Tenancy g) {node : String} {entry : Entry}
    (registered : g.registry.nodes.get? node = some entry) : entry.queue ≠ queue := by
  rintro rfl
  exact absurd ((t.owns_of_get? registered).symm.trans a.free) (by simp)

/-- A connection that registers does not get a queue that was left behind. -/
theorem Abandoned.queue_newService_ne (a : Abandoned g queue) (t : Tenancy g) (e : Envelope) :
    (g.newService e).queue ≠ queue := by
  unfold newService
  rcases t.register_cases e with ⟨entry, registered, made, -⟩ | ⟨-, made, -⟩
  · rw [made]
    exact a.queue_ne t registered
  · rw [made]
    exact Ne.symm (Nat.ne_of_lt a.made)

/-- A queue that no node has any more was left behind. -/
theorem Abandoned.of_entries (t : Tenancy g) (made : queue < g.registry.queues.length)
    (others : ∀ {node entry}, g.registry.nodes.get? node = some entry → entry.queue ≠ queue) :
    Abandoned g queue := by
  refine ⟨made, Bool.eq_false_iff.2 fun has => ?_⟩
  obtain ⟨node, entry, registered, same⟩ := (Registry.owns_iff t.coherent _).1 has
  exact others registered same

/-! ## Nobody comes back to them -/

/-- What was left behind stays so: no change registers anybody on the queue. -/
theorem abandoned_of_change (t : Tenancy g) (a : Abandoned g queue) (c : Change g g') :
    Abandoned g' queue ∧ tenant? queue g'.journal = tenant? queue g.journal ∧
      ∀ {id service}, .registered id service ∈ g'.journal → service.queue = queue →
        .registered id service ∈ g.journal := by
  have t' := tenancy_of_change t c
  cases reseating_of_change c with
  | @joins id e room registry journal =>
    have other := a.queue_newService_ne t e
    refine ⟨.of_entries t' ?_ fun {node entry} registered => ?_, ?_, fun {id' service} mem mine => ?_⟩
    · rw [registry]
      exact Nat.lt_of_lt_of_le a.made (t.queues_newRegistration e).1
    · rw [registry, newRegistration, Registry.nodes_register, Assoc.get?_insert] at registered
      split at registered
      · obtain rfl := Option.some.inj registered
        exact other
      · exact a.queue_ne t registered
    · rw [journal, tenant?, if_neg other]
    · rw [journal] at mem
      rcases List.mem_cons.1 mem with new | old
      · obtain ⟨-, rfl⟩ := Event.registered.inj new
        exact absurd mine other
      · exact old
  | @leaves id service current registry journal =>
    obtain ⟨-, queues, -⟩ := Registry.deregister_frame g.registry service.identity.group
      service.identity.node service.key
    refine ⟨.of_entries t' ?_ fun {node entry} registered => ?_, ?_, fun mem _ => ?_⟩
    · rw [registry, queues]
      exact a.made
    · rw [registry] at registered
      exact a.queue_ne t (Registry.get?_deregister registered).1
    · rw [journal]
      rfl
    · rw [journal] at mem
      exact (List.mem_cons.1 mem).resolve_left (by simp)
  | stay nodes made tenants registered =>
    refine ⟨⟨Nat.lt_of_lt_of_eq a.made made.symm, ?_⟩, tenants _, fun mem _ => registered mem⟩
    rw [Registry.owns, nodes]
    exact a.free

theorem abandoned_of_changes (attained : Attained s g) (a : Abandoned g queue)
    (run : Changes g g') :
    Abandoned g' queue ∧ tenant? queue g'.journal = tenant? queue g.journal ∧
      ∀ {id service}, .registered id service ∈ g'.journal → service.queue = queue →
        .registered id service ∈ g.journal := by
  induction run with
  | refl => exact ⟨a, rfl, fun mem _ => mem⟩
  | tail before c ih =>
    obtain ⟨a', tenants, registered⟩ := ih
    obtain ⟨a'', tenants', registered'⟩ :=
      abandoned_of_change (tenancy_of_attained (attained.trans before)) a' c
    exact ⟨a'', tenants'.trans tenants, fun mem mine => registered (registered' mem mine) mine⟩

/-! ## Nobody who is gone comes back -/

/-- A session that is over stays as it is. -/
theorem over_session_of_change (c : Change g g') {id : SessionId} {t : Session}
    (here : g.sessions[id]? = some t) (past : t.isLive = false) :
    ∃ t', g'.sessions[id]? = some t' ∧ t'.phase = t.phase := by
  obtain ⟨t', here', same | ⟨live, -⟩⟩ := phase_of_change c here
  · exact ⟨t', here', same⟩
  · exact absurd (past.symm.trans live) (by simp)

/-- A session that registered and does not serve its node any more never does again. -/
theorem gone_of_changes (attained : Attained s g) {id : SessionId} {first : Service}
    (registered : .registered id first ∈ g.journal) (gone : g.service? id = none)
    (run : Changes g g') : g'.service? id = none := by
  obtain ⟨-, t, here, past⟩ := registration_of_attained attained registered
  have stopped : t.isLive = false := by
    rw [service?_of_here here] at gone
    cases phase : t.phase with
    | greeting deadline => exact absurd past (by simp [Session.isGreeting, phase])
    | serving service => exact absurd gone (by simp [Session.service?, phase])
    | ended reason => simp [Session.isLive, phase]
    | brokenDown => simp [Session.isLive, phase]
  have stays : ∃ t', g'.sessions[id]? = some t' ∧ t'.phase = t.phase := by
    induction run with
    | refl => exact ⟨t, here, rfl⟩
    | tail before c ih =>
      obtain ⟨t', here', phase⟩ := ih
      obtain ⟨t'', here'', phase'⟩ :=
        over_session_of_change c here' (by rw [Session.isLive, phase]; exact stopped)
      exact ⟨t'', here'', phase'.trans phase⟩
  obtain ⟨t', here', phase⟩ := stays
  rw [service?_of_here here', Session.service?, phase]
  rw [service?_of_here here, Session.service?] at gone
  exact gone

/-- A session serves on the queue on which it registered. -/
theorem queue_of_service (attained : Attained s g) {id : SessionId} {service first : Service}
    (serves : g.service? id = some service) (registered : .registered id first ∈ g.journal) :
    service.queue = first.queue := by
  obtain ⟨first', listed, seat⟩ := (owned_of_attained attained).seats serves
  obtain rfl := registered_inj attained listed registered
  exact (Service.seat_eq_seat.1 seat).2.2.1.symm

theorem queue_of_tenant_service (attained : Attained s g) {id : SessionId} {service first : Service}
    (serves : g.service? id = some service)
    (latest : tenant? queue g.journal = some (id, first)) : service.queue = queue :=
  (queue_of_service attained serves (registered_of_tenant g.journal latest)).trans
    (queue_of_tenant g.journal latest)

/-- Who serves a queue that was left behind served it before. -/
theorem served_of_abandoned (attained : Attained s g) (a : Abandoned g queue) (run : Changes g g')
    {id : SessionId} {service : Service} (serves : g'.service? id = some service)
    (mine : service.queue = queue) :
    ∃ before, g.service? id = some before ∧ before.queue = queue := by
  obtain ⟨-, -, earlier⟩ := abandoned_of_changes attained a run
  obtain ⟨first, listed, -⟩ := (owned_of_attained (attained.trans run)).seats serves
  have same : first.queue = queue :=
    (queue_of_service (attained.trans run) serves listed).symm.trans mine
  have registered := earlier listed same
  cases before : g.service? id with
  | none =>
    exact absurd (serves.symm.trans (gone_of_changes attained registered before run)) (by simp)
  | some old => exact ⟨old, rfl, (queue_of_service attained before registered).trans same⟩

/-- A queue that was left behind is not opened again. -/
theorem isOpen_of_abandoned (attained : Attained s g) (a : Abandoned g queue) (run : Changes g g')
    (opened : g'.isOpen queue = true) : g.isOpen queue = true := by
  have t := tenancy_of_attained attained
  have t' := tenancy_of_attained (attained.trans run)
  obtain ⟨a', -⟩ := abandoned_of_changes attained a run
  rcases (isOpen_eq_true_iff t'.coherent queue).1 opened with
    ⟨node, entry, registered, same⟩ | ⟨id, service, serves, mine⟩
  · exact absurd same (a'.queue_ne t' registered)
  · obtain ⟨before, serves', mine'⟩ := served_of_abandoned attained a run serves mine
    exact (isOpen_eq_true_iff t.coherent queue).2 (Or.inr ⟨id, before, serves', mine'⟩)

/-! ## Who takes from them -/

/-- What was taken from a queue from one journal to a later one, and when. -/
theorem dequeued_of_suffix (queue : QueueId) {journal journal' : List Event}
    (later : journal <:+ journal') :
    ∃ news, dequeued queue journal' = dequeued queue journal ++ news ∧
      ∀ {i id e}, news[i]? = some (id, e) →
        ∃ before, journal <:+ before ∧ .taken id queue e :: before <:+ journal' ∧
          dequeued queue before = dequeued queue journal ++ news.take i := by
  obtain ⟨front, rfl⟩ := later
  induction front with
  | nil => exact ⟨[], (List.append_nil _).symm, fun here => absurd here (by simp)⟩
  | cons event front ih =>
    obtain ⟨news, all, each⟩ := ih
    -- all but the last event are there before
    have earlier : ∀ {i id e}, news[i]? = some (id, e) → ∃ before, journal <:+ before ∧
        .taken id queue e :: before <:+ event :: front ++ journal ∧
          dequeued queue before = dequeued queue journal ++ news.take i := by
      intro i id e here
      obtain ⟨before, after, taken, sofar⟩ := each here
      exact ⟨before, after, taken.trans (List.suffix_cons _ _), sofar⟩
    rw [List.cons_append]
    cases event with
    | taken other queue' e' =>
      rw [dequeued]
      split
      · rename_i same
        subst same
        refine ⟨news ++ [(other, e')], by rw [all, List.append_assoc], fun {i id e} here => ?_⟩
        rcases getElem?_concat_cases here with old | ⟨rfl, new⟩
        · obtain ⟨lt, -⟩ := List.getElem?_eq_some_iff.1 old
          rw [List.take_append_of_le_length (Nat.le_of_lt lt)]
          exact earlier old
        · obtain ⟨rfl, rfl⟩ := Prod.mk.inj new
          rw [List.take_left]
          exact ⟨front ++ journal, List.suffix_append _ _, List.suffix_rfl, all⟩
      · exact ⟨news, all, earlier⟩
    | _ => exact ⟨news, all, earlier⟩

/-- What was taken on the way of a run was taken by a sender that reached for its queue then. -/
theorem exists_taking (run : Changes g g') {id : SessionId} {e : Envelope} {before : List Event}
    (taken : .taken id queue e :: before <:+ g'.journal) (later : g.journal <:+ before) :
    ∃ h service, Changes g h ∧ Changes h g' ∧ h.journal = before ∧
      h.service? id = some service ∧ service.queue = queue ∧ service.sender = .reaching := by
  induction run with
  | refl =>
    have fewer := (taken.trans later).length_le
    exact absurd fewer (by simp)
  | @tail h g' run c ih =>
    rcases taken_of_change c taken with earlier |
      ⟨rfl, u, service, -, here, serving, reaching, queue, -⟩
    · obtain ⟨h', service, first, second, rest⟩ := ih earlier
      exact ⟨h', service, first, second.tail c, rest⟩
    · exact ⟨h, service, run, .single c, rfl, service?_eq_some.2 ⟨u, here, serving⟩, queue,
        reaching⟩

/-- From a queue that was left behind only sessions take that go on, and only the one that registered
last on it, except that another one which reaches for the queue already may take the first envelope. -/
theorem dequeued_of_abandoned (attained : Attained s g) (a : Abandoned g queue)
    (run : Changes g g') {id : SessionId} {first : Service}
    (latest : tenant? queue g.journal = some (id, first)) :
    ∃ news, dequeued queue g'.journal = dequeued queue g.journal ++ news ∧
      ∀ {i other e}, news[i]? = some (other, e) →
        ∃ service, g.service? other = some service ∧ service.queue = queue ∧
          (other = id ∨ i = 0 ∧ service.sender = .reaching) := by
  obtain ⟨news, all, each⟩ := dequeued_of_suffix queue (journal_of_changes run)
  refine ⟨news, all, fun {i other e} here => ?_⟩
  obtain ⟨before, after, taken, sofar⟩ := each here
  obtain ⟨h, service', run', rest, rfl, serves, queue', reaching⟩ := exists_taking run taken after
  obtain ⟨service, serves', mine⟩ := served_of_abandoned attained a run' serves queue'
  refine ⟨service, serves', mine, ?_⟩
  obtain ⟨-, tenants, -⟩ := abandoned_of_changes attained a run'
  obtain ⟨earlier, first', look, tenant, same⟩ :=
    poised_of_attained (attained.trans run') other service' serves reaching
  rw [queue'] at tenant same
  have seen : earlier <:+ h.journal := (List.suffix_cons _ _).trans (suffix_of_lastLook? look)
  -- a look after the queue was left behind sees the session that registered last
  have current : g.journal <:+ earlier → other = id := by
    intro since
    have still := tenant_of_later (attained.trans run') List.suffix_rfl (tenants.trans latest) seen
      (since.subset (registered_of_tenant g.journal latest))
    exact (Prod.mk.inj (Option.some.inj (tenant.symm.trans still))).1
  rcases List.suffix_or_suffix_of_suffix after seen with since | old
  · exact Or.inl (current since)
  · rcases reaching_of_changes run' serves reaching with
      ⟨before, serves'', -, reaching'⟩ | ⟨earlier', look', since⟩
    · -- nothing was taken since the look, which was before
      obtain rfl := Option.some.inj (serves'.symm.trans serves'')
      refine Or.inr ⟨?_, reaching'⟩
      obtain ⟨lt, -⟩ := List.getElem?_eq_some_iff.1 here
      have fewer := (dequeued_mono old queue).length_le
      rw [← same, sofar, List.length_append, List.length_take, Nat.min_eq_left (Nat.le_of_lt lt)]
        at fewer
      omega
    · obtain rfl := Option.some.inj (look.symm.trans look')
      exact Or.inl (current since)

end Abandoned

end Switchboard.Gateway
