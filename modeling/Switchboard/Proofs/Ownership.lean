import Switchboard.Config.Basic
import Switchboard.Proofs.Routing
import Switchboard.Proofs.Solo

/-!
# Who owns a node

The journal tells which session registered a node last (`registrar?`). The registry has the node
exactly as that session registered it, as long as the session serves it and has not done its closing
actions, and does not have it afterwards (`Owned.standing`). Whatever an older connection does, its
closing actions included, leaves the node alone.

Main results: `owned_of_attained`, `registered_iff_latest`.
-/

set_option autoImplicit false

namespace Switchboard

namespace Gateway

/-- The session with this name serves its node and has not done its closing actions. -/
def inOffice (g : Gateway) (id : SessionId) : Bool :=
  (g.service? id).any fun service => !service.closed

/-- The registry has every node as the latest connection registered it, if that one is in office. -/
structure Owned (g : Gateway) : Prop where
  standing : ∀ {node id first}, registrar? node g.journal = some (id, first) →
    g.registry.nodes.get? node = if g.inOffice id = true then some first.entry else none
  unknown : ∀ {node}, registrar? node g.journal = none → g.registry.nodes.get? node = none
  /-- A session serves its node under the identity and the key that it registered. -/
  seats : ∀ {id service}, g.service? id = some service →
    ∃ first, .registered id first ∈ g.journal ∧ first.seat = service.seat
  numbered : ∀ {id first}, .registered id first ∈ g.journal →
    ∃ n ≤ g.accepted, first.key = connectionKey first.identity.connTag n
  /-- No two sessions registered with the same key. -/
  keysApart : ∀ {a b p q}, .registered a p ∈ g.journal → .registered b q ∈ g.journal →
    p.key = q.key → a = b
  peopled : Registry.Peopled g.registry.groups
  /-- The closing actions that the journal tells of are those that were done. -/
  closings : ∀ {id service}, g.service? id = some service →
    (service.closed = true ↔ ∃ current, .closed id current ∈ g.journal)
  /-- Only sessions that registered do closing actions. -/
  closers : ∀ {id current}, .closed id current ∈ g.journal → ∃ first, .registered id first ∈ g.journal

section Owned

variable {g g' : Gateway}

theorem owned_start (s : Settings) : Owned (.start s) where
  standing latest := absurd latest (by simp [start, registrar?])
  unknown _ := rfl
  seats serves := absurd serves (by simp [start, service?])
  numbered mem := absurd mem (by simp [start])
  keysApart mem := absurd mem (by simp [start])
  peopled _ _ listed := absurd listed (by simp [start])
  closings serves := absurd serves (by simp [start, service?])
  closers mem := absurd mem (by simp [start])

/-- A session registers no more than once. -/
theorem registered_inj {s : Settings} (attained : Attained s g) {id : SessionId}
    {first second : Service} (listed : .registered id first ∈ g.journal)
    (listed' : .registered id second ∈ g.journal) : first = second := by
  obtain ⟨only, -⟩ := registration_of_attained attained listed
  obtain ⟨only', -⟩ := registration_of_attained attained listed'
  exact Option.some.inj (only.symm.trans only')

theorem inOffice_of_service? {id : SessionId} {service : Service}
    (serves : g.service? id = some service) : g.inOffice id = !service.closed := by
  rw [inOffice, serves, Option.any_some]

theorem inOffice_of_set {id : SessionId} {s t : Session} {service : Service}
    (here : g.sessions[id]? = some s) (sessions : g'.sessions = g.sessions.set id t)
    (serving : t.phase = .serving service) (id' : SessionId) :
    g'.inOffice id' = if id = id' then !service.closed else g.inOffice id' := by
  rw [inOffice, service?_of_set here sessions, Session.service?_eq_some.2 serving]
  split <;> rfl

/-- Nobody comes into office and nobody leaves it. -/
theorem Owned.frame (o : Owned g) (nodes : g'.registry.nodes = g.registry.nodes)
    (groups : g'.registry.groups = g.registry.groups)
    (offices : ∀ id, g'.inOffice id = g.inOffice id)
    (seats : ∀ {id service'}, g'.service? id = some service' →
      ∃ service, g.service? id = some service ∧ service'.seat = service.seat ∧
        service'.closed = service.closed)
    (accepted : g.accepted ≤ g'.accepted) (events : Uneventful g.journal g'.journal) :
    Owned g' where
  standing latest := by
    rw [events.registrars] at latest
    rw [nodes, offices]
    exact o.standing latest
  unknown none := by
    rw [events.registrars] at none
    rw [nodes]
    exact o.unknown none
  seats {id service'} serves := by
    obtain ⟨service, serves', seat, -⟩ := seats serves
    obtain ⟨first, mem, same⟩ := o.seats serves'
    exact ⟨first, events.registered.2 mem, same.trans seat.symm⟩
  numbered {id first} mem := by
    obtain ⟨n, le, named⟩ := o.numbered (events.registered.1 mem)
    exact ⟨n, Nat.le_trans le accepted, named⟩
  keysApart hp hq := o.keysApart (events.registered.1 hp) (events.registered.1 hq)
  peopled := by
    rw [groups]
    exact o.peopled
  closings {id service'} serves := by
    obtain ⟨service, serves', -, closed⟩ := seats serves
    rw [closed, o.closings serves']
    simp only [events.closed]
  closers mem := by
    obtain ⟨first, registered⟩ := o.closers (events.closed.1 mem)
    exact ⟨first, events.registered.2 registered⟩

/-- A session that changes its seat has registered it, and the others are where they were. -/
theorem Owned.seats_of_set (o : Owned g) {id : SessionId} {s t : Session} {service : Service}
    (here : g.sessions[id]? = some s) (sessions : g'.sessions = g.sessions.set id t)
    (serving : t.phase = .serving service)
    (kept : ∀ {event}, event ∈ g.journal → event ∈ g'.journal)
    (mine : ∃ first, .registered id first ∈ g'.journal ∧ first.seat = service.seat)
    {id' : SessionId} {service' : Service} (serves : g'.service? id' = some service') :
    ∃ first, .registered id' first ∈ g'.journal ∧ first.seat = service'.seat := by
  rcases service?_set_cases here sessions serving serves with ⟨rfl, rfl⟩ | ⟨-, before⟩
  · exact mine
  · obtain ⟨first, mem, same⟩ := o.seats before
    exact ⟨first, kept mem, same⟩

/-- A session does its closing actions: its node goes if it registered it last, and no other does. -/
theorem Owned.closed {s : Settings} (o : Owned g) (attained : Attained s g) {id : SessionId}
    {t : Session} {service : Service} (here : g.sessions[id]? = some t)
    (serving : t.phase = .serving service) (fresh : service.closed = false) (current : Bool) :
    Owned
      { g with
        registry :=
          (g.registry.deregister service.identity.group service.identity.node service.key).2
        sessions := g.sessions.set id { t with phase := .serving { service with closed := true } }
        journal := .closed id current :: g.journal } := by
  set g' : Gateway :=
    { g with
      registry :=
        (g.registry.deregister service.identity.group service.identity.node service.key).2
      sessions := g.sessions.set id { t with phase := .serving { service with closed := true } }
      journal := .closed id current :: g.journal } with def'
  have serves : g.service? id = some service := service?_eq_some.2 ⟨t, here, serving⟩
  obtain ⟨mine, listed, seat⟩ := o.seats serves
  obtain ⟨identity, key, -, -⟩ := Service.seat_eq_seat.1 seat
  have sessions : g'.sessions =
      g.sessions.set id { t with phase := .serving { service with closed := true } } := rfl
  have offices : ∀ id', g'.inOffice id' = if id = id' then false else g.inOffice id' :=
    inOffice_of_set here sessions rfl
  constructor
  case standing =>
    intro node id' first latest
    have before : registrar? node g.journal = some (id', first) := latest
    obtain ⟨mem, name⟩ := registered_of_registrar? before
    show (g.registry.deregister _ _ _).2.nodes.get? node = _
    rw [Registry.get?_deregister_eq, o.standing before, offices]
    by_cases same : id = id'
    · -- the closing session registered the node last, and registered no more than once
      subst same
      obtain rfl := registered_inj attained listed mem
      have owns : node = service.identity.node ∧ mine.entry.key = service.key ∧
          mine.entry.group = service.identity.group :=
        ⟨name.symm.trans (congrArg Identity.node identity), key, congrArg Identity.group identity⟩
      rw [inOffice_of_service? serves, fresh, if_pos rfl, if_pos (by rfl), Option.filter_some,
        decide_eq_true owns]
      rfl
    · -- another session did, whose key is another one
      rw [if_neg same]
      split
      · have apart : ¬ (node = service.identity.node ∧ first.entry.key = service.key ∧
            first.entry.group = service.identity.group) := fun owns =>
          same (o.keysApart listed mem (key.trans owns.2.1.symm))
        rw [Option.filter_some, decide_eq_false apart]
        rfl
      · rfl
  case unknown =>
    intro node none
    show (g.registry.deregister _ _ _).2.nodes.get? node = _
    rw [Registry.get?_deregister_eq, o.unknown none, Option.filter_none]
  case seats =>
    exact o.seats_of_set here sessions rfl (List.mem_cons_of_mem _)
      ⟨mine, List.mem_cons_of_mem _ listed, seat⟩
  case numbered =>
    intro id' first mem
    exact o.numbered ((List.mem_cons.1 mem).resolve_left (by simp))
  case keysApart =>
    intro a b p q hp hq
    exact o.keysApart ((List.mem_cons.1 hp).resolve_left (by simp))
      ((List.mem_cons.1 hq).resolve_left (by simp))
  case peopled => exact Registry.peopled_deregister o.peopled _ _ _
  case closings =>
    intro id' service' serves'
    rcases service?_set_cases here sessions rfl serves' with ⟨rfl, rfl⟩ | ⟨other, before⟩
    · exact ⟨fun _ => ⟨current, List.mem_cons_self⟩, fun _ => rfl⟩
    · rw [o.closings before]
      simp [def', other]
  case closers =>
    intro id' current' mem
    rcases List.mem_cons.1 mem with new | old
    · obtain ⟨rfl, -⟩ := Event.closed.inj new
      exact ⟨mine, List.mem_cons_of_mem _ listed⟩
    · obtain ⟨first, registered⟩ := o.closers old
      exact ⟨first, List.mem_cons_of_mem _ registered⟩

/-- The keys that were registered are not the key of the next connection, whatever its tag is. -/
theorem Owned.key_ne (o : Owned g) {id : SessionId} {first : Service}
    (listed : .registered id first ∈ g.journal) (e : Envelope) :
    first.key ≠ (g.newService e).key := by
  intro same
  obtain ⟨n, le, named⟩ := o.numbered listed
  have number : n = g.accepted + 1 := connectionKey_inj (named.symm.trans same)
  omega

/-- A session registers its node and is in office. -/
theorem Owned.enrolled {s : Settings} (o : Owned g) (attained : Attained s g) {id : SessionId}
    {t : Session} {deadline : Nat} (e : Envelope) (rest : List UInt8)
    (here : g.sessions[id]? = some t) (greeting : t.phase = .greeting deadline) :
    Owned
      { g with
        registry := (g.newRegistration e).2
        accepted := g.accepted + 1
        sessions :=
          g.sessions.set id { t with inbound := rest, phase := .serving (g.newService e) }
        journal := .registered id (g.newService e) :: g.journal } := by
  set g' : Gateway :=
    { g with
      registry := (g.newRegistration e).2
      accepted := g.accepted + 1
      sessions := g.sessions.set id { t with inbound := rest, phase := .serving (g.newService e) }
      journal := .registered id (g.newService e) :: g.journal } with def'
  have newcomer : ∀ first, .registered id first ∉ g.journal :=
    not_registered_of_greeting attained here greeting
  have sessions : g'.sessions =
      g.sessions.set id { t with inbound := rest, phase := .serving (g.newService e) } := rfl
  have offices : ∀ id', g'.inOffice id' = if id = id' then true else g.inOffice id' :=
    inOffice_of_set here sessions rfl
  have latest : ∀ node, registrar? node g'.journal =
      if (firstIdentity e).node = node then some (id, g.newService e)
      else registrar? node g.journal := fun _ => rfl
  have nodes : ∀ node, g'.registry.nodes.get? node =
      if (firstIdentity e).node = node then some (g.newService e).entry
      else g.registry.nodes.get? node := by
    intro node
    show (g.newRegistration e).2.nodes.get? node = _
    rw [newRegistration, Registry.nodes_register, Assoc.get?_insert]
    rfl
  constructor
  case standing =>
    intro node id' first registrar
    rw [latest] at registrar
    rw [nodes, offices]
    split at registrar
    · rename_i name
      obtain ⟨rfl, rfl⟩ := Prod.mk.inj (Option.some.inj registrar)
      rw [if_pos name, if_pos rfl, if_pos rfl]
    · rename_i other
      have apart : id ≠ id' := by
        rintro rfl
        exact newcomer _ (registered_of_registrar? registrar).1
      rw [if_neg other, if_neg apart]
      exact o.standing registrar
  case unknown =>
    intro node none
    rw [latest] at none
    rw [nodes]
    split at none
    · exact absurd none (by simp)
    · rename_i other
      rw [if_neg other, o.unknown none]
  case seats =>
    exact o.seats_of_set here sessions rfl (List.mem_cons_of_mem _) ⟨_, List.mem_cons_self, rfl⟩
  case numbered =>
    intro id' first mem
    rcases List.mem_cons.1 mem with new | old
    · obtain ⟨rfl, rfl⟩ := Event.registered.inj new
      exact ⟨g.accepted + 1, Nat.le_refl _, rfl⟩
    · obtain ⟨n, le, named⟩ := o.numbered old
      exact ⟨n, Nat.le_succ_of_le le, named⟩
  case keysApart =>
    intro a b p q hp hq same
    rcases List.mem_cons.1 hp with newp | oldp
    · rcases List.mem_cons.1 hq with newq | oldq
      · exact (Event.registered.inj newp).1.trans (Event.registered.inj newq).1.symm
      · obtain ⟨-, rfl⟩ := Event.registered.inj newp
        exact absurd same.symm (o.key_ne oldq e)
    · rcases List.mem_cons.1 hq with newq | oldq
      · obtain ⟨-, rfl⟩ := Event.registered.inj newq
        exact absurd same (o.key_ne oldp e)
      · exact o.keysApart oldp oldq same
  case peopled => exact Registry.peopled_register o.peopled _ _ _
  case closings =>
    intro id' service' serves'
    have old : ∀ {current}, .closed id' current ∈ g'.journal ↔
        .closed id' current ∈ g.journal := by
      intro current
      simp [def']
    simp only [old]
    rcases service?_set_cases here sessions rfl serves' with ⟨rfl, rfl⟩ | ⟨-, before⟩
    -- it has never closed, because it did not register before
    · refine ⟨fun closed => absurd closed (by simp [newService]), ?_⟩
      rintro ⟨current, mem⟩
      obtain ⟨first, registered⟩ := o.closers mem
      exact absurd registered (newcomer first)
    · exact o.closings before
  case closers =>
    intro id' current mem
    obtain ⟨first, registered⟩ := o.closers ((List.mem_cons.1 mem).resolve_left (by simp))
    exact ⟨first, List.mem_cons_of_mem _ registered⟩

/-- No session changes what it does. -/
theorem Owned.of_services (o : Owned g) (services : ∀ id, g'.service? id = g.service? id)
    (nodes : g'.registry.nodes = g.registry.nodes)
    (groups : g'.registry.groups = g.registry.groups) (accepted : g.accepted ≤ g'.accepted)
    (events : Uneventful g.journal g'.journal) : Owned g' := by
  refine o.frame nodes groups (fun id => ?_) ?_ accepted events
  · rw [inOffice, services, inOffice]
  · intro id service' serves
    exact ⟨service', (services id).symm.trans serves, rfl, rfl⟩

/-- One session goes on in its seat, and the others are as they were. -/
theorem Owned.goes_on (o : Owned g) {id : SessionId} {s t : Session} {service service' : Service}
    (here : g.sessions[id]? = some s) (serving : s.phase = .serving service)
    (sessions : g'.sessions = g.sessions.set id t) (phase : t.phase = .serving service')
    (seat : service'.seat = service.seat) (closed : service'.closed = service.closed)
    (nodes : g'.registry.nodes = g.registry.nodes)
    (groups : g'.registry.groups = g.registry.groups) (accepted : g.accepted ≤ g'.accepted)
    (events : Uneventful g.journal g'.journal) : Owned g' := by
  have serves : g.service? id = some service := service?_eq_some.2 ⟨s, here, serving⟩
  refine o.frame nodes groups (fun id' => ?_) ?_ accepted events
  · rw [inOffice_of_set here sessions phase]
    split
    · rename_i same
      rw [← same, inOffice_of_service? serves, closed]
    · rfl
  · intro id' other serves'
    rcases service?_set_cases here sessions phase serves' with ⟨rfl, rfl⟩ | ⟨-, before⟩
    · exact ⟨service, serves, seat, closed⟩
    · exact ⟨other, before, rfl, rfl⟩

/-- A session that has done its closing actions ends. -/
theorem Owned.ended (o : Owned g) {id : SessionId} {s t : Session} {service : Service}
    (here : g.sessions[id]? = some s) (serving : s.phase = .serving service)
    (past : service.closed = true) (sessions : g'.sessions = g.sessions.set id t)
    (gone : t.service? = none) (nodes : g'.registry.nodes = g.registry.nodes)
    (groups : g'.registry.groups = g.registry.groups) (accepted : g.accepted ≤ g'.accepted)
    (events : Uneventful g.journal g'.journal) : Owned g' := by
  have serves : g.service? id = some service := service?_eq_some.2 ⟨s, here, serving⟩
  have after : ∀ id', g'.service? id' = if id = id' then none else g.service? id' := by
    intro id'
    rw [service?_of_set here sessions, gone]
  refine o.frame nodes groups (fun id' => ?_) ?_ accepted events
  · rw [inOffice, after]
    split
    · rename_i same
      rw [← same, inOffice_of_service? serves, past]
      rfl
    · rfl
  · intro id' service' serves'
    rw [after] at serves'
    split at serves'
    · exact absurd serves' (by simp)
    · exact ⟨service', serves', rfl, rfl⟩

theorem Owned.letIn (o : Owned g) (waiting : Option DispatchId) (queue : QueueId) :
    Owned (g.letIn waiting queue) :=
  o.of_services (service?_letIn _ _) (by rw [registry_letIn]) (by rw [registry_letIn])
    (Nat.le_of_eq (accepted_letIn _ _).symm) (uneventful_letIn _ _ _)

/-- A dispatch that waits for room no more touches no node. -/
theorem Owned.withdraw (o : Owned g) (id : DispatchId) (d : Dispatch) : Owned (g.withdraw id d) := by
  obtain ⟨queues, -, registry⟩ := OnlyQueues.withdraw g id d
  exact o.of_services (fun _ => rfl) (by rw [registry]) (by rw [registry]) (Nat.le_refl _) (.refl _)

/-- Every change keeps the registry with the latest connections. -/
theorem owned_of_change {s : Settings} (o : Owned g) (attained : Attained s g) (c : Change g g') :
    Owned g' := by
  have le := Nat.le_refl g.accepted
  -- what happens around the sessions
  have quiet : ∀ {h : Gateway}, (∀ id, h.service? id = g.service? id) →
      h.registry.nodes = g.registry.nodes → h.registry.groups = g.registry.groups →
      g.accepted ≤ h.accepted → Uneventful g.journal h.journal → Owned h := o.of_services
  -- only registering and closing say who has a node
  cases c with
  | aside drops later stops => exact quiet (fun _ => rfl) rfl rfl le (.refl _)
  | tallied r number => exact quiet (fun _ => rfl) rfl rfl le (.cons _ (by simp) (by simp))
  | published r number => exact quiet (fun _ => rfl) rfl rfl le (.cons _ (by simp) (by simp))
  | stilled id => exact quiet (fun _ => rfl) rfl rfl le (.cons _ (by simp) (by simp))
  | connected greeting inbound outbound =>
    exact quiet (service?_of_connected (service?_of_greeting greeting) rfl) rfl rfl le (.refl _)
  | streamed here phase inbound outbound =>
    refine quiet (service?_of_set_same here rfl ?_) rfl rfl le (.refl _)
    rw [Session.service?, Session.service?, phase]
  | dismissed reason here greeting =>
    exact quiet (service?_of_set_same here rfl (service?_of_greeting greeting).symm) rfl rfl le
      (.cons _ (by simp) (by simp))
  | broke here greeting =>
    exact quiet (service?_of_set_same here rfl (service?_of_greeting greeting).symm) rfl rfl
      (Nat.le_succ _) (.refl _)
  | enrolled e rest here greeting room => exact o.enrolled attained e rest here greeting
  | heeded here serving read aside =>
    exact o.goes_on here serving rfl rfl rfl rfl rfl rfl le (.cons _ (by simp) (by simp))
  | answered here serving read plain handed =>
    exact o.goes_on here serving rfl rfl rfl rfl rfl rfl le
      (.trans (.cons _ (by simp) (by simp)) (.cons _ (by simp) (by simp)))
  | unanswered here serving read plain missed =>
    exact o.goes_on here serving rfl rfl rfl rfl rfl rfl le (.cons _ (by simp) (by simp))
  | closed current here serving fresh report => exact o.closed attained here serving fresh current
  | offered origin live due pushed =>
    exact quiet (fun _ => rfl) rfl rfl le (.cons _ (by simp) (by simp))
  | ended reason here serving past =>
    exact o.ended here serving past rfl rfl rfl rfl le (.cons _ (by simp) (by simp))
  | acquired here serving waiting free =>
    exact o.goes_on here serving rfl rfl rfl rfl rfl rfl le (.refl _)
  | retired here serving between notified =>
    exact o.goes_on here serving rfl rfl rfl rfl rfl rfl le (.refl _)
  | looked here serving idle current =>
    exact o.goes_on here serving rfl rfl rfl rfl rfl rfl le (.cons _ (by simp) (by simp))
  | missed here serving reaching empty =>
    exact o.goes_on here serving rfl rfl rfl rfl rfl rfl le (.refl _)
  | took here serving reaching popped encoded =>
    refine Owned.letIn ?_ _ _
    exact o.goes_on here serving rfl rfl rfl rfl rfl rfl le (.cons _ (by simp) (by simp))
  | @skipped id s service taken cause here serving reaching popped unwritable =>
    have popped := Owned.letIn (g := { g with
        registry := g.registry.setQueue service.queue taken.queue
        sessions := g.sessions.set id { s with phase := .serving { service with sender := .idle } }
        journal := .taken id service.queue taken.frame :: g.journal })
      (o.goes_on here serving rfl rfl rfl rfl rfl rfl le (.cons _ (by simp) (by simp)))
      taken.served service.queue
    exact popped.of_services (fun _ => rfl) rfl rfl (Nat.le_refl _) (.cons _ (by simp) (by simp))
  | wrote here serving writing pos room fits whole =>
    exact o.goes_on here serving rfl rfl rfl rfl rfl rfl le (.cons _ (by simp) (by simp))
  | begun group e timeout opened seen =>
    exact quiet (fun _ => rfl) rfl rfl le (.cons _ (by simp) (by simp))
  | collided group e timeout taken =>
    exact quiet (fun _ => rfl) rfl rfl le (.cons _ (by simp) (by simp))
  | resolved here verdict =>
    exact (o.withdraw _ _).of_services (fun _ => rfl) rfl rfl le (.cons _ (by simp) (by simp))
  | concluded here certain =>
    exact quiet (fun _ => rfl) rfl rfl le (.cons _ (by simp) (by simp))
  | forsaken here live undecided =>
    exact (o.withdraw _ _).of_services (fun _ => rfl) rfl rfl le (.cons _ (by simp) (by simp))
  | placed here placing among live pushed =>
    exact quiet (fun _ => rfl) rfl rfl le (.cons _ (by simp) (by simp))
  | joined here placing among others live full => exact quiet (fun _ => rfl) rfl rfl le (.refl _)
  | passed here placing among others shut => exact quiet (fun _ => rfl) rfl rfl le (.refl _)
  | movedOn here blocked shut => exact quiet (fun _ => rfl) rfl rfl le (.refl _)

theorem owned_of_attained {s : Settings} (h : Attained s g) : Owned g := by
  induction h with
  | refl => exact owned_start s
  | tail attained c ih => exact owned_of_change ih attained c

end Owned

/-! ## What a change does to the registered nodes -/

/-- Only a session that registers and a session that closes change which nodes are registered. -/
inductive Reseating (g g' : Gateway) : Prop
  | joins {id : SessionId} (e : Envelope)
      (room : g.registry.canRegister (firstIdentity e).node = true)
      (registry : g'.registry = (g.newRegistration e).2)
      (journal : g'.journal = .registered id (g.newService e) :: g.journal) : Reseating g g'
  | leaves {id : SessionId} {service : Service} (current : Bool)
      (registry : g'.registry = (g.registry.deregister service.identity.group
        service.identity.node service.key).2)
      (journal : g'.journal = .closed id current :: g.journal) : Reseating g g'
  | stay (nodes : g'.registry.nodes = g.registry.nodes)
      (made : g'.registry.queues.length = g.registry.queues.length)
      (tenants : ∀ queue, tenant? queue g'.journal = tenant? queue g.journal)
      (registered : ∀ {id service}, .registered id service ∈ g'.journal →
        .registered id service ∈ g.journal) : Reseating g g'

theorem reseating_of_change {g g' : Gateway} (c : Change g g') : Reseating g g' := by
  have queues : OnlyQueues g.registry g'.registry →
      (∀ queue, tenant? queue g'.journal = tenant? queue g.journal) →
      (∀ {id service}, .registered id service ∈ g'.journal →
        .registered id service ∈ g.journal) → Reseating g g' := by
    rintro ⟨queues, length, eq⟩ tenants registered
    refine .stay ?_ ?_ tenants registered
    · rw [eq]
    · rw [eq]
      exact length
  cases c with
  | enrolled e rest here greeting room => exact .joins e room rfl rfl
  | closed current here serving fresh report => exact .leaves current rfl rfl
  | retired here serving between notified => exact .stay rfl rfl (fun _ => rfl) fun mem => mem
  | took here serving reaching popped encoded =>
    refine queues ?_ (tenant?_letIn _ _) fun mem =>
      (List.mem_cons.1 (registered_of_letIn mem)).resolve_left (by simp)
    rw [registry_letIn]
    exact .setQueue _ _ _
  | skipped here serving reaching popped unwritable =>
    refine queues ?_ (tenant?_letIn _ _) fun mem => ?_
    · show OnlyQueues _ (Gateway.registry (letIn _ _ _))
      rw [registry_letIn]
      exact .setQueue _ _ _
    · have earlier := registered_of_letIn ((List.mem_cons.1 mem).resolve_left (by simp))
      exact (List.mem_cons.1 earlier).resolve_left (by simp)
  | resolved here verdict =>
    exact queues (.withdraw g _ _) (fun _ => rfl) fun mem => by simpa using mem
  | forsaken here live undecided =>
    exact queues (.withdraw g _ _) (fun _ => rfl) fun mem => by simpa using mem
  | _ =>
    refine queues ?_ (fun _ => rfl) fun mem => by simpa [started] using mem
    first | exact .refl _ | exact .setQueue _ _ _

/-! ## The latest connection -/

/-- The session registered the node last, goes on, and has not done its closing actions. -/
structure Incumbent (g : Gateway) (node : String) (id : SessionId) (first : Service) : Prop where
  latest : registrar? node g.journal = some (id, first)
  running : (g.sessions[id]?).any (·.isLive) = true
  active : ∀ current, .closed id current ∉ g.journal

section Incumbent

variable {s : Settings} {g g' : Gateway} {node : String}

/-- A session that registered is in office as long as it goes on and has not closed. -/
theorem inOffice_iff (attained : Attained s g) {id : SessionId} {first : Service}
    (listed : .registered id first ∈ g.journal) :
    g.inOffice id = true ↔
      (g.sessions[id]?).any (·.isLive) = true ∧ ∀ current, .closed id current ∉ g.journal := by
  obtain ⟨-, t, here, past⟩ := registration_of_attained attained listed
  rw [here, Option.any_some]
  cases phase : t.phase with
  | greeting deadline => exact absurd past (by simp [Session.isGreeting, phase])
  | serving service =>
    have serves := service?_eq_some.2 ⟨t, here, phase⟩
    have closings := (owned_of_attained attained).closings serves
    rw [inOffice_of_service? serves, Bool.not_eq_true', ← Bool.not_eq_true, closings, not_exists]
    simp [Session.isLive, phase]
  | ended reason => simp [inOffice, service?, here, Session.service?, Session.isLive, phase]
  | brokenDown => simp [inOffice, service?, here, Session.service?, Session.isLive, phase]

/-- The registry has a node exactly as its incumbent registered it. -/
theorem get?_eq_some_iff_incumbent (attained : Attained s g) {entry : Entry} :
    g.registry.nodes.get? node = some entry ↔
      ∃ id first, Incumbent g node id first ∧ first.entry = entry := by
  have owned := owned_of_attained attained
  constructor
  · intro registered
    cases latest : registrar? node g.journal with
    | none => exact absurd (registered.symm.trans (owned.unknown latest)) (by simp)
    | some pair =>
      obtain ⟨id, first⟩ := pair
      rw [owned.standing latest] at registered
      split at registered
      · rename_i office
        obtain ⟨running, active⟩ :=
          (inOffice_iff attained (registered_of_registrar? latest).1).1 office
        exact ⟨id, first, ⟨latest, running, active⟩, Option.some.inj registered⟩
      · exact absurd registered (by simp)
  · rintro ⟨id, first, incumbent, rfl⟩
    have office := (inOffice_iff attained (registered_of_registrar? incumbent.latest).1).2
      ⟨incumbent.running, incumbent.active⟩
    rw [owned.standing incumbent.latest, if_pos office]

theorem key?_eq_some_iff (attained : Attained s g) {key : String} :
    g.registry.key? node = some key ↔
      ∃ id first, Incumbent g node id first ∧ first.key = key := by
  rw [Registry.key?, Option.map_eq_some_iff]
  simp only [get?_eq_some_iff_incumbent attained]
  constructor
  · rintro ⟨entry, ⟨id, first, incumbent, rfl⟩, rfl⟩
    exact ⟨id, first, incumbent, rfl⟩
  · rintro ⟨id, first, incumbent, rfl⟩
    exact ⟨_, ⟨id, first, incumbent, rfl⟩, rfl⟩

theorem mem_members_iff_incumbent (attained : Attained s g) {group : String} :
    node ∈ g.registry.members group ↔
      ∃ id first, Incumbent g node id first ∧ first.identity.group = group := by
  rw [Registry.mem_members_iff (tenancy_of_attained attained).coherent]
  simp only [get?_eq_some_iff_incumbent attained]
  constructor
  · rintro ⟨entry, ⟨id, first, incumbent, rfl⟩, rfl⟩
    exact ⟨id, first, incumbent, rfl⟩
  · rintro ⟨id, first, incumbent, rfl⟩
    exact ⟨_, ⟨id, first, incumbent, rfl⟩, rfl⟩

theorem isReady_iff (attained : Attained s g) (c : Config) :
    c.isReady g = true ↔
      ∀ group ∈ c.groups, ∃ node id first, Incumbent g node id first ∧
        first.identity.group = group := by
  rw [Config.isReady, List.all_eq_true]
  refine forall₂_congr fun group _ => ?_
  have members := fun node => Registry.mem_members_iff (tenancy_of_attained attained).coherent
    group node
  rw [Registry.hasMembers_iff (tenancy_of_attained attained).coherent
    (owned_of_attained attained).peopled]
  simp only [← members, mem_members_iff_incumbent attained]

/-- The incumbent serves the node in the seat that it registered, and has not closed. -/
theorem Incumbent.serves (attained : Attained s g) {id : SessionId} {first : Service}
    (incumbent : Incumbent g node id first) :
    ∃ service, g.service? id = some service ∧ service.seat = first.seat ∧
      service.closed = false := by
  obtain ⟨latest, running, active⟩ := incumbent
  have listed := (registered_of_registrar? latest).1
  have office := (inOffice_iff attained listed).2 ⟨running, active⟩
  rw [inOffice, Option.any_eq_true_iff_get] at office
  obtain ⟨serves, opened⟩ := office
  obtain ⟨service, serves⟩ := Option.isSome_iff_exists.1 serves
  obtain ⟨mine, listed', seat⟩ := (owned_of_attained attained).seats serves
  obtain rfl := registered_inj attained listed' listed
  exact ⟨service, serves, seat.symm, by simpa [serves] using opened⟩

/-- What another session does leaves the node with the connection that registered it last. -/
theorem get?_of_solo (attained : Attained s g) (attained' : Attained s g') {old id : SessionId}
    {first : Service} (solo : Solo old g g')
    (latest : registrar? node g.journal = some (id, first)) (other : id ≠ old) :
    g'.registry.nodes.get? node = g.registry.nodes.get? node := by
  have after := (solo.registrars node).trans latest
  rw [(owned_of_attained attained').standing after, (owned_of_attained attained).standing latest,
    inOffice, service?, solo.others other, inOffice, service?]

end Incumbent

/-- A node is registered under the key of a connection exactly if that connection registered it last,
goes on and has not done its closing actions; it is in the group that this connection named, and in
no other. That connection serves the node under the key and the identity it registered, and the key
tells the connection. So an older connection never evicts or alters a newer one,
whatever it does and whenever, an ended session is never registered, and the gateway is ready
exactly if every configured group has such a connection. -/
theorem registered_iff_latest {s : Settings} {g : Gateway} (h : Reachable s g) :
    (∀ node key, g.registry.key? node = some key ↔
      ∃ id first, Incumbent g node id first ∧ first.key = key) ∧
    (∀ node group, node ∈ g.registry.members group ↔
      ∃ id first, Incumbent g node id first ∧ first.identity.group = group) ∧
    (∀ {node id first}, Incumbent g node id first →
      ∃ service, g.service? id = some service ∧ service.seat = first.seat ∧
        service.closed = false) ∧
    (∀ {a b p q}, .registered a p ∈ g.journal → .registered b q ∈ g.journal → p.key = q.key →
      a = b ∧ p = q) ∧
    (∀ {old m g'}, m ∈ sessionMoves old → m ≠ .greet old → g.move? m = some g' →
      ∀ {node id first}, registrar? node g.journal = some (id, first) → id ≠ old →
        g'.sessions[id]? = g.sessions[id]? ∧
        g'.registry.nodes.get? node = g.registry.nodes.get? node ∧
        ∀ group, node ∈ g'.registry.members group ↔ node ∈ g.registry.members group) ∧
    (∀ {id t first}, g.sessions[id]? = some t → t.isLive = false →
      .registered id first ∈ g.journal → ∀ node, g.registry.key? node ≠ some first.key) ∧
    (∀ c : Config, c.isReady g = true ↔
      ∀ group ∈ c.groups, ∃ node id first, Incumbent g node id first ∧
        first.identity.group = group) := by
  have attained := attained_of_reachable h
  have unique : ∀ {a b p q}, .registered a p ∈ g.journal → .registered b q ∈ g.journal →
      p.key = q.key → a = b ∧ p = q := by
    intro a b p q listed listed' same
    obtain rfl := (owned_of_attained attained).keysApart listed listed' same
    exact ⟨rfl, registered_inj attained listed listed'⟩
  refine ⟨fun _ _ => key?_eq_some_iff attained, fun _ _ => mem_members_iff_incumbent attained,
    fun incumbent => incumbent.serves attained, unique, ?_, ?_, isReady_iff attained⟩
  -- the moves of another session tell of no registration and leave this session as it is
  · intro old m g' mem later step node id first latest other
    have attained' := attained_of_reachable (.move m h step)
    have solo := solo_of_move mem later step
    have same := get?_of_solo attained attained' solo latest other
    refine ⟨solo.others other, same, fun group => ?_⟩
    rw [Registry.mem_members_iff (tenancy_of_attained attained').coherent,
      Registry.mem_members_iff (tenancy_of_attained attained).coherent, same]
  -- whoever has the key is the incumbent, and goes on
  · intro id t first here stopped listed node registered
    obtain ⟨id', first', incumbent, key⟩ := (key?_eq_some_iff attained).1 registered
    obtain ⟨rfl, -⟩ := unique (registered_of_registrar? incumbent.latest).1 listed key
    have running := incumbent.running
    rw [here, Option.any_some, stopped] at running
    exact absurd running (by simp)

/-- A node connects twice, and then the first of its streams ends. -/
def reconnectRun : List Action :=
  join 0 100 keepaliveFrame ++ join 1 100 keepaliveFrame ++
    [.input (.closeWrite 0), .move (.receive 0), .move (.receive 0)]

/-- The end of the older stream leaves the node with the newer one. -/
theorem registered_iff_latest_reconnectRun :
    Reachable sample (play sample reconnectRun) ∧
      ((play sample reconnectRun).sessions[0]?).map (·.isLive) = some false ∧
      (play sample reconnectRun).registry.key? "default_node" = some "default_conn-2" ∧
      ∃ id first, Incumbent (play sample reconnectRun) "default_node" id first ∧
        first.key = "default_conn-2" := by
  have registered : (play sample reconnectRun).registry.key? "default_node" =
      some "default_conn-2" := by
    decide +kernel
  refine ⟨reachable_play _ _, by decide +kernel, registered, ?_⟩
  exact ((registered_iff_latest (reachable_play sample reconnectRun)).1 _ _).1 registered

end Gateway

end Switchboard
