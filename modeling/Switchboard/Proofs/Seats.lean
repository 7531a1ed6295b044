import Switchboard.Proofs.Change
import Switchboard.Proofs.Registration

/-!
# What sessions do for their nodes

The part that a session plays for a node (`Gateway.service?`), who registered last on a queue
(`Gateway.tenant?`), and the changes of a gateway that leave everybody's seat alone
(`Gateway.Undisturbed`): nobody registers, nobody who owns a node leaves, no signal is touched.
-/

set_option autoImplicit false

namespace Switchboard

/-- The part that a session plays for a node, if it plays one. -/
def Session.service? (s : Session) : Option Service :=
  match s.phase with
  | .serving service => some service
  | _ => none

theorem Session.service?_eq_some {s : Session} {service : Service} :
    s.service? = some service ↔ s.phase = .serving service := by
  unfold Session.service?
  cases s.phase <;> simp

/-- What stays of a service as long as its session goes on. -/
def Service.seat (service : Service) : Service :=
  { service with closed := false, sender := .waiting, first := none }

/-- What the registry knows of a node while this connection owns it. -/
def Service.entry (service : Service) : Entry :=
  ⟨service.identity.group, service.key, service.queue, service.signal⟩

theorem Service.seat_eq_seat {a b : Service} :
    a.seat = b.seat ↔
      a.identity = b.identity ∧ a.key = b.key ∧ a.queue = b.queue ∧ a.signal = b.signal := by
  simp [Service.seat]

namespace Gateway

/-- The part that the session with this name plays for a node, if it plays one. -/
def service? (g : Gateway) (id : SessionId) : Option Service :=
  (g.sessions[id]?).bind Session.service?

/-- The latest registration on a queue that a journal tells of. -/
def tenant? (queue : QueueId) : List Event → Option (SessionId × Service)
  | [] => none
  | .registered id service :: before =>
    if service.queue = queue then some (id, service) else tenant? queue before
  | _ :: before => tenant? queue before

/-- The latest registration of a session that a journal tells of. -/
def registration? (id : SessionId) : List Event → Option Service
  | [] => none
  | .registered other service :: before =>
    if other = id then some service else registration? id before
  | _ :: before => registration? id before

section Services

variable {g g' : Gateway} {id id' : SessionId} {s t : Session} {service : Service}

theorem service?_eq_some :
    g.service? id = some service ↔
      ∃ s, g.sessions[id]? = some s ∧ s.phase = .serving service := by
  unfold service?
  rw [Option.bind_eq_some_iff]
  simp only [Session.service?_eq_some]

theorem service?_of_here (here : g.sessions[id]? = some s) : g.service? id = s.service? := by
  unfold service?
  rw [here, Option.bind_some]

theorem service?_of_set (here : g.sessions[id]? = some s) (sessions : g'.sessions = g.sessions.set id t)
    (id' : SessionId) :
    g'.service? id' = if id = id' then t.service? else g.service? id' := by
  obtain ⟨lt, -⟩ := List.getElem?_eq_some_iff.1 here
  unfold service?
  rw [sessions, List.getElem?_set]
  by_cases same : id = id'
  · rw [if_pos same, if_pos same, if_pos lt, Option.bind_some]
  · rw [if_neg same, if_neg same]

/-- Who serves after a session has changed is that session, or served before. -/
theorem service?_set_cases (here : g.sessions[id]? = some s)
    (sessions : g'.sessions = g.sessions.set id t) {service : Service}
    (serving : t.phase = .serving service) {id' : SessionId} {service' : Service}
    (serves : g'.service? id' = some service') :
    id' = id ∧ service' = service ∨ id' ≠ id ∧ g.service? id' = some service' := by
  rw [service?_of_set here sessions, Session.service?_eq_some.2 serving] at serves
  by_cases same : id = id'
  · rw [if_pos same] at serves
    exact Or.inl ⟨same.symm, (Option.some.inj serves).symm⟩
  · rw [if_neg same] at serves
    exact Or.inr ⟨Ne.symm same, serves⟩

theorem isOpen_eq_true_iff (coherent : g.registry.Coherent) (queue : QueueId) :
    g.isOpen queue = true ↔
      (∃ node entry, g.registry.nodes.get? node = some entry ∧ entry.queue = queue) ∨
        ∃ id service, g.service? id = some service ∧ service.queue = queue := by
  unfold isOpen
  rw [Bool.or_eq_true, Registry.owns_iff coherent, List.any_eq_true]
  refine or_congr Iff.rfl ⟨?_, ?_⟩
  · rintro ⟨s, mem, has⟩
    obtain ⟨id, lt, rfl⟩ := List.getElem_of_mem mem
    cases phase : g.sessions[id].phase with
    | serving service =>
      rw [phase] at has
      exact ⟨id, service, service?_eq_some.2 ⟨_, List.getElem?_eq_getElem lt, phase⟩,
        by simpa using has⟩
    | greeting deadline => simp [phase] at has
    | ended reason => simp [phase] at has
    | brokenDown => simp [phase] at has
  · rintro ⟨id, service, serves, same⟩
    obtain ⟨s, here, phase⟩ := service?_eq_some.1 serves
    exact ⟨s, List.mem_of_getElem? here, by simpa [phase] using same⟩

theorem held_eq_true_iff (queue : QueueId) :
    g.held queue = true ↔
      ∃ id service, g.service? id = some service ∧ service.queue = queue ∧
        service.sender.holds = true := by
  unfold held
  rw [List.any_eq_true]
  constructor
  · rintro ⟨s, mem, has⟩
    obtain ⟨id, lt, rfl⟩ := List.getElem_of_mem mem
    cases phase : g.sessions[id].phase with
    | serving service =>
      rw [phase] at has
      exact ⟨id, service, service?_eq_some.2 ⟨_, List.getElem?_eq_getElem lt, phase⟩,
        by simpa using has⟩
    | greeting deadline => simp [phase] at has
    | ended reason => simp [phase] at has
    | brokenDown => simp [phase] at has
  · rintro ⟨id, service, serves, same⟩
    obtain ⟨s, here, phase⟩ := service?_eq_some.1 serves
    exact ⟨s, List.mem_of_getElem? here, by simpa [phase] using same⟩

end Services

/-! ## Changes that leave everybody in place -/

/-- Registries that differ at most in what is on their queues. -/
def OnlyQueues (r r' : Registry DispatchId) : Prop :=
  ∃ queues, queues.length = r.queues.length ∧ r' = { r with queues }

/-- No connection comes, no owner leaves, and no signal is touched. -/
structure Undisturbed (g g' : Gateway) : Prop where
  services : ∀ {id service'}, g'.service? id = some service' →
    ∃ service, g.service? id = some service ∧ service'.seat = service.seat ∧
      (service'.sender = .retired ↔ service.sender = .retired)
  owners : ∀ {id service}, g.service? id = some service → service.closed = false →
    ∃ service', g'.service? id = some service' ∧ service'.seat = service.seat ∧
      service'.closed = false
  registry : OnlyQueues g.registry g'.registry
  accepted : g.accepted ≤ g'.accepted
  tenants : ∀ queue, tenant? queue g'.journal = tenant? queue g.journal

section Undisturbed

variable {g g' : Gateway}

theorem OnlyQueues.refl (r : Registry DispatchId) : OnlyQueues r r := ⟨r.queues, rfl, rfl⟩

theorem OnlyQueues.setQueue (r : Registry DispatchId) (queue : QueueId) (q : Queue DispatchId) :
    OnlyQueues r (r.setQueue queue q) :=
  ⟨r.queues.set queue q, List.length_set, rfl⟩

/-- A dispatch that waits for room gives back its place in the queue. -/
theorem registry_withdraw (g : Gateway) (id : DispatchId) (d : Dispatch) :
    (∃ queue left, d.progress = .blocked queue left ∧
        (g.withdraw id d).registry =
          g.registry.setQueue queue ((g.registry.queue queue).leave id)) ∨
      ((∀ queue left, d.progress ≠ .blocked queue left) ∧
        (g.withdraw id d).registry = g.registry) := by
  unfold withdraw
  cases d.progress <;> simp

theorem OnlyQueues.withdraw (g : Gateway) (id : DispatchId) (d : Dispatch) :
    OnlyQueues g.registry (g.withdraw id d).registry := by
  rcases registry_withdraw g id d with ⟨queue, left, -, eq⟩ | ⟨-, eq⟩
  · rw [eq]
    exact .setQueue _ _ _
  · rw [eq]
    exact .refl _

/-- No session changes what it does. -/
theorem Undisturbed.of_services (services : ∀ id, g'.service? id = g.service? id)
    (registry : OnlyQueues g.registry g'.registry) (accepted : g.accepted ≤ g'.accepted)
    (tenants : ∀ queue, tenant? queue g'.journal = tenant? queue g.journal) :
    Undisturbed g g' where
  services {id service'} h := ⟨service', (services id).symm.trans h, rfl, Iff.rfl⟩
  owners {id service} h opened := ⟨service, (services id).trans h, rfl, opened⟩
  registry := registry
  accepted := accepted
  tenants := tenants

/-- Only one session changes what it does, and keeps its seat. -/
theorem Undisturbed.of_set {id : SessionId} {s t : Session} {service : Service}
    (here : g.sessions[id]? = some s) (serving : s.phase = .serving service)
    (sessions : g'.sessions = g.sessions.set id t)
    (kept : ∀ service', t.service? = some service' → service'.seat = service.seat ∧
      (service'.sender = .retired ↔ service.sender = .retired))
    (stays : service.closed = false →
      ∃ service', t.service? = some service' ∧ service'.closed = false)
    (registry : OnlyQueues g.registry g'.registry) (accepted : g.accepted ≤ g'.accepted)
    (tenants : ∀ queue, tenant? queue g'.journal = tenant? queue g.journal) :
    Undisturbed g g' where
  services {id' service'} h := by
    rw [service?_of_set here sessions] at h
    split at h
    · rename_i same
      subst same
      exact ⟨service, service?_eq_some.2 ⟨s, here, serving⟩, kept service' h⟩
    · exact ⟨service', h, rfl, Iff.rfl⟩
  owners {id' owner} h opened := by
    rw [service?_of_set here sessions]
    split
    · rename_i same
      subst same
      have eq : owner = service := by
        rw [service?_of_here here, Session.service?_eq_some, serving] at h
        exact (Phase.serving.inj h).symm
      subst eq
      obtain ⟨service', has, opened'⟩ := stays opened
      exact ⟨service', has, (kept service' has).1, opened'⟩
    · exact ⟨owner, h, rfl, opened⟩
  registry := registry
  accepted := accepted
  tenants := tenants

/-- Only one session changes what it does, and goes on in its seat. -/
theorem Undisturbed.goes_on {id : SessionId} {s t : Session} {service service' : Service}
    (here : g.sessions[id]? = some s) (serving : s.phase = .serving service)
    (sessions : g'.sessions = g.sessions.set id t) (phase : t.phase = .serving service')
    (seat : service'.seat = service.seat) (closed : service'.closed = service.closed)
    (retired : service'.sender = .retired ↔ service.sender = .retired)
    (registry : OnlyQueues g.registry g'.registry) (accepted : g.accepted ≤ g'.accepted)
    (tenants : ∀ queue, tenant? queue g'.journal = tenant? queue g.journal) : Undisturbed g g' := by
  have goes := Session.service?_eq_some.2 phase
  refine .of_set here serving sessions (fun other h => ?_) (fun opened => ?_)
    registry accepted tenants
  · obtain rfl := Option.some.inj (goes.symm.trans h)
    exact ⟨seat, retired⟩
  · exact ⟨service', goes, closed.trans opened⟩

/-- A session changes nothing about what it does for its node. -/
theorem service?_of_set_same {id : SessionId} {s t : Session} (here : g.sessions[id]? = some s)
    (sessions : g'.sessions = g.sessions.set id t) (same : t.service? = s.service?)
    (id' : SessionId) : g'.service? id' = g.service? id' := by
  rw [service?_of_set here sessions]
  split
  · rename_i eq
    rw [← eq, service?_of_here here, same]
  · rfl

theorem service?_of_connected {s : Session} (idle : s.service? = none)
    (sessions : g'.sessions = g.sessions ++ [s]) (id : SessionId) :
    g'.service? id = g.service? id := by
  unfold service?
  rw [sessions, List.getElem?_append]
  split
  · rfl
  · rename_i beyond
    rw [List.getElem?_eq_none (l := g.sessions) (Nat.le_of_not_lt beyond)]
    rcases id - g.sessions.length with - | n
    · exact idle
    · rfl

theorem service?_of_greeting {s : Session} {deadline : Nat}
    (greeting : s.phase = .greeting deadline) : s.service? = none := by
  rw [Session.service?, greeting]

theorem service?_letIn (waiting : Option DispatchId) (queue : QueueId) (id : SessionId) :
    (g.letIn waiting queue).service? id = g.service? id := by
  unfold service?
  rw [sessions_letIn]

theorem registry_letIn (waiting : Option DispatchId) (queue : QueueId) :
    (g.letIn waiting queue).registry = g.registry := by
  rcases letIn_cases g waiting queue with ⟨eq, -⟩ | ⟨caller, d, -, -, eq⟩ <;> rw [eq]

theorem accepted_letIn (waiting : Option DispatchId) (queue : QueueId) :
    (g.letIn waiting queue).accepted = g.accepted := by
  rcases letIn_cases g waiting queue with ⟨eq, -⟩ | ⟨caller, d, -, -, eq⟩ <;> rw [eq]

theorem tenant?_letIn (waiting : Option DispatchId) (queue queue' : QueueId) :
    tenant? queue' (g.letIn waiting queue).journal = tenant? queue' g.journal := by
  rcases letIn_cases g waiting queue with ⟨eq, -⟩ | ⟨caller, d, -, -, eq⟩
  · rw [eq]
  · rw [eq]
    rfl

/-- Letting a dispatch in disturbs nobody. -/
theorem Undisturbed.letIn {h : Gateway} (u : Undisturbed g h) (waiting : Option DispatchId)
    (queue : QueueId) : Undisturbed g (h.letIn waiting queue) where
  services {id service'} serves := u.services (by rwa [service?_letIn] at serves)
  owners {id service} serves opened := by
    rw [service?_letIn]
    exact u.owners serves opened
  registry := by
    rw [registry_letIn]
    exact u.registry
  accepted := by
    rw [accepted_letIn]
    exact u.accepted
  tenants queue' := by rw [tenant?_letIn, u.tenants]

theorem senderWith_ne_retired (left : List UInt8) : senderWith left ≠ .retired := by
  unfold senderWith
  split <;> simp

theorem senderWith_ne_reaching (left : List UInt8) : senderWith left ≠ .reaching := by
  unfold senderWith
  split <;> simp

end Undisturbed

end Gateway

end Switchboard
