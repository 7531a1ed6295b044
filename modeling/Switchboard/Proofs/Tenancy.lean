import Switchboard.Proofs.ConnectionKey
import Switchboard.Proofs.Seats

/-!
# The tenants of queues

Several sessions may have the queue of one node: the connection that registered the node last, its
*tenant*, and connections that it superseded. This module shows what every change of a gateway
keeps about them (`Tenancy`): keys, signals and queues are in order, a superseded session has
retired or is told to, the tenant never is, and a registered node belongs to the tenant of its queue,
which has not closed.

Main results: `tenancy_of_change`, `tenancy_of_attained`.
-/

set_option autoImplicit false

namespace Switchboard

namespace Gateway

/-- Keys, signals and queues of the sessions are in order. -/
structure Keyed (g : Gateway) : Prop where
  numbered : ∀ {id service}, g.service? id = some service →
    ∃ n ≤ g.accepted, service.key = connectionKey service.identity.connTag n
  keysApart : ∀ {a b p q}, g.service? a = some p → g.service? b = some q → p.key = q.key → a = b
  signalMade : ∀ {id service}, g.service? id = some service →
    service.signal < g.registry.signals.length
  signalsApart : ∀ {a b p q}, g.service? a = some p → g.service? b = some q →
    p.signal = q.signal → a = b
  queueMade : ∀ {id service}, g.service? id = some service →
    service.queue < g.registry.queues.length

/-- Every session is its queue's tenant or superseded, and every node belongs to a tenant. -/
structure Tenancy (g : Gateway) : Prop extends Keyed g where
  coherent : g.registry.Coherent
  /-- A superseded session has retired or is told to; the tenant never is. -/
  seated : ∀ {id service}, g.service? id = some service →
    ∃ tenant first, tenant? service.queue g.journal = some (tenant, first) ∧
      (tenant = id → first.seat = service.seat ∧ service.sender ≠ .retired ∧
        g.registry.notified service.signal = false) ∧
      (tenant ≠ id → service.sender = .retired ∨ g.registry.notified service.signal = true)
  /-- A registered node belongs to the tenant of its queue, which has not closed. -/
  owned : ∀ {node entry}, g.registry.nodes.get? node = some entry →
    ∃ id service first, g.service? id = some service ∧ service.closed = false ∧
      service.identity.node = node ∧ service.entry = entry ∧
      tenant? entry.queue g.journal = some (id, first)

section Tenancy

variable {g g' : Gateway}

theorem tenancy_start (s : Settings) : Tenancy (.start s) where
  numbered h := by simp [start, service?] at h
  keysApart h := by simp [start, service?] at h
  signalMade h := by simp [start, service?] at h
  signalsApart h := by simp [start, service?] at h
  queueMade h := by simp [start, service?] at h
  coherent := ⟨by simp [start, Registry.roster], by simp [start, Assoc.keys]⟩
  seated h := by simp [start, service?] at h
  owned h := by simp [start] at h

/-- Keys, signals and queues stay in order as long as no connection comes. -/
theorem Keyed.frame (k : Keyed g)
    (seats : ∀ {id service'}, g'.service? id = some service' →
      ∃ service, g.service? id = some service ∧ service'.seat = service.seat)
    (accepted : g.accepted ≤ g'.accepted)
    (signals : g.registry.signals.length ≤ g'.registry.signals.length)
    (queues : g.registry.queues.length ≤ g'.registry.queues.length) : Keyed g' where
  numbered {id service'} h := by
    obtain ⟨service, serves, seat⟩ := seats h
    obtain ⟨identity, key, -, -⟩ := Service.seat_eq_seat.1 seat
    obtain ⟨n, le, named⟩ := k.numbered serves
    exact ⟨n, Nat.le_trans le accepted, by rw [key, identity, named]⟩
  keysApart {a b p q} hp hq same := by
    obtain ⟨p₀, hp₀, seatp⟩ := seats hp
    obtain ⟨q₀, hq₀, seatq⟩ := seats hq
    obtain ⟨-, keyp, -, -⟩ := Service.seat_eq_seat.1 seatp
    obtain ⟨-, keyq, -, -⟩ := Service.seat_eq_seat.1 seatq
    exact k.keysApart hp₀ hq₀ (keyp.symm.trans (same.trans keyq))
  signalMade {id service'} h := by
    obtain ⟨service, serves, seat⟩ := seats h
    obtain ⟨-, -, -, signal⟩ := Service.seat_eq_seat.1 seat
    rw [signal]
    exact Nat.lt_of_lt_of_le (k.signalMade serves) signals
  signalsApart {a b p q} hp hq same := by
    obtain ⟨p₀, hp₀, seatp⟩ := seats hp
    obtain ⟨q₀, hq₀, seatq⟩ := seats hq
    obtain ⟨-, -, -, signalp⟩ := Service.seat_eq_seat.1 seatp
    obtain ⟨-, -, -, signalq⟩ := Service.seat_eq_seat.1 seatq
    exact k.signalsApart hp₀ hq₀ (signalp.symm.trans (same.trans signalq))
  queueMade {id service'} h := by
    obtain ⟨service, serves, seat⟩ := seats h
    obtain ⟨-, -, queue, -⟩ := Service.seat_eq_seat.1 seat
    rw [queue]
    exact Nat.lt_of_lt_of_le (k.queueMade serves) queues

/-- The keys of the connections so far are not the key of the next one, whatever its tag is. -/
theorem Keyed.key_ne (k : Keyed g) {id : SessionId} {service : Service}
    (serves : g.service? id = some service) (tag : String) :
    service.key ≠ connectionKey tag (g.accepted + 1) := by
  intro same
  obtain ⟨n, le, named⟩ := k.numbered serves
  have number : n = g.accepted + 1 := connectionKey_inj (named.symm.trans same)
  omega

/-- Keys, signals and queues stay in order when a connection comes with the next key and signal. -/
theorem Keyed.enrolled (k : Keyed g) {id : SessionId} {newcomer : Service}
    (after : ∀ id', g'.service? id' = if id = id' then some newcomer else g.service? id')
    (accepted : g'.accepted = g.accepted + 1)
    (key : newcomer.key = connectionKey newcomer.identity.connTag (g.accepted + 1))
    (signal : newcomer.signal = g.registry.signals.length)
    (signals : g'.registry.signals.length = g.registry.signals.length + 1)
    (queue : newcomer.queue < g'.registry.queues.length)
    (queues : g.registry.queues.length ≤ g'.registry.queues.length) : Keyed g' where
  numbered {id' service'} h := by
    rw [after] at h
    rw [accepted]
    split at h
    · obtain rfl := Option.some.inj h
      exact ⟨g.accepted + 1, Nat.le_refl _, key⟩
    · obtain ⟨n, le, named⟩ := k.numbered h
      exact ⟨n, Nat.le_succ_of_le le, named⟩
  keysApart {a b p q} hp hq same := by
    rw [after] at hp hq
    split at hp <;> split at hq
    · rename_i ha hb
      exact ha.symm.trans hb
    · obtain rfl := Option.some.inj hp
      exact absurd (same.symm.trans key) (k.key_ne hq _)
    · obtain rfl := Option.some.inj hq
      exact absurd (same.trans key) (k.key_ne hp _)
    · exact k.keysApart hp hq same
  signalMade {id' service'} h := by
    rw [after] at h
    rw [signals]
    split at h
    · obtain rfl := Option.some.inj h
      rw [signal]
      exact Nat.lt_succ_self _
    · exact Nat.lt_succ_of_lt (k.signalMade h)
  signalsApart {a b p q} hp hq same := by
    rw [after] at hp hq
    split at hp <;> split at hq
    · rename_i ha hb
      exact ha.symm.trans hb
    · obtain rfl := Option.some.inj hp
      exact absurd (same.symm.trans signal) (Nat.ne_of_lt (k.signalMade hq))
    · obtain rfl := Option.some.inj hq
      exact absurd (same.trans signal) (Nat.ne_of_lt (k.signalMade hp))
    · exact k.signalsApart hp hq same
  queueMade {id' service'} h := by
    rw [after] at h
    split at h
    · obtain rfl := Option.some.inj h
      exact queue
    · exact Nat.lt_of_lt_of_le (k.queueMade h) queues

/-- A session whose seat, signal and queue nobody touched is as it was: tenant or superseded. -/
theorem Tenancy.seated_of_seat (t : Tenancy g) {id : SessionId} {service service' : Service}
    (serves : g.service? id = some service) (seat : service'.seat = service.seat)
    (retired : service'.sender = .retired ↔ service.sender = .retired)
    (tenants : tenant? service.queue g'.journal = tenant? service.queue g.journal)
    (notified : g'.registry.notified service.signal = g.registry.notified service.signal) :
    ∃ tenant first, tenant? service'.queue g'.journal = some (tenant, first) ∧
      (tenant = id → first.seat = service'.seat ∧ service'.sender ≠ .retired ∧
        g'.registry.notified service'.signal = false) ∧
      (tenant ≠ id →
        service'.sender = .retired ∨ g'.registry.notified service'.signal = true) := by
  obtain ⟨-, -, queue, signal⟩ := Service.seat_eq_seat.1 seat
  obtain ⟨tenant, first, latest, mine, other⟩ := t.seated serves
  rw [queue, signal, seat, tenants, notified, retired]
  refine ⟨tenant, first, latest, fun same => ?_, other⟩
  obtain ⟨agrees, active, quiet⟩ := mine same
  exact ⟨agrees, fun h => active (retired.1 h), quiet⟩

theorem Tenancy.undisturbed (t : Tenancy g) (u : Undisturbed g g') : Tenancy g' := by
  obtain ⟨queues, length, registry⟩ := u.registry
  have keyed : Keyed g' := by
    refine t.toKeyed.frame (fun h => ?_) u.accepted (by rw [registry]) ?_
    · obtain ⟨service, serves, seat, -⟩ := u.services h
      exact ⟨service, serves, seat⟩
    · rw [registry]
      exact Nat.le_of_eq length.symm
  refine { keyed with coherent := ?_, seated := ?_, owned := ?_ }
  · rw [registry]
    exact ⟨t.coherent.listed, t.coherent.distinct⟩
  · intro id service' h
    obtain ⟨service, serves, seat, retired⟩ := u.services h
    exact t.seated_of_seat serves seat retired (u.tenants _) (by rw [registry]; rfl)
  · intro node entry h
    rw [registry] at h
    obtain ⟨id, service, first, serves, opened, name, same, latest⟩ := t.owned h
    obtain ⟨service', serves', seat, opened'⟩ := u.owners serves opened
    obtain ⟨identity, key, queue, signal⟩ := Service.seat_eq_seat.1 seat
    refine ⟨id, service', first, serves', opened', by rw [identity, name], ?_, ?_⟩
    · rw [← same, Service.entry, Service.entry, identity, key, queue, signal]
    · rw [u.tenants, latest]

/-- A session does its closing actions: whatever it owned is gone. -/
theorem Tenancy.closed (t : Tenancy g) {id : SessionId} {s : Session} {service : Service}
    (here : g.sessions[id]? = some s) (serving : s.phase = .serving service) (current : Bool) :
    Tenancy
      { g with
        registry :=
          (g.registry.deregister service.identity.group service.identity.node service.key).2
        sessions := g.sessions.set id { s with phase := .serving { service with closed := true } }
        journal := .closed id current :: g.journal } := by
  have serves : g.service? id = some service := service?_eq_some.2 ⟨s, here, serving⟩
  obtain ⟨signals, queues, -⟩ := Registry.deregister_frame g.registry service.identity.group
    service.identity.node service.key
  set g' : Gateway :=
    { g with
      registry :=
        (g.registry.deregister service.identity.group service.identity.node service.key).2
      sessions := g.sessions.set id { s with phase := .serving { service with closed := true } }
      journal := .closed id current :: g.journal } with def'
  have after : ∀ id', g'.service? id' =
      if id = id' then some { service with closed := true } else g.service? id' :=
    service?_of_set here (show g'.sessions = _ from rfl)
  have seats : ∀ {id' service'}, g'.service? id' = some service' →
      ∃ old, g.service? id' = some old ∧ service'.seat = old.seat ∧
        service'.sender = old.sender := by
    intro id' service' h
    rcases service?_set_cases here (show g'.sessions = _ from rfl) rfl h with
      ⟨rfl, rfl⟩ | ⟨-, before⟩
    · exact ⟨service, serves, rfl, rfl⟩
    · exact ⟨service', before, rfl, rfl⟩
  have keyed : Keyed g' := by
    refine t.toKeyed.frame (fun h => ?_) (Nat.le_refl _) ?_ ?_
    · obtain ⟨old, serves, seat, -⟩ := seats h
      exact ⟨old, serves, seat⟩
    · exact Nat.le_of_eq (congrArg List.length signals.symm)
    · exact Nat.le_of_eq (congrArg List.length queues.symm)
  refine { keyed with coherent := ?_, seated := ?_, owned := ?_ }
  · exact Registry.coherent_deregister t.coherent _ _ _
  · intro id' service' h
    obtain ⟨old, serves, seat, sender⟩ := seats h
    refine t.seated_of_seat serves seat (by rw [sender]) rfl ?_
    rw [Registry.notified, Registry.notified, signals]
  · -- an entry that is left was there before, and is not the closing session's
    intro node entry h
    obtain ⟨before, notMine⟩ := Registry.get?_deregister h
    obtain ⟨owner, theirs, first, servesOwner, opened, name, rfl, latest⟩ := t.owned before
    have apart : id ≠ owner := by
      rintro rfl
      obtain rfl := Option.some.inj (serves.symm.trans servesOwner)
      exact notMine ⟨name.symm, rfl, rfl⟩
    refine ⟨owner, theirs, first, ?_, opened, name, rfl, latest⟩
    rw [after, if_neg apart, servesOwner]

/-- A superseded session lets go of its queue. -/
theorem Tenancy.retired (t : Tenancy g) {id : SessionId} {s : Session} {service : Service}
    (here : g.sessions[id]? = some s) (serving : s.phase = .serving service)
    (notified : g.registry.notified service.signal = true) :
    Tenancy
      { g with
        registry := g.registry.takeSignal service.signal
        sessions :=
          g.sessions.set id { s with phase := .serving { service with sender := .retired } } } := by
  have serves : g.service? id = some service := service?_eq_some.2 ⟨s, here, serving⟩
  set g' : Gateway :=
    { g with
      registry := g.registry.takeSignal service.signal
      sessions :=
        g.sessions.set id { s with phase := .serving { service with sender := .retired } } }
    with def'
  have after : ∀ id', g'.service? id' =
      if id = id' then some { service with sender := .retired } else g.service? id' :=
    service?_of_set here (show g'.sessions = _ from rfl)
  have cases : ∀ {id' service'}, g'.service? id' = some service' →
      id' = id ∧ service' = { service with sender := .retired } ∨
        id' ≠ id ∧ g.service? id' = some service' :=
    service?_set_cases here (show g'.sessions = _ from rfl) rfl
  have keyed : Keyed g' := by
    refine t.toKeyed.frame (fun {id' service'} h => ?_) (Nat.le_refl _)
      (Nat.le_of_eq List.length_set.symm) (Nat.le_refl _)
    rcases cases h with ⟨rfl, rfl⟩ | ⟨-, before⟩
    · exact ⟨service, serves, rfl⟩
    · exact ⟨service', before, rfl⟩
  refine { keyed with coherent := ?_, seated := ?_, owned := ?_ }
  · exact ⟨t.coherent.listed, t.coherent.distinct⟩
  · intro id' service' h
    rcases cases h with ⟨rfl, rfl⟩ | ⟨apart, before⟩
    -- it was told to retire, so it is not the tenant
    · obtain ⟨tenant, first, latest, mine, -⟩ := t.seated serves
      refine ⟨tenant, first, latest, fun same => ?_, fun _ => Or.inl rfl⟩
      exact absurd notified (by rw [(mine same).2.2]; simp)
    -- the signal of another session is another one
    · refine t.seated_of_seat before rfl Iff.rfl rfl ?_
      exact (Registry.notified_takeSignal _ _ _).trans
        (if_neg fun same => apart (t.signalsApart serves before same).symm)
  · intro node entry h
    obtain ⟨owner, theirs, first, servesOwner, opened, name, same, latest⟩ := t.owned h
    by_cases mine : id = owner
    · subst mine
      obtain rfl := Option.some.inj (serves.symm.trans servesOwner)
      refine ⟨id, { service with sender := .retired }, first, ?_, opened, name, same, latest⟩
      rw [after, if_pos rfl]
    · refine ⟨owner, theirs, first, ?_, opened, name, same, latest⟩
      rw [after, if_neg mine, servesOwner]

/-- What registering a connection with a fresh key does to queues and signals: it gets a signal of
its own, and the queue of the connection it supersedes, whose signal is notified, or a new one. -/
theorem register_cases (r : Registry DispatchId) (group node key : String)
    (fresh : ∀ entry, r.nodes.get? node = some entry → entry.key ≠ key) :
    (∃ entry, r.nodes.get? node = some entry ∧
        (r.register group node key).1 = ⟨entry.queue, r.signals.length⟩ ∧
        (r.register group node key).2.signals = r.signals.set entry.signal true ++ [false] ∧
        (r.register group node key).2.queues = r.queues) ∨
      (r.nodes.get? node = none ∧
        (r.register group node key).1 = ⟨r.queues.length, r.signals.length⟩ ∧
        (r.register group node key).2.signals = r.signals ++ [false] ∧
        (r.register group node key).2.queues = r.queues ++ [({} : Queue DispatchId)]) := by
  cases owned : r.nodes.get? node with
  | some entry => exact Or.inl ⟨entry, rfl, Registry.register_of_owned owned (fresh entry owned)⟩
  | none => exact Or.inr ⟨rfl, Registry.register_of_free owned⟩

theorem Tenancy.register_cases (t : Tenancy g) (e : Envelope) :
    (∃ entry, g.registry.nodes.get? (firstIdentity e).node = some entry ∧
        (g.newRegistration e).1 = ⟨entry.queue, g.registry.signals.length⟩ ∧
        (g.newRegistration e).2.signals =
          g.registry.signals.set entry.signal true ++ [false] ∧
        (g.newRegistration e).2.queues = g.registry.queues) ∨
      (g.registry.nodes.get? (firstIdentity e).node = none ∧
        (g.newRegistration e).1 = ⟨g.registry.queues.length, g.registry.signals.length⟩ ∧
        (g.newRegistration e).2.signals = g.registry.signals ++ [false] ∧
        (g.newRegistration e).2.queues = g.registry.queues ++ [({} : Queue DispatchId)]) := by
  refine Gateway.register_cases g.registry _ _ _ fun entry owned same => ?_
  obtain ⟨id, service, -, serves, -, -, rfl, -⟩ := t.owned owned
  exact t.key_ne serves _ same

/-- Registering tells the connections on the same queue to retire, and no others. -/
theorem Tenancy.notified_newRegistration (t : Tenancy g) (e : Envelope) {id : SessionId}
    {service : Service} (serves : g.service? id = some service) :
    if service.queue = (g.newRegistration e).1.queue then
      service.sender = .retired ∨ (g.newRegistration e).2.notified service.signal = true
    else
      (g.newRegistration e).2.notified service.signal =
        g.registry.notified service.signal := by
  rcases t.register_cases e with ⟨entry, owned, made, signals, -⟩ | ⟨-, made, signals, -⟩
  · obtain ⟨owner, theirs, first, servesOwner, -, -, rfl, latest⟩ := t.owned owned
    have notified : (g.newRegistration e).2.notified service.signal =
        if theirs.signal = service.signal then true
        else g.registry.notified service.signal := by
      rw [Registry.notified_of_append signals, List.getElem?_set]
      by_cases same : theirs.signal = service.signal
      · rw [if_pos (show theirs.entry.signal = service.signal from same), if_pos same,
          if_pos (show theirs.entry.signal < _ from t.signalMade servesOwner)]
        rfl
      · rw [if_neg (show ¬ theirs.entry.signal = service.signal from same), if_neg same]
        rfl
    rw [made, notified]
    by_cases same : service.queue = theirs.entry.queue
    · -- on the same queue: it is the owner, whose signal is set now, or was superseded before
      rw [if_pos same]
      obtain ⟨tenant, first', latest', -, other⟩ := t.seated serves
      rw [same, latest] at latest'
      obtain ⟨rfl, -⟩ := Prod.mk.inj (Option.some.inj latest')
      by_cases mine : owner = id
      · subst mine
        obtain rfl := Option.some.inj (serves.symm.trans servesOwner)
        exact Or.inr (if_pos rfl)
      · refine (other mine).imp_right fun told => ?_
        rw [told, ite_self]
    · -- on another queue: the owner's signal is not its signal
      rw [if_neg same, if_neg]
      intro signal
      obtain rfl := t.signalsApart servesOwner serves signal
      obtain rfl := Option.some.inj (serves.symm.trans servesOwner)
      exact same rfl
  · rw [made, if_neg (Nat.ne_of_lt (t.queueMade serves)), Registry.notified_of_append signals]
    rfl

theorem Tenancy.signal_newService (t : Tenancy g) (e : Envelope) :
    (g.newService e).signal = g.registry.signals.length := by
  unfold newService
  rcases t.register_cases e with ⟨entry, -, made, -⟩ | ⟨-, made, -⟩ <;> rw [made]

theorem Tenancy.signals_newRegistration (t : Tenancy g) (e : Envelope) :
    (g.newRegistration e).2.signals.length = g.registry.signals.length + 1 := by
  rcases t.register_cases e with ⟨entry, -, -, signals, -⟩ | ⟨-, -, signals, -⟩ <;>
    rw [signals] <;> simp

theorem Tenancy.queues_newRegistration (t : Tenancy g) (e : Envelope) :
    g.registry.queues.length ≤ (g.newRegistration e).2.queues.length ∧
      (g.newService e).queue < (g.newRegistration e).2.queues.length := by
  unfold newService
  rcases t.register_cases e with ⟨entry, owned, made, -, queues⟩ | ⟨-, made, -, queues⟩
  · rw [made, queues]
    obtain ⟨owner, theirs, -, serves, -, -, rfl, -⟩ := t.owned owned
    exact ⟨Nat.le_refl _, (t.queueMade serves : theirs.queue < _)⟩
  · rw [made, queues]
    simp

/-- The signal that a connection gets when it registers is not set. -/
theorem Tenancy.notified_newService (t : Tenancy g) (e : Envelope) :
    (g.newRegistration e).2.notified (g.newService e).signal = false := by
  rw [t.signal_newService e]
  rcases t.register_cases e with ⟨entry, -, -, signals, -⟩ | ⟨-, -, signals, -⟩
  · rw [Registry.notified_of_append signals, List.getElem?_eq_none (by simp)]
    rfl
  · rw [Registry.notified_of_append signals, List.getElem?_eq_none (by simp)]
    rfl

/-- Two nodes never share a queue: its tenant would have both names. -/
theorem Tenancy.queue_newService_ne (t : Tenancy g) (e : Envelope) {node : String} {entry : Entry}
    (owned : g.registry.nodes.get? node = some entry) (other : (firstIdentity e).node ≠ node) :
    (g.newService e).queue ≠ entry.queue := by
  intro shared
  obtain ⟨owner, theirs, first, serves, -, name, rfl, latest⟩ := t.owned owned
  rcases t.register_cases e with ⟨entry', owned', made, -⟩ | ⟨-, made, -⟩
  · obtain ⟨owner', theirs', first', serves', -, name', rfl, latest'⟩ := t.owned owned'
    have queue : (g.newService e).queue = theirs'.entry.queue :=
      show (g.newRegistration e).1.queue = _ by rw [made]
    rw [← queue, shared, latest] at latest'
    obtain ⟨rfl, -⟩ := Prod.mk.inj (Option.some.inj latest')
    obtain rfl := Option.some.inj (serves.symm.trans serves')
    exact other (name'.symm.trans name)
  · have queue : (g.newService e).queue = g.registry.queues.length :=
      show (g.newRegistration e).1.queue = _ by rw [made]
    exact absurd (shared.symm.trans queue) (Nat.ne_of_lt (t.queueMade serves))

/-- A connection registers its node. -/
theorem Tenancy.enrolled (t : Tenancy g) {id : SessionId} {s : Session} {deadline : Nat}
    (e : Envelope) (rest : List UInt8) (here : g.sessions[id]? = some s)
    (greeting : s.phase = .greeting deadline) :
    Tenancy
      { g with
        registry := (g.newRegistration e).2
        accepted := g.accepted + 1
        sessions :=
          g.sessions.set id { s with inbound := rest, phase := .serving (g.newService e) }
        journal := .registered id (g.newService e) :: g.journal } := by
  set g' : Gateway :=
    { g with
      registry := (g.newRegistration e).2
      accepted := g.accepted + 1
      sessions :=
        g.sessions.set id { s with inbound := rest, phase := .serving (g.newService e) }
      journal := .registered id (g.newService e) :: g.journal } with def'
  have newcomer : g.service? id = none := by
    rw [service?_of_here here, Session.service?, greeting]
  have after : ∀ id', g'.service? id' =
      if id = id' then some (g.newService e) else g.service? id' :=
    service?_of_set here (show g'.sessions = _ from rfl)
  have latest : ∀ queue', tenant? queue' g'.journal =
      if (g.newService e).queue = queue' then some (id, g.newService e)
      else tenant? queue' g.journal := fun _ => rfl
  obtain ⟨queues, queue⟩ := t.queues_newRegistration e
  have keyed : Keyed g' :=
    t.toKeyed.enrolled after rfl rfl (t.signal_newService e) (t.signals_newRegistration e)
      queue queues
  refine { keyed with coherent := ?_, seated := ?_, owned := ?_ }
  · exact Registry.coherent_register t.coherent _ _ _
  · intro id' service' h
    rcases service?_set_cases here (show g'.sessions = _ from rfl) rfl h with
      ⟨rfl, rfl⟩ | ⟨apart, before⟩
    -- the newcomer is the tenant
    · refine ⟨id', g.newService e, ?_, fun _ => ⟨rfl, ?_, t.notified_newService e⟩,
        fun apart => absurd rfl apart⟩
      · rw [latest, if_pos rfl]
      · simp [newService]
    -- the others of its queue are superseded and told so, the rest is left alone
    · have told := t.notified_newRegistration e before
      by_cases same : service'.queue = (g.newService e).queue
      · rw [if_pos (show service'.queue = (g.newRegistration e).1.queue from same)] at told
        refine ⟨id, g.newService e, ?_, fun eq => absurd eq.symm apart, fun _ => told⟩
        rw [latest, if_pos same.symm]
      · rw [if_neg (show ¬ service'.queue = (g.newRegistration e).1.queue from same)] at told
        refine t.seated_of_seat before rfl Iff.rfl ?_ told
        rw [latest, if_neg fun eq => same eq.symm]
  · intro node entry h
    have registered : ((g.newRegistration e).2.nodes).get? node = some entry := h
    rw [newRegistration, Registry.nodes_register, Assoc.get?_insert] at registered
    split at registered
    · rename_i name
      obtain rfl := Option.some.inj registered
      refine ⟨id, g.newService e, g.newService e, ?_, rfl, name, rfl, ?_⟩
      · rw [after, if_pos rfl]
      · exact (latest _).trans (if_pos rfl)
    · rename_i other
      obtain ⟨owner, theirs, first, servesOwner, opened, name, same, latest'⟩ := t.owned registered
      have apart : id ≠ owner := by
        rintro rfl
        rw [newcomer] at servesOwner
        exact absurd servesOwner (by simp)
      refine ⟨owner, theirs, first, ?_, opened, name, same, ?_⟩
      · rw [after, if_neg apart, servesOwner]
      · rw [latest, if_neg (t.queue_newService_ne e registered other), latest']

/-- Every change keeps tenancy. -/
theorem tenancy_of_change (t : Tenancy g) (c : Change g g') : Tenancy g' := by
  have quiet : ∀ {h : Gateway}, (∀ id, h.service? id = g.service? id) →
      OnlyQueues g.registry h.registry → g.accepted ≤ h.accepted →
      (∀ queue, tenant? queue h.journal = tenant? queue g.journal) → Tenancy h :=
    fun services registry accepted tenants =>
      t.undisturbed (.of_services services registry accepted tenants)
  have le := Nat.le_refl g.accepted
  -- only registering, closing and retiring disturb anybody
  cases c with
  | aside drops later stops => exact quiet (fun _ => rfl) (.refl _) le fun _ => rfl
  | tallied r number => exact quiet (fun _ => rfl) (.refl _) le fun _ => rfl
  | published r number => exact quiet (fun _ => rfl) (.refl _) le fun _ => rfl
  | stilled id => exact quiet (fun _ => rfl) (.refl _) le fun _ => rfl
  | connected greeting inbound outbound =>
    exact quiet (service?_of_connected (service?_of_greeting greeting) rfl) (.refl _) le fun _ => rfl
  | streamed here phase inbound outbound =>
    refine quiet (service?_of_set_same here rfl ?_) (.refl _) le fun _ => rfl
    rw [Session.service?, Session.service?, phase]
  | dismissed reason here greeting =>
    exact quiet (service?_of_set_same here rfl (service?_of_greeting greeting).symm)
      (.refl _) le fun _ => rfl
  | broke here greeting =>
    exact quiet (service?_of_set_same here rfl (service?_of_greeting greeting).symm)
      (.refl _) (Nat.le_succ _) fun _ => rfl
  | enrolled e rest here greeting room => exact t.enrolled e rest here greeting
  | heeded here serving read aside =>
    exact t.undisturbed (.goes_on here serving rfl rfl rfl rfl Iff.rfl (.refl _) le fun _ => rfl)
  | answered here serving read plain handed =>
    exact t.undisturbed (.goes_on here serving rfl rfl rfl rfl Iff.rfl (.refl _) le fun _ => rfl)
  | unanswered here serving read plain missed =>
    exact t.undisturbed (.goes_on here serving rfl rfl rfl rfl Iff.rfl (.refl _) le fun _ => rfl)
  | closed current here serving fresh report => exact t.closed here serving current
  | offered origin live due pushed =>
    exact quiet (fun _ => rfl) (.setQueue _ _ _) le fun _ => rfl
  | ended reason here serving past =>
    refine t.undisturbed (.of_set here serving rfl (fun _ h => ?_) (fun opened => ?_)
      (.refl _) le fun _ => rfl)
    · exact absurd h (by simp [Session.service?])
    · exact absurd (opened.symm.trans past) (by simp)
  | acquired here serving waiting free =>
    refine t.undisturbed (.goes_on here serving rfl rfl rfl rfl ?_ (.refl _) le fun _ => rfl)
    simp [waiting]
  | retired here serving between notified => exact t.retired here serving notified
  | looked here serving idle current =>
    refine t.undisturbed (.goes_on here serving rfl rfl rfl rfl ?_ (.refl _) le fun _ => rfl)
    simp [idle]
  | missed here serving reaching empty =>
    refine t.undisturbed (.goes_on here serving rfl rfl rfl rfl ?_ (.refl _) le fun _ => rfl)
    simp [reaching]
  | took here serving reaching popped encoded =>
    refine t.undisturbed (.letIn ?_ _ _)
    refine .goes_on here serving rfl rfl rfl rfl ?_ (.setQueue _ _ _) le fun _ => rfl
    simp [reaching]
  | @skipped id s service taken cause here serving reaching popped unwritable =>
    have popped := Undisturbed.letIn (g := g)
      (h := { g with
        registry := g.registry.setQueue service.queue taken.queue
        sessions := g.sessions.set id { s with phase := .serving { service with sender := .idle } }
        journal := .taken id service.queue taken.frame :: g.journal })
      (.goes_on here serving rfl rfl rfl rfl (by simp [reaching]) (.setQueue _ _ _) le fun _ => rfl)
      taken.served service.queue
    exact t.undisturbed ⟨popped.services, popped.owners, popped.registry, popped.accepted,
      popped.tenants⟩
  | wrote here serving writing pos room fits whole =>
    refine t.undisturbed (.goes_on here serving rfl rfl rfl rfl ?_ (.refl _) le fun _ => rfl)
    simp [writing, senderWith_ne_retired]
  | begun group e timeout opened seen => exact quiet (fun _ => rfl) (.refl _) le fun _ => rfl
  | collided group e timeout taken => exact quiet (fun _ => rfl) (.refl _) le fun _ => rfl
  | resolved here verdict => exact quiet (fun _ => rfl) (.withdraw g _ _) le fun _ => rfl
  | concluded here certain => exact quiet (fun _ => rfl) (.refl _) le fun _ => rfl
  | forsaken here live undecided => exact quiet (fun _ => rfl) (.withdraw g _ _) le fun _ => rfl
  | placed here placing among live pushed =>
    exact quiet (fun _ => rfl) (.setQueue _ _ _) le fun _ => rfl
  | joined here placing among others live full =>
    exact quiet (fun _ => rfl) (.setQueue _ _ _) le fun _ => rfl
  | passed here placing among others shut =>
    exact quiet (fun _ => rfl) (.refl _) le fun _ => rfl
  | movedOn here blocked shut => exact quiet (fun _ => rfl) (.setQueue _ _ _) le fun _ => rfl

theorem tenancy_of_attained {s : Settings} (h : Attained s g) : Tenancy g := by
  induction h with
  | refl => exact tenancy_start s
  | tail _ c ih => exact tenancy_of_change ih c

end Tenancy

end Gateway

end Switchboard
