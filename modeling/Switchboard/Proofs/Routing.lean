import Switchboard.Proofs.Delivery

/-!
# Where requests go

A dispatch looks up the nodes of its group once, when it starts. At that moment the connection that
has the queue of such a node registered in the group of the dispatch (`Aimed`). Its envelope is
written by the connection that has the queue when the envelope is taken, and a node can be
registered in another group in between (`Relocated`), while the envelope waits on the queue or its
dispatch waits for room.

Main results: `group_iff_not_relocated`, which says that this is the only way in which a request gets
on a stream of another group, and `request_may_cross_groups`, that it happens.
-/

set_option autoImplicit false

namespace Switchboard

/-- The queues that a dispatch may still put its envelope on. -/
def Progress.targets : Progress → List QueueId
  | .placing left => left.map (·.queue)
  | .blocked queue left => queue :: left.map (·.queue)
  | .awaiting | .resolved _ | .done _ | .cancelled => []

namespace Gateway

/-- The journal when a dispatch got its correlation id. -/
def openedAt? (id : DispatchId) : List Event → Option (List Event)
  | [] => none
  | .opened other _ :: before => if other = id then some before else openedAt? id before
  | _ :: before => openedAt? id before

/-- The first envelope that a queue accepted and that was not taken yet, and who put it there. -/
def nextUp? (queue : QueueId) (journal : List Event) : Option (Envelope × Origin) :=
  (enqueued queue journal)[(dequeued queue journal).length]?

/-- When a dispatch got its id, the connection that had the queue had registered in this group. -/
def Aimed (journal : List Event) (id : DispatchId) (group : String) (queue : QueueId) : Prop :=
  ∃ earlier opener first, openedAt? id journal = some earlier ∧
    tenant? queue earlier = some (opener, first) ∧ first.identity.group = group

/-- The node of a queue was registered in one group when a dispatch got its id, and in another when a
sender looked for a takeover. -/
def Relocated (journal look : List Event) (id : DispatchId) (queue : QueueId) : Prop :=
  ∃ earlier, openedAt? id journal = some earlier ∧
    (tenant? queue earlier).map (·.2.identity.group) ≠
      (tenant? queue look).map (·.2.identity.group)

/-! ## Dispatches are aimed at their groups -/

/-- What a dispatch may still use, and every queue its envelope is on, it was aimed at. -/
structure Routed (g : Gateway) : Prop where
  targets : ∀ {id : DispatchId} {x : Dispatch} {queue : QueueId}, g.dispatches[id]? = some x →
    queue ∈ x.progress.targets → Aimed g.journal id x.group queue
  queued : ∀ {queue e id}, (e, .dispatch id) ∈ enqueued queue g.journal →
    ∃ x, g.dispatches[id]? = some x ∧ x.request = e ∧ Aimed g.journal id x.group queue

section Routed

variable {g g' : Gateway}

theorem Aimed.congr {journal journal' : List Event} {id : DispatchId} {group : String}
    {queue : QueueId} (same : openedAt? id journal' = openedAt? id journal)
    (aimed : Aimed journal id group queue) : Aimed journal' id group queue := by
  obtain ⟨earlier, opener, first, opening, rest⟩ := aimed
  exact ⟨earlier, opener, first, same.trans opening, rest⟩

/-- A dispatch that changes its progress turns to no new queue. -/
theorem fewer_of_set {other : DispatchId} {d : Dispatch} {progress : Progress}
    (there : g.dispatches[other]? = some d)
    (sub : ∀ queue ∈ progress.targets, queue ∈ d.progress.targets)
    {id : DispatchId} {x' : Dispatch} {queue : QueueId}
    (here : (g.dispatches.set other { d with progress })[id]? = some x')
    (mem : queue ∈ x'.progress.targets) :
    ∃ x, g.dispatches[id]? = some x ∧ x'.group = x.group ∧ queue ∈ x.progress.targets := by
  rcases getElem?_set_cases here with ⟨rfl, rfl⟩ | ⟨-, same⟩
  · exact ⟨d, there, rfl, sub queue mem⟩
  · exact ⟨x', same, rfl, mem⟩

/-- A dispatch starts aimed at all its candidates. -/
theorem Tenancy.aimed_of_candidates (t : Tenancy g) {group : String} {left : List Candidate}
    (seen : g.registry.candidates group = some left) {c : Candidate} (mem : c ∈ left)
    (correlation : CorrelationId) :
    Aimed (.opened g.dispatches.length correlation :: g.journal) g.dispatches.length group
      c.queue := by
  obtain ⟨entry, owned, inGroup, queue⟩ :=
    Registry.entry_of_mem_candidates t.coherent seen mem
  obtain ⟨owner, service, first, serves, -, -, rfl, latest⟩ := t.owned owned
  have agrees : first.identity = service.identity := by
    obtain ⟨tenant, first', latest', mine, -⟩ := t.seated serves
    obtain ⟨rfl, rfl⟩ := Prod.mk.inj (Option.some.inj (latest.symm.trans latest'))
    exact (Service.seat_eq_seat.1 (mine rfl).1).1
  -- a candidate is registered now, by the tenant of its queue
  refine ⟨g.journal, owner, first, if_pos rfl, ?_, ?_⟩
  · rw [← queue, latest]
  · rw [agrees]
    exact inGroup

/-- What a change may put on a queue: the request of a dispatch that has the queue among its targets, or
a keepalive that is due, if there is room for it. -/
inductive Arrives (g : Gateway) (queue : QueueId) : Envelope → Origin → Prop
  | request {id : DispatchId} {x : Dispatch} (here : g.dispatches[id]? = some x)
      (target : queue ∈ x.progress.targets) : Arrives g queue x.request (.dispatch id)
  | keepalive {origin : Origin} (due : Due g queue origin)
      (room : (g.registry.queue queue).hasRoom g.registry.capacity = true) :
      Arrives g queue .keepalive origin

theorem arrivals_of_change (l : Ledger g) (c : Change g g') (queue : QueueId) :
    ∃ arrivals, enqueued queue g'.journal = enqueued queue g.journal ++ arrivals ∧
      ∀ {e origin}, (e, origin) ∈ arrivals → Arrives g queue e origin := by
  have quiet : enqueued queue g'.journal = enqueued queue g.journal →
      ∃ arrivals, enqueued queue g'.journal = enqueued queue g.journal ++ arrivals ∧
        ∀ {e origin}, (e, origin) ∈ arrivals → Arrives g queue e origin := by
    intro same
    exact ⟨[], same.trans (List.append_nil _).symm, fun mem => absurd mem (by simp)⟩
  have one : ∀ {queue' e origin},
      enqueued queue g'.journal = enqueued queue (.queued queue' e origin :: g.journal) →
      Arrives g queue' e origin →
      ∃ arrivals, enqueued queue g'.journal = enqueued queue g.journal ++ arrivals ∧
        ∀ {e origin}, (e, origin) ∈ arrivals → Arrives g queue e origin := by
    intro queue' e origin after arrives
    rw [enqueued] at after
    split at after
    · rename_i same
      subst same
      refine ⟨[(e, origin)], after, fun mem => ?_⟩
      obtain ⟨rfl, rfl⟩ := Prod.mk.inj (List.mem_singleton.1 mem)
      exact arrives
    · exact quiet after
  -- a dispatch that is let in waited in that queue
  have letIn : ∀ {h : Gateway} {id : SessionId} {service : Service}
      {taken : Queue.Taken DispatchId},
      enqueued queue g'.journal =
        enqueued queue (h.letIn taken.served service.queue).journal →
      (g.registry.queue service.queue).pop? = some taken → h.dispatches = g.dispatches →
      h.journal = .taken id service.queue taken.frame :: g.journal →
      ∃ arrivals, enqueued queue g'.journal = enqueued queue g.journal ++ arrivals ∧
        ∀ {e origin}, (e, origin) ∈ arrivals → Arrives g queue e origin := by
    intro h id service taken after popped dispatches journal
    rcases journal_letIn h taken.served service.queue with eq | ⟨caller, d, served, there, eq⟩
    · rw [eq, journal] at after
      exact quiet after
    · rw [dispatches] at there
      obtain ⟨left, blocked⟩ := l.blocked_of_served popped served there
      rw [eq, journal] at after
      refine one after (.request there ?_)
      rw [blocked]
      exact List.mem_cons_self
  cases c with
  | took here serving reaching popped encoded => exact letIn rfl popped rfl rfl
  | @skipped id s service taken cause here serving reaching popped unwritable =>
    exact letIn (h := { g with
      registry := g.registry.setQueue service.queue taken.queue
      sessions := g.sessions.set id { s with phase := .serving { service with sender := .idle } }
      journal := .taken id service.queue taken.frame :: g.journal }) rfl popped rfl rfl
  | offered origin live due pushed =>
    obtain ⟨room, -⟩ := Queue.push?_eq_some.1 pushed
    exact one rfl (.keepalive due (by simpa [Queue.hasRoom] using room))
  | placed here placing among live pushed =>
    refine one rfl (.request here ?_)
    rw [placing]
    exact List.mem_map_of_mem among
  | _ => exact quiet rfl

/-- A dispatch that is let in turns to no queue any more. -/
theorem fewer_of_letIn {h : Gateway} {waiting : Option DispatchId} {queue queue' : QueueId}
    {id : DispatchId} {x' : Dispatch} (here : (h.letIn waiting queue).dispatches[id]? = some x')
    (mem : queue' ∈ x'.progress.targets) (dispatches : h.dispatches = g.dispatches) :
    ∃ x, g.dispatches[id]? = some x ∧ x'.group = x.group ∧ queue' ∈ x.progress.targets := by
  rcases letIn_cases h waiting queue with ⟨eq, -⟩ | ⟨caller, d, -, there, eq⟩
  · rw [eq, dispatches] at here
    exact ⟨x', here, rfl, mem⟩
  · rw [eq, dispatches] at here
    rw [dispatches] at there
    exact fewer_of_set there (by simp [Progress.targets]) here mem

/-- A dispatch turns to no new queue after its start, when it turns to those of its candidates with
an envelope within the limit. -/
theorem targets_of_change (c : Change g g') {id : DispatchId} {x' : Dispatch} {queue : QueueId}
    (here : g'.dispatches[id]? = some x') (mem : queue ∈ x'.progress.targets) :
    (∃ x, g.dispatches[id]? = some x ∧ x'.group = x.group ∧ queue ∈ x.progress.targets) ∨
      ∃ left correlation, id = g.dispatches.length ∧
        g.registry.candidates x'.group = some left ∧ (∃ candidate ∈ left, candidate.queue = queue) ∧
        g'.journal = .opened id correlation :: g.journal ∧
        Wire.bodySize x'.request ≤ g.settings.dispatchLimit := by
  cases c with
  | begun group e timeout opened seen fits =>
    refine (getElem?_concat_cases here).imp (fun old => ⟨x', old, rfl, mem⟩) ?_
    rintro ⟨rfl, rfl⟩
    obtain ⟨candidate, among, rfl⟩ := List.mem_map.1 mem
    rcases seen with rfl | seen
    · exact absurd among (by simp)
    · rcases fits with rfl | fits
      · exact absurd among (by simp)
      · exact ⟨_, _, rfl, seen, ⟨candidate, among, rfl⟩, rfl, fits⟩
  | collided group e timeout taken =>
    rcases getElem?_concat_cases here with old | ⟨rfl, rfl⟩
    · exact Or.inl ⟨x', old, rfl, mem⟩
    · exact absurd mem (by simp [Progress.targets])
  | took there serving reaching popped encoded =>
    exact Or.inl (fewer_of_letIn here mem rfl)
  | @skipped id s service taken cause there serving reaching popped unwritable =>
    exact Or.inl (fewer_of_letIn (h := { g with
      registry := g.registry.setQueue service.queue taken.queue
      sessions := g.sessions.set id { s with phase := .serving { service with sender := .idle } }
      journal := .taken id service.queue taken.frame :: g.journal }) here mem rfl)
  | resolved there verdict =>
    exact Or.inl (fewer_of_set there (by simp [Progress.targets]) here mem)
  | concluded there certain =>
    exact Or.inl (fewer_of_set there (by simp [Progress.targets]) here mem)
  | forsaken there live undecided =>
    exact Or.inl (fewer_of_set there (by simp [Progress.targets]) here mem)
  | placed there placing among live pushed =>
    exact Or.inl (fewer_of_set there (by simp [Progress.targets]) here mem)
  | joined there placing among others live full =>
    refine Or.inl (fewer_of_set there ?_ here mem)
    rw [placing]
    exact List.cons_subset.2 ⟨List.mem_map_of_mem among, List.map_subset _ others⟩
  | passed there placing among others shut =>
    refine Or.inl (fewer_of_set there ?_ here mem)
    rw [placing]
    exact List.map_subset _ others
  | movedOn there blocked shut =>
    refine Or.inl (fewer_of_set there ?_ here mem)
    rw [blocked]
    exact List.subset_cons_self _ _
  | _ => exact Or.inl ⟨x', here, rfl, mem⟩

/-- A dispatch that has started gets no correlation id again. -/
theorem openedAt?_of_change (c : Change g g') {id : DispatchId} {x : Dispatch}
    (here : g.dispatches[id]? = some x) : openedAt? id g'.journal = openedAt? id g.journal := by
  have letIn : ∀ (h : Gateway) (waiting : Option DispatchId) (queue : QueueId),
      openedAt? id (h.letIn waiting queue).journal = openedAt? id h.journal := by
    intro h waiting queue
    rcases journal_letIn h waiting queue with eq | ⟨caller, d, -, -, eq⟩
    · rw [eq]
    · rw [eq]
      rfl
  cases c with
  | begun group e timeout opened seen =>
    obtain ⟨lt, -⟩ := List.getElem?_eq_some_iff.1 here
    exact if_neg (Nat.ne_of_gt lt)
  | took there serving reaching popped encoded => exact letIn _ _ _
  | skipped there serving reaching popped unwritable => exact letIn _ _ _
  | _ => rfl

/-- Every change keeps dispatches aimed. -/
theorem routed_of_change (r : Routed g) (t : Tenancy g) (l : Ledger g) (c : Change g g') :
    Routed g' where
  targets {id x' queue} here mem := by
    rcases targets_of_change c here mem with ⟨x, here', group, mem'⟩ |
      ⟨left, correlation, rfl, seen, ⟨candidate, among, rfl⟩, opening, -⟩
    · rw [group]
      exact (r.targets here' mem').congr (openedAt?_of_change c here')
    · rw [opening]
      exact t.aimed_of_candidates seen among correlation
  queued {queue e id} mem := by
    have aimed : ∃ x, g.dispatches[id]? = some x ∧ x.request = e ∧
        Aimed g.journal id x.group queue := by
      obtain ⟨news, all, each⟩ := arrivals_of_change l c queue
      rw [all] at mem
      rcases List.mem_append.1 mem with old | new
      · exact r.queued old
      · generalize same : Origin.dispatch id = origin at new
        cases each new with
        | request here target =>
          obtain rfl := Origin.dispatch.inj same
          exact ⟨_, here, rfl, r.targets here target⟩
        | keepalive due room => exact absurd same.symm (due.not_dispatch id)
    obtain ⟨x, here, request, aimed⟩ := aimed
    obtain ⟨progress, here'⟩ := dispatch_of_change c here
    exact ⟨_, here', request, aimed.congr (openedAt?_of_change c here)⟩

theorem routed_of_attained {s : Settings} (h : Attained s g) : Routed g := by
  induction h with
  | refl =>
    exact ⟨fun here => absurd here (by simp [start]), fun mem => absurd mem (by simp [start, enqueued])⟩
  | tail attained c ih =>
    exact routed_of_change ih (tenancy_of_attained attained) (ledger_of_attained attained) c

end Routed

/-! ## Requests and groups -/

section Groups

variable {s : Settings} {g : Gateway}

/-- What is taken from a queue was next up on it. If a dispatch put it there, it is the request of
the dispatch, which was aimed at the queue. -/
theorem origin_of_taken (h : Attained s g) {id : SessionId} {queue : QueueId} {e : Envelope}
    {before : List Event} (taken : .taken id queue e :: before <:+ g.journal) :
    ∃ origin, nextUp? queue before = some (e, origin) ∧
      ∀ d, origin = .dispatch d →
        ∃ x, g.dispatches[d]? = some x ∧ x.request = e ∧ Aimed before d x.group queue := by
  induction h with
  | refl => exact absurd taken (by simp [start])
  | @tail g g' attained c ih =>
    have now : ∃ origin, nextUp? queue before = some (e, origin) ∧
        ∀ d, origin = .dispatch d →
          ∃ x, g.dispatches[d]? = some x ∧ x.request = e ∧ Aimed before d x.group queue := by
      rcases taken_of_change c taken with earlier | ⟨rfl, t, service, first, here, serving, -, rfl,
        popped, rfl⟩
      · exact ih earlier
      · -- the queue holds what was accepted and not taken, so its first envelope is next up
        obtain ⟨rest, frames, -⟩ := Queue.pop?_cases popped
        have balance := (ledger_of_attained attained).balance service.queue
        have next : ((enqueued service.queue g.journal).map (·.1))[(dequeued service.queue
            g.journal).length]? = some first.frame := by
          rw [balance, frames, List.getElem?_append_right (by simp)]
          simp
        rw [List.getElem?_map, Option.map_eq_some_iff] at next
        obtain ⟨⟨frame, origin⟩, next, rfl⟩ := next
        refine ⟨origin, next, fun d same => ?_⟩
        subst same
        exact (routed_of_attained attained).queued (List.mem_of_getElem? next)
    obtain ⟨origin, next, aimed⟩ := now
    refine ⟨origin, next, fun d same => ?_⟩
    obtain ⟨x, here, rest⟩ := aimed d same
    obtain ⟨progress, here'⟩ := dispatch_of_change c here
    exact ⟨_, here', rest⟩

end Groups

/-- Whatever is written on a stream was next up on a queue. If it is a request, the stream registered
in the group of the dispatch exactly if the node of the queue was not registered in another group
between the start of the dispatch and the moment in which the session that took the envelope had
last looked for a takeover. -/
theorem group_iff_not_relocated {s : Settings} {g : Gateway} (h : Reachable s g)
    {id : SessionId} {c : Carriage} (mem : c ∈ carried id g.journal) :
    ∃ registered origin look, registration? id g.journal = some registered ∧
      nextUp? c.queue c.before = some (c.frame, origin) ∧ lastLook? id c.before = some look ∧
      ∀ d, origin = .dispatch d → ∃ x, g.dispatches[d]? = some x ∧ x.request = c.frame ∧
        (registered.identity.group = x.group ↔ ¬ Relocated c.before look d c.queue) := by
  have attained := attained_of_reachable h
  have taken : .taken id c.queue c.frame :: c.before <:+ g.journal :=
    (mem_carried_iff g.journal).1 ⟨c.bytes, mem⟩
  obtain ⟨look, registered, looked, tenant, -⟩ := tenant_of_taken attained taken
  have listed : .registered id registered ∈ g.journal :=
    taken.subset (List.mem_cons_of_mem _ ((suffix_of_lastLook? looked).subset
      (List.mem_cons_of_mem _ (registered_of_tenant look tenant))))
  obtain ⟨origin, next, aimed⟩ := origin_of_taken attained taken
  refine ⟨registered, origin, look, (registration_of_attained attained listed).1, next, looked,
    fun d same => ?_⟩
  obtain ⟨x, here, request, earlier, opener, first, opening, latest, group⟩ := aimed d same
  refine ⟨x, here, request, ?_⟩
  constructor
  · rintro same ⟨earlier', opening', moved⟩
    obtain rfl := Option.some.inj (opening.symm.trans opening')
    rw [latest, tenant] at moved
    exact moved (congrArg some (group.trans same.symm))
  · intro settled
    by_contra other
    refine settled ⟨earlier, opening, ?_⟩
    rw [latest, tenant]
    intro same
    exact other ((Option.some.inj same).symm.trans group)

/-- A `Register` on its way, for the group `a` under the default node. -/
def registerFrame : List UInt8 :=
  [0, 0, 0, 21, 1, 49, 0, 0, 0, 13, 123, 34, 103, 114, 111, 117, 112, 34, 58, 34, 97, 34, 125, 0, 0]

/-- A request is queued for a node, which then registers in another group. -/
def relocationRun : List Action :=
  [.input (.connect 100), .input (.send 0 keepaliveFrame), .move (.greet 0)] ++
    reported (.session 0) ++ ask 0 "default_group" { command := .getItem } 1000 ++
    [.move (.place 0 0)] ++ join 1 100 registerFrame ++ fetch 1 ++ [.move (.write 1)]

/-- The second stream carries the request of the dispatch. -/
theorem exists_carried_relocationRun :
    ∃ c ∈ carried 1 (play sample relocationRun).journal,
      c.bytes ≠ [] ∧ nextUp? c.queue c.before = some (c.frame, .dispatch 0) :=
  exists_carried_of_latest (by decide +kernel)

/-- What the second stream carries is next up on its queue, for one origin or another. -/
theorem group_iff_not_relocated_relocationRun :
    Reachable sample (play sample relocationRun) ∧
      ∃ c ∈ carried 1 (play sample relocationRun).journal, ∃ registered origin look,
        registration? 1 (play sample relocationRun).journal = some registered ∧
        nextUp? c.queue c.before = some (c.frame, origin) ∧ lastLook? 1 c.before = some look ∧
        ∀ d, origin = .dispatch d →
          ∃ x, (play sample relocationRun).dispatches[d]? = some x ∧ x.request = c.frame ∧
            (registered.identity.group = x.group ↔ ¬ Relocated c.before look d c.queue) := by
  obtain ⟨c, mem, -⟩ := exists_carried_relocationRun
  exact ⟨reachable_play sample relocationRun, c, mem,
    group_iff_not_relocated (reachable_play sample relocationRun) mem⟩

/-- A request can be written on a stream that registered in another group. -/
theorem request_may_cross_groups :
    ¬ ∀ {s : Settings} {g : Gateway}, Reachable s g → ∀ {id : SessionId} {c : Carriage},
      c ∈ carried id g.journal → c.bytes ≠ [] → ∀ {d : DispatchId} {x : Dispatch}
      {registered : Service}, nextUp? c.queue c.before = some (c.frame, .dispatch d) →
      g.dispatches[d]? = some x → registration? id g.journal = some registered →
      registered.identity.group = x.group := by
  intro claim
  obtain ⟨c, mem, some, next⟩ := exists_carried_relocationRun
  have dispatched : ((play sample relocationRun).dispatches[0]?).map (·.group) =
      Option.some "default_group" := by
    decide +kernel
  have registered : (registration? 1 (play sample relocationRun).journal).map
      (·.identity.group) = Option.some "a" := by
    decide +kernel
  obtain ⟨x, here, group⟩ := Option.map_eq_some_iff.1 dispatched
  obtain ⟨service, listed, other⟩ := Option.map_eq_some_iff.1 registered
  have same := claim (reachable_play sample relocationRun) mem some next here listed
  rw [group, other] at same
  exact absurd same (by decide)

end Gateway

end Switchboard
