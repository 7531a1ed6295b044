import Switchboard.Proofs.Tenancy

/-!
# What goes on a queue and what comes off it

The journal tells what every queue accepted (`enqueued`) and what was taken from it (`dequeued`).
In every state the accepted envelopes are those taken, in this order, and then those on the queue
(`Ledger.balance`); a queue never holds more than its capacity; and whoever waits for room in a
queue is a dispatch that knows so.

Main results: `ledger_of_attained`, `dequeued_isPrefix_enqueued`.
-/

set_option autoImplicit false

namespace Switchboard

namespace Queue

variable {σ : Type} {q : Queue σ}

theorem push?_eq_some {capacity : Nat} {e : Envelope} {q' : Queue σ} :
    q.push? capacity e = some q' ↔
      q.frames.length < capacity ∧ q' = { q with frames := q.frames ++ [e] } := by
  unfold push? hasRoom
  by_cases room : q.frames.length < capacity
  · simp [room, eq_comm]
  · simp [room]

/-- Taking an envelope takes the first one; the first of those who wait gets the room. -/
theorem pop?_cases {taken : Taken σ} (h : q.pop? = some taken) :
    ∃ rest, q.frames = taken.frame :: rest ∧
      ((taken.served = none ∧ q.waiting = [] ∧ taken.queue = { frames := rest, waiting := [] }) ∨
        ∃ caller next others, taken.served = some caller ∧ q.waiting = (caller, next) :: others ∧
          taken.queue = { frames := rest ++ [next], waiting := others }) := by
  obtain ⟨frames, waiting⟩ := q
  unfold pop? at h
  cases frames with
  | nil => exact absurd h (by simp)
  | cons e rest =>
    cases waiting with
    | nil =>
      obtain rfl := Option.some.inj h
      exact ⟨rest, rfl, Or.inl ⟨rfl, rfl, rfl⟩⟩
    | cons first others =>
      obtain ⟨caller, next⟩ := first
      obtain rfl := Option.some.inj h
      exact ⟨rest, rfl, Or.inr ⟨caller, next, others, rfl, rfl, rfl⟩⟩

theorem mem_waiting_join {caller caller' : σ} {e e' : Envelope} :
    (caller', e') ∈ (q.join caller e).waiting ↔
      (caller', e') ∈ q.waiting ∨ (caller' = caller ∧ e' = e) := by
  simp [join]

theorem mem_waiting_leave [DecidableEq σ] {caller caller' : σ} {e' : Envelope} :
    (caller', e') ∈ (q.leave caller).waiting ↔ (caller', e') ∈ q.waiting ∧ caller' ≠ caller := by
  simp [leave]

end Queue

namespace Gateway

/-- The envelopes that a queue accepted, oldest first, each with who put it there. -/
def enqueued (queue : QueueId) : List Event → List (Envelope × Origin)
  | [] => []
  | .queued other e origin :: before =>
    if other = queue then enqueued queue before ++ [(e, origin)] else enqueued queue before
  | _ :: before => enqueued queue before

/-- The envelopes that were taken from a queue, oldest first, each with the session that took it. -/
def dequeued (queue : QueueId) : List Event → List (SessionId × Envelope)
  | [] => []
  | .taken id other e :: before =>
    if other = queue then dequeued queue before ++ [(id, e)] else dequeued queue before
  | _ :: before => dequeued queue before

/-- The queues hold what was accepted and not taken, and dispatches wait where they think they do. -/
structure Ledger (g : Gateway) : Prop where
  balance : ∀ queue, (enqueued queue g.journal).map (·.1) =
    (dequeued queue g.journal).map (·.2) ++ (g.registry.queue queue).frames
  bounded : ∀ queue, (g.registry.queue queue).frames.length ≤ g.registry.capacity
  waiting : ∀ {queue caller e}, (caller, e) ∈ (g.registry.queue queue).waiting →
    ∃ d left, g.dispatches[caller]? = some d ∧ d.progress = .blocked queue left ∧ d.request = e
  /-- Nobody waits twice. -/
  callers : ∀ queue, ((g.registry.queue queue).waiting.map (·.1)).Nodup

section Ledger

variable {g g' : Gateway}

theorem queue_setQueue (r : Registry DispatchId) (id id' : QueueId) (q : Queue DispatchId) :
    (r.setQueue id q).queue id' =
      if id = id' ∧ id' < r.queues.length then q else r.queue id' := by
  unfold Registry.setQueue Registry.queue
  dsimp only
  rw [List.getElem?_set]
  by_cases same : id = id'
  · subst same
    by_cases lt : id < r.queues.length
    · rw [if_pos rfl, if_pos lt, if_pos ⟨rfl, lt⟩]
      rfl
    · rw [if_pos rfl, if_neg lt, if_neg fun h => lt h.2, List.getElem?_eq_none (Nat.le_of_not_lt lt)]
  · rw [if_neg same, if_neg fun h => same h.1]

/-- A queue that was made can be replaced. -/
theorem queue_setQueue_of_lt {r : Registry DispatchId} {id : QueueId}
    (made : id < r.queues.length) (q : Queue DispatchId) (id' : QueueId) :
    (r.setQueue id q).queue id' = if id = id' then q else r.queue id' := by
  rw [queue_setQueue]
  by_cases same : id = id'
  · subst same
    rw [if_pos ⟨rfl, made⟩, if_pos rfl]
  · rw [if_neg fun h => same h.1, if_neg same]

theorem queue_of_length_le {r : Registry DispatchId} {id : QueueId} (h : r.queues.length ≤ id) :
    r.queue id = {} := by
  rw [Registry.queue, List.getElem?_eq_none h]
  rfl

/-- An open queue was made. -/
theorem Tenancy.lt_of_isOpen (t : Tenancy g) {queue : QueueId} (h : g.isOpen queue = true) :
    queue < g.registry.queues.length := by
  rcases (isOpen_eq_true_iff t.coherent queue).1 h with
    ⟨node, entry, owned, rfl⟩ | ⟨id, service, serves, rfl⟩
  · obtain ⟨id, service, -, serves, -, -, rfl, -⟩ := t.owned owned
    exact t.queueMade serves
  · exact t.queueMade serves

theorem ledger_start (s : Settings) : Ledger (.start s) where
  balance queue := by simp [start, enqueued, dequeued, Registry.queue]
  bounded queue := by simp [start, Registry.queue]
  waiting h := by simp [start, Registry.queue] at h
  callers queue := by simp [start, Registry.queue]

/-- Nothing happens to the queues and the dispatches. -/
theorem Ledger.frame (l : Ledger g)
    (queues : ∀ queue, g'.registry.queue queue = g.registry.queue queue)
    (capacity : g'.registry.capacity = g.registry.capacity)
    (dispatches : g'.dispatches = g.dispatches)
    (accepted : ∀ queue, enqueued queue g'.journal = enqueued queue g.journal)
    (taken : ∀ queue, dequeued queue g'.journal = dequeued queue g.journal) : Ledger g' where
  balance queue := by rw [accepted, taken, queues, l.balance]
  bounded queue := by
    rw [queues, capacity]
    exact l.bounded queue
  waiting h := by
    rw [queues] at h
    rw [dispatches]
    exact l.waiting h
  callers queue := by
    rw [queues]
    exact l.callers queue

/-- A dispatch that waits in a queue is blocked there with its request. -/
theorem Ledger.blocked_of_waiting (l : Ledger g) {queue : QueueId} {caller : DispatchId}
    {e : Envelope} {d : Dispatch} (mem : (caller, e) ∈ (g.registry.queue queue).waiting)
    (here : g.dispatches[caller]? = some d) :
    d.request = e ∧ ∃ left, d.progress = .blocked queue left := by
  obtain ⟨d', left, here', blocked, request⟩ := l.waiting mem
  obtain rfl := Option.some.inj (here.symm.trans here')
  exact ⟨request, left, blocked⟩

/-! ### Dispatches that stop waiting -/

/-- Nothing happens to what is on the queues, and a dispatch waits in none of them any more. -/
def Unqueued (id : DispatchId) (r r' : Registry DispatchId) : Prop :=
  r'.capacity = r.capacity ∧ ∀ queue, (r'.queue queue).frames = (r.queue queue).frames ∧
    (r'.queue queue).waiting.Sublist (r.queue queue).waiting ∧
    ∀ e, (id, e) ∉ (r'.queue queue).waiting

/-- A dispatch that is not blocked waits in no queue. -/
theorem Ledger.unqueued (l : Ledger g) {id : DispatchId} {d : Dispatch}
    (here : g.dispatches[id]? = some d) (free : ∀ queue left, d.progress ≠ .blocked queue left) :
    Unqueued id g.registry g.registry := by
  refine ⟨rfl, fun queue => ⟨rfl, List.Sublist.refl _, fun e mem => ?_⟩⟩
  obtain ⟨-, left, blocked⟩ := l.blocked_of_waiting mem here
  exact free queue left blocked

/-- A blocked dispatch waits in one queue only. -/
theorem Ledger.unqueued_leave (l : Ledger g) {id : DispatchId} {d : Dispatch}
    {queue : QueueId} {left : List Candidate} (here : g.dispatches[id]? = some d)
    (blocked : d.progress = .blocked queue left) :
    Unqueued id g.registry (g.registry.setQueue queue ((g.registry.queue queue).leave id)) := by
  refine ⟨rfl, fun queue' => ?_⟩
  rw [queue_setQueue]
  split
  · rename_i same
    obtain ⟨rfl, -⟩ := same
    refine ⟨rfl, List.filter_sublist, fun e mem => ?_⟩
    exact (Queue.mem_waiting_leave.1 mem).2 rfl
  · -- it waits in the queue it is blocked on, or in none if that one was never made
    rename_i other
    refine ⟨rfl, List.Sublist.refl _, fun e mem => ?_⟩
    obtain ⟨-, left', blocked'⟩ := l.blocked_of_waiting mem here
    obtain ⟨rfl, -⟩ := Progress.blocked.inj (blocked.symm.trans blocked')
    have beyond : g.registry.queues.length ≤ queue := Nat.le_of_not_lt fun lt => other ⟨rfl, lt⟩
    rw [queue_of_length_le beyond] at mem
    exact absurd mem (by simp)

theorem Ledger.unqueued_withdraw (l : Ledger g) {id : DispatchId} {d : Dispatch}
    (here : g.dispatches[id]? = some d) :
    Unqueued id g.registry (g.withdraw id d).registry := by
  rcases registry_withdraw g id d with ⟨queue, left, blocked, eq⟩ | ⟨free, eq⟩
  · rw [eq]
    exact l.unqueued_leave here blocked
  · rw [eq]
    exact l.unqueued here free

/-- A dispatch stops waiting. -/
theorem Ledger.stops (l : Ledger g) {id : DispatchId} {d' : Dispatch}
    (unqueued : Unqueued id g.registry g'.registry)
    (dispatches : g'.dispatches = g.dispatches.set id d')
    (accepted : ∀ queue, enqueued queue g'.journal = enqueued queue g.journal)
    (taken : ∀ queue, dequeued queue g'.journal = dequeued queue g.journal) : Ledger g' where
  balance queue := by rw [accepted, taken, (unqueued.2 queue).1, l.balance]
  bounded queue := by
    rw [(unqueued.2 queue).1, unqueued.1]
    exact l.bounded queue
  waiting {queue caller e} mem := by
    obtain ⟨-, fewer, gone⟩ := unqueued.2 queue
    have apart : id ≠ caller := by
      rintro rfl
      exact gone e mem
    rw [dispatches, List.getElem?_set_ne apart]
    exact l.waiting (fewer.mem mem)
  callers queue := (l.callers queue).sublist ((unqueued.2 queue).2.1.map _)

/-! ### Envelopes that come and go -/

/-- A queue takes an envelope. -/
theorem Ledger.pushed (l : Ledger g) {queue : QueueId} {e : Envelope} {origin : Origin}
    {q : Queue DispatchId} (made : queue < g.registry.queues.length)
    (pushed : (g.registry.queue queue).push? g.registry.capacity e = some q)
    (registry : g'.registry = g.registry.setQueue queue q)
    (journal : g'.journal = .queued queue e origin :: g.journal)
    (waiting : ∀ {queue' caller e'}, (caller, e') ∈ (g.registry.queue queue').waiting →
      g'.dispatches[caller]? = g.dispatches[caller]?) : Ledger g' := by
  obtain ⟨room, rfl⟩ := Queue.push?_eq_some.1 pushed
  have queues : ∀ queue', g'.registry.queue queue' =
      if queue = queue' then
        { g.registry.queue queue' with frames := (g.registry.queue queue').frames ++ [e] }
      else g.registry.queue queue' := by
    intro queue'
    rw [registry, queue_setQueue_of_lt made]
    by_cases same : queue = queue'
    · subst same
      simp only [if_true]
    · rw [if_neg same, if_neg same]
  have lists : ∀ queue', (g'.registry.queue queue').waiting =
      (g.registry.queue queue').waiting := by
    intro queue'
    rw [queues]
    split <;> rfl
  constructor
  case balance =>
    intro queue'
    rw [journal, queues]
    simp only [enqueued, dequeued]
    split
    · rw [List.map_append, l.balance, List.append_assoc]
      rfl
    · exact l.balance queue'
  case bounded =>
    intro queue'
    rw [queues, registry]
    split
    · -- there was room for it
      rename_i same
      subst same
      rw [List.length_append]
      exact room
    · exact l.bounded queue'
  case waiting =>
    intro queue' caller e' mem
    rw [lists] at mem
    rw [waiting mem]
    exact l.waiting mem
  case callers =>
    intro queue'
    rw [lists]
    exact l.callers queue'

/-- A dispatch starts to wait. -/
theorem Ledger.joined (l : Ledger g) {id : DispatchId} {d : Dispatch} {queue : QueueId}
    {left : List Candidate} (here : g.dispatches[id]? = some d)
    (free : ∀ queue left, d.progress ≠ .blocked queue left)
    (registry : g'.registry =
      g.registry.setQueue queue ((g.registry.queue queue).join id d.request))
    (dispatches : g'.dispatches =
      g.dispatches.set id { d with progress := .blocked queue left })
    (journal : g'.journal = g.journal) : Ledger g' := by
  obtain ⟨lt, -⟩ := List.getElem?_eq_some_iff.1 here
  have nowhere := (l.unqueued here free).2
  have queues : ∀ queue', g'.registry.queue queue' = g.registry.queue queue' ∨
      (queue = queue' ∧
        g'.registry.queue queue' = (g.registry.queue queue').join id d.request) := by
    intro queue'
    rw [registry, queue_setQueue]
    split
    · rename_i same
      obtain ⟨rfl, -⟩ := same
      exact Or.inr ⟨rfl, rfl⟩
    · exact Or.inl rfl
  have frames : ∀ queue', (g'.registry.queue queue').frames =
      (g.registry.queue queue').frames := by
    intro queue'
    rcases queues queue' with eq | ⟨-, eq⟩ <;> rw [eq]
    rfl
  have old : ∀ {queue' caller e}, (caller, e) ∈ (g.registry.queue queue').waiting →
      ∃ d' left', g'.dispatches[caller]? = some d' ∧ d'.progress = .blocked queue' left' ∧
        d'.request = e := by
    intro queue' caller e mem
    have apart : id ≠ caller := by
      rintro rfl
      exact (nowhere queue').2.2 e mem
    rw [dispatches, List.getElem?_set_ne apart]
    exact l.waiting mem
  constructor
  case balance =>
    intro queue'
    rw [journal, frames]
    exact l.balance queue'
  case bounded =>
    intro queue'
    rw [frames, registry]
    exact l.bounded queue'
  case waiting =>
    intro queue' caller e mem
    rcases queues queue' with eq | ⟨rfl, eq⟩
    · rw [eq] at mem
      exact old mem
    · rw [eq] at mem
      rcases Queue.mem_waiting_join.1 mem with mem | ⟨rfl, rfl⟩
      · exact old mem
      · refine ⟨{ d with progress := .blocked queue left }, left, ?_, rfl, rfl⟩
        rw [dispatches, List.getElem?_set_self lt]
  case callers =>
    intro queue'
    rcases queues queue' with eq | ⟨-, eq⟩
    · rw [eq]
      exact l.callers queue'
    · -- it did not wait anywhere before
      rw [eq, Queue.join, List.map_append]
      refine List.nodup_append.2 ⟨l.callers queue', by simp, fun a mem b last same => ?_⟩
      rw [same, List.mem_singleton.1 last] at mem
      obtain ⟨⟨caller, e⟩, listed, rfl⟩ := List.mem_map.1 mem
      exact (nowhere queue').2.2 e listed

/-- The first envelope of a queue is taken; some of those who wait may stop waiting. -/
theorem Ledger.popped (l : Ledger g) {id : SessionId} {queue : QueueId} {e : Envelope}
    {rest : List Envelope} {waiting : List (DispatchId × Envelope)}
    (made : queue < g.registry.queues.length)
    (frames : (g.registry.queue queue).frames = e :: rest)
    (fewer : waiting.Sublist (g.registry.queue queue).waiting)
    (registry : g'.registry = g.registry.setQueue queue ⟨rest, waiting⟩)
    (dispatches : g'.dispatches = g.dispatches)
    (journal : g'.journal = .taken id queue e :: g.journal) : Ledger g' := by
  have queues : ∀ queue', g'.registry.queue queue' =
      if queue = queue' then ⟨rest, waiting⟩ else g.registry.queue queue' := by
    intro queue'
    rw [registry, queue_setQueue_of_lt made]
  have lists : ∀ queue', (g'.registry.queue queue').waiting.Sublist
      (g.registry.queue queue').waiting := by
    intro queue'
    rw [queues]
    split
    · rename_i same
      exact same ▸ fewer
    · exact List.Sublist.refl _
  constructor
  case balance =>
    intro queue'
    rw [journal, queues]
    simp only [enqueued, dequeued]
    split
    · -- the envelope moves from the head of the queue to the end of what was taken
      rename_i same
      rw [l.balance, ← same, frames, List.map_append, List.append_assoc]
      rfl
    · exact l.balance queue'
  case bounded =>
    intro queue'
    rw [queues, registry]
    split
    · have bounded := l.bounded queue
      rw [frames] at bounded
      exact Nat.le_of_succ_le bounded
    · exact l.bounded queue'
  case waiting =>
    intro queue' caller e' mem
    rw [dispatches]
    exact l.waiting ((lists queue').mem mem)
  case callers =>
    intro queue'
    exact (l.callers queue').sublist ((lists queue').map _)

/-- A sender takes the first envelope, and a dispatch that waited gets the room. -/
theorem Ledger.took (l : Ledger g) (id : SessionId) (sessions : List Session) {queue : QueueId}
    {taken : Queue.Taken DispatchId}
    (made : queue < g.registry.queues.length)
    (popped : (g.registry.queue queue).pop? = some taken) :
    Ledger
      ({ g with
          registry := g.registry.setQueue queue taken.queue
          sessions
          journal := .taken id queue taken.frame :: g.journal }.letIn taken.served queue) := by
  obtain ⟨rest, frames, cases⟩ := Queue.pop?_cases popped
  rcases cases with ⟨served, waiting, left⟩ | ⟨caller, next, others, served, waiting, left⟩
  · rw [served]
    exact l.popped made frames (List.nil_sublist _) (by rw [← left]; rfl) rfl rfl
  · -- the caller's envelope goes on the queue as if it came after the other was taken
    have mem : (caller, next) ∈ (g.registry.queue queue).waiting := by
      rw [waiting]
      exact List.mem_cons_self
    obtain ⟨d, blocked, here, progress, rfl⟩ := l.waiting mem
    have callers := l.callers queue
    rw [waiting, List.map_cons, List.nodup_cons] at callers
    have before : Ledger
        { g with
          registry := g.registry.setQueue queue ⟨rest, others⟩
          sessions
          journal := .taken id queue taken.frame :: g.journal } := by
      refine l.popped made frames ?_ rfl rfl rfl
      rw [waiting]
      exact List.sublist_cons_self _ _
    have room : rest.length < g.registry.capacity := by
      have bounded := l.bounded queue
      rw [frames] at bounded
      exact bounded
    have pushed : ((g.registry.setQueue queue ⟨rest, others⟩).queue queue).push?
        g.registry.capacity d.request = some ⟨rest ++ [d.request], others⟩ := by
      rw [queue_setQueue_of_lt made, if_pos rfl]
      exact Queue.push?_eq_some.2 ⟨room, rfl⟩
    rw [served, letIn, Gateway.served, show Gateway.dispatches _ = g.dispatches from rfl, here]
    refine before.pushed ?_ pushed ?_ rfl fun {queue' other e'} mem => ?_
    · exact Nat.lt_of_lt_of_eq made List.length_set.symm
    · rw [left]
      show g.registry.setQueue queue _ = (g.registry.setQueue queue _).setQueue queue _
      simp only [Registry.setQueue, List.set_set]
    · -- the caller waits nowhere else, so nobody who still waits is touched
      refine List.getElem?_set_ne ?_
      rintro rfl
      rw [show Gateway.registry _ = g.registry.setQueue queue _ from rfl,
        queue_setQueue_of_lt made] at mem
      split at mem
      · exact callers.1 (List.mem_map.2 ⟨_, mem, rfl⟩)
      · rename_i apart
        obtain ⟨-, left', progress'⟩ := l.blocked_of_waiting mem here
        exact apart (Progress.blocked.inj (progress.symm.trans progress')).1

/-- A dispatch that gets the room waited in that queue. -/
theorem Ledger.blocked_of_served (l : Ledger g) {queue : QueueId} {taken : Queue.Taken DispatchId}
    {caller : DispatchId} {d : Dispatch} (popped : (g.registry.queue queue).pop? = some taken)
    (served : taken.served = some caller) (here : g.dispatches[caller]? = some d) :
    ∃ left, d.progress = .blocked queue left := by
  obtain ⟨rest, -, ⟨nobody, -⟩ | ⟨caller', next, others, served', waiting, -⟩⟩ :=
    Queue.pop?_cases popped
  · exact absurd (served.symm.trans nobody) (by simp)
  · obtain rfl := Option.some.inj (served.symm.trans served')
    have first : (caller, next) ∈ (g.registry.queue queue).waiting := by
      rw [waiting]
      exact List.mem_cons_self
    exact (l.blocked_of_waiting first here).2

/-- Every change keeps the ledger. -/
theorem ledger_of_change (t : Tenancy g) (l : Ledger g) (c : Change g g') : Ledger g' := by
  have started : ∀ {d : Dispatch} {queue : QueueId} {caller : DispatchId} {e : Envelope},
      (caller, e) ∈ (g.registry.queue queue).waiting →
        (g.dispatches ++ [d])[caller]? = g.dispatches[caller]? := by
    intro d queue caller e mem
    obtain ⟨d', left, here, -⟩ := l.waiting mem
    exact List.getElem?_append_left (List.getElem?_eq_some_iff.1 here).1
  have begins : ∀ {h : Gateway} {d : Dispatch}, h.registry = g.registry →
      h.dispatches = g.dispatches ++ [d] →
      (∀ queue, enqueued queue h.journal = enqueued queue g.journal) →
      (∀ queue, dequeued queue h.journal = dequeued queue g.journal) → Ledger h := by
    intro h d registry dispatches accepted taken
    constructor
    case balance =>
      intro queue
      rw [accepted, taken, registry, l.balance]
    case bounded =>
      rw [registry]
      exact l.bounded
    case waiting =>
      intro queue caller e mem
      rw [registry] at mem
      rw [dispatches, started mem]
      exact l.waiting mem
    case callers =>
      rw [registry]
      exact l.callers
  cases c with
  | enrolled e rest here greeting room =>
    -- a queue that is made is empty
    exact l.frame (Registry.queue_register _ _ _ _) (Registry.capacity_register _ _ _ _) rfl
      (fun _ => rfl) fun _ => rfl
  | @closed id s service current here serving fresh report =>
    obtain ⟨-, -, capacity⟩ := Registry.deregister_frame g.registry service.identity.group
      service.identity.node service.key
    exact l.frame (Registry.queue_deregister _ _ _ _) capacity rfl (fun _ => rfl) fun _ => rfl
  | offered origin live due pushed =>
    exact l.pushed (t.lt_of_isOpen live) pushed rfl rfl fun _ => rfl
  | took here serving reaching popped encoded =>
    exact l.took _ _ (t.queueMade (service?_eq_some.2 ⟨_, here, serving⟩)) popped
  | @skipped id s service taken cause here serving reaching popped unwritable =>
    have took := l.took id
      (g.sessions.set id { s with phase := .serving { service with sender := .idle } })
      (t.queueMade (service?_eq_some.2 ⟨s, here, serving⟩)) popped
    exact took.frame (fun _ => rfl) rfl rfl (fun _ => rfl) fun _ => rfl
  | begun group e timeout opened seen => exact begins rfl rfl (fun _ => rfl) fun _ => rfl
  | collided group e timeout taken => exact begins rfl rfl (fun _ => rfl) fun _ => rfl
  | resolved here verdict =>
    exact l.stops (l.unqueued_withdraw here) rfl (fun _ => rfl) fun _ => rfl
  | concluded here certain =>
    exact l.stops (l.unqueued here (by simp [certain])) rfl (fun _ => rfl) fun _ => rfl
  | forsaken here live undecided =>
    exact l.stops (l.unqueued_withdraw here) rfl (fun _ => rfl) fun _ => rfl
  | placed here placing among live pushed =>
    refine l.pushed (t.lt_of_isOpen live) pushed rfl rfl fun {queue' caller e'} mem => ?_
    -- who waits in some queue is not the dispatch that found room
    refine List.getElem?_set_ne ?_
    rintro rfl
    exact ((l.unqueued here (by simp [placing])).2 queue').2.2 e' mem
  | joined here placing among others live full =>
    exact l.joined here (by simp [placing]) rfl rfl rfl
  | passed here placing among others shut =>
    exact l.stops (l.unqueued here (by simp [placing])) rfl (fun _ => rfl) fun _ => rfl
  | movedOn here blocked shut =>
    exact l.stops (l.unqueued_leave here blocked) rfl (fun _ => rfl) fun _ => rfl
  | _ => exact l.frame (fun _ => rfl) rfl rfl (fun _ => rfl) fun _ => rfl

theorem ledger_of_attained {s : Settings} (h : Attained s g) : Ledger g := by
  induction h with
  | refl => exact ledger_start s
  | tail attained c ih => exact ledger_of_change (tenancy_of_attained attained) ih c

/-- What was taken from a queue is a prefix of what it accepted. -/
theorem dequeued_isPrefix_enqueued {s : Settings} (h : Attained s g) (queue : QueueId) :
    (dequeued queue g.journal).map (·.2) <+: (enqueued queue g.journal).map (·.1) := by
  rw [(ledger_of_attained h).balance]
  exact List.prefix_append _ _

theorem capacity_withdraw (g : Gateway) (id : DispatchId) (d : Dispatch) :
    (g.withdraw id d).registry.capacity = g.registry.capacity := by
  obtain ⟨queues, -, eq⟩ := OnlyQueues.withdraw g id d
  rw [eq]

theorem capacity_of_change (c : Change g g') : g'.registry.capacity = g.registry.capacity := by
  cases c with
  | enrolled e rest here greeting room => exact Registry.capacity_register _ _ _ _
  | closed current here serving fresh report =>
    exact (Registry.deregister_frame g.registry _ _ _).2.2
  | took here serving reaching popped encoded =>
    rw [registry_letIn]
    rfl
  | skipped here serving reaching popped unwritable =>
    show (Gateway.registry (letIn _ _ _)).capacity = _
    rw [registry_letIn]
    rfl
  | resolved here verdict => exact capacity_withdraw g _ _
  | forsaken here live undecided => exact capacity_withdraw g _ _
  | _ => rfl

theorem capacity_of_attained {s : Settings} (h : Attained s g) :
    g.registry.capacity = s.queueCapacity := by
  induction h with
  | refl => rfl
  | tail _ c ih => rw [capacity_of_change c, ih]

end Ledger

end Gateway

end Switchboard
