import Switchboard.Gateway.Step
import Switchboard.Proofs.Registration
import Mathlib.Logic.Relation

/-!
# Elementary changes of a gateway

An input or a move of a gateway can do several things at once: a session that ends also leaves the
registry and puts a close marker on its queue, a sender that takes an envelope lets a waiting
dispatch in. This module says what the moves of a session (`Deed`, `deed_of_move`) and of a dispatch
(`Turn`, `turn_of_move`) do and splits all actions into elementary changes, each of which names the
fields it touches and the condition under which it happens (`Change`). Every action is a sequence of
such changes (`changes_of_act`), so what every change keeps holds in every state a run can come to
(`Attained`, `attained_of_reachable`). Which gauges are still to be set is left open by all of them.

Only the counters of what was dropped, envelopes that could not be written and replies that came too
late, are followed: the change that drops something counts it, and all other changes leave the two
alone (`SameDrops`).
-/

set_option autoImplicit false

namespace Switchboard

/-- A dispatch that waits for something is open and has no result. -/
theorem Progress.isSettled_eq_false {p : Progress} :
    p.isSettled = false ↔ p.isOpen = true ∧ p.result? = none := by
  cases p <;> simp [isSettled, isOpen, result?]

theorem Progress.isSettled_of_over {p : Progress} (stopped : p.isOpen = false) :
    p.isSettled = true := by
  cases p <;> simp_all [isSettled, isOpen]

theorem Progress.isSettled_of_certain {p : Progress} {result : DispatchResult}
    (certain : p.result? = some result) : p.isSettled = true := by
  cases p <;> simp_all [isSettled, result?]

namespace Gateway

/-! ## Places in the lists of sessions and dispatches -/

theorem set_self_of_getElem? {α : Type} {l : List α} {i : Nat} {a : α} (h : l[i]? = some a) :
    l.set i a = l := by
  obtain ⟨lt, rfl⟩ := List.getElem?_eq_some_iff.1 h
  exact List.set_getElem_self lt

/-- What is found after one place was set. -/
theorem getElem?_set_cases {α : Type} {l : List α} {i j : Nat} {a b : α}
    (h : (l.set i a)[j]? = some b) : (j = i ∧ b = a) ∨ (j ≠ i ∧ l[j]? = some b) := by
  rw [List.getElem?_set] at h
  by_cases same : i = j
  · rw [if_pos same] at h
    split at h
    · exact Or.inl ⟨same.symm, (Option.some.inj h).symm⟩
    · exact absurd h (by simp)
  · rw [if_neg same] at h
    exact Or.inr ⟨fun eq => same eq.symm, h⟩

theorem getElem?_eq_none_of_set {α : Type} {l : List α} {a : α} {i j : Nat}
    (h : (l.set i a)[j]? = none) : l[j]? = none := by
  rw [List.getElem?_eq_none_iff, List.length_set] at h
  exact List.getElem?_eq_none h

/-- What is found after one item was added at the end. -/
theorem getElem?_concat_cases {α : Type} {l : List α} {a b : α} {i : Nat}
    (h : (l ++ [a])[i]? = some b) : l[i]? = some b ∨ (i = l.length ∧ b = a) := by
  rw [List.getElem?_append] at h
  split at h
  · exact Or.inl h
  · rename_i beyond
    obtain ⟨lt, eq⟩ := List.getElem?_eq_some_iff.1 h
    rw [List.length_singleton] at lt
    refine Or.inr ⟨by omega, ?_⟩
    simpa using eq.symm

theorem getElem?_eq_none_of_concat {α : Type} {l : List α} {a : α} {i : Nat}
    (h : (l ++ [a])[i]? = none) : l[i]? = none := by
  rw [List.getElem?_eq_none_iff, List.length_append] at h
  exact List.getElem?_eq_none (Nat.le_trans (Nat.le_add_right _ _) h)

/-- Nothing can be taken from an empty queue only. -/
theorem pop?_eq_none {σ : Type} {q : Queue σ} : q.pop? = none ↔ q.frames = [] := by
  rw [Queue.pop?]
  split <;> simp_all

/-- The end of the bytes from a worker touches nothing else of its session. -/
theorem cutOff_frame (s : Session) (tail : Wire.Tail) :
    (s.cutOff tail).phase = s.phase ∧ s.inbound <+: (s.cutOff tail).inbound ∧
      (s.cutOff tail).outbound.buffered <:+ s.outbound.buffered := by
  unfold Session.cutOff
  split <;> exact ⟨rfl, List.prefix_rfl, List.suffix_rfl⟩

/-! ## Actions and elementary changes -/

/-- What happens next in a gateway: something from outside, or a move of its own. -/
inductive Action
  | input (i : Input)
  | move (m : Move)
  deriving DecidableEq, Repr, Inhabited

/-- The gateway after an action, if the action can happen. -/
def act? (g : Gateway) : Action → Option Gateway
  | .input i => some (g.input i)
  | .move m => g.move? m

/-- The registration key of the connection that opens with this frame. -/
def newKey (g : Gateway) (e : Envelope) : String :=
  connectionKey (firstIdentity e).connTag (g.accepted + 1)

/-- The registration of the connection that opens with this frame. -/
def newRegistration (g : Gateway) (e : Envelope) : Registration × Registry DispatchId :=
  g.registry.register (firstIdentity e).group (firstIdentity e).node (g.newKey e)

/-- What the session that opens with this frame does for its node at first. -/
def newService (g : Gateway) (e : Envelope) : Service :=
  { identity := firstIdentity e
    key := g.newKey e
    queue := (g.newRegistration e).1.queue
    signal := (g.newRegistration e).1.signal
    first := if e.command = .register then none else some e }

/-- The dispatch that a caller's command starts as, before it has its id. -/
def newDispatch (g : Gateway) (group : String) (e : Envelope) (timeout : Nat) : Dispatch :=
  { group
    request := e.stamped g.ids.next.1
    timeout := .ofMillis timeout
    deadline := g.clock + timeout
    claim := none
    attempts := 0
    progress := .placing [] }

/-- The dispatch that starts under this claim, with these candidates to try. -/
def started (g : Gateway) (group : String) (e : Envelope) (timeout : Nat)
    (claim : Correlation.Claim) (replies : Correlation.Table) (left : List Candidate) : Gateway :=
  { g with
    ids := g.ids.next.2
    replies
    dispatches := g.dispatches ++
      [{ g.newDispatch group e timeout with
         claim := some claim
         attempts := left.length
         progress := .placing left }]
    journal := .opened g.dispatches.length g.ids.next.1 :: g.journal }

/-- What a sender does when this much of a frame is left. -/
def senderWith (left : List UInt8) : Sender := if left.isEmpty then .idle else .writing left

/-- A session has this frame to handle next, and these bytes behind it. -/
def Reads (limit : Nat) (s : Session) (service : Service) (e : Envelope) (inbound : List UInt8) :
    Prop :=
  (service.first = some e ∧ inbound = s.inbound) ∨
    (service.first = none ∧ Wire.Frame.next limit s.inbound s.inboundTail = .frame e inbound)

/-- A session after it read a frame. -/
def afterRead (s : Session) (service : Service) (inbound : List UInt8) : Session :=
  { s with inbound, phase := .serving { service with first := none } }

/-- Metrics with the same counts of what was dropped. -/
def SameDrops (m m' : Metrics) : Prop :=
  m'.value .framesDropped = m.value .framesDropped ∧
    m'.value .repliesDropped = m.value .repliesDropped

/-- Why the result of a dispatch becomes certain. -/
inductive Verdict (g : Gateway) (d : Dispatch) : DispatchResult → Prop
  | tooLarge : d.progress = .placing [] → g.settings.dispatchLimit < Wire.bodySize d.request →
      Verdict g d (.error (.tooLarge g.settings.dispatchLimit (Wire.bodySize d.request)))
  | groupNotFound : d.progress = .placing [] → g.registry.candidates d.group = none →
      Verdict g d (.error (.groupNotFound d.group))
  | exhausted : d.progress = .placing [] →
      Verdict g d (.error (.dispatchFailed d.group d.attempts))
  | replied {e : Envelope} : d.progress = .awaiting → g.look d = .reply e → Verdict g d (.ok e)
  | abandoned : d.progress = .awaiting → g.look d = .closed →
      Verdict g d (.error (.timeout d.timeout))
  | lapsed : (∃ queue left, d.progress = .blocked queue left ∧ g.isOpen queue = true) ∨
        (d.progress = .awaiting ∧ g.look d = .pending) → d.deadline ≤ g.clock →
      Verdict g d (.error (.timeout d.timeout))

/-- Only the result of a dispatch that waits for something becomes certain. -/
theorem Verdict.isSettled {g : Gateway} {d : Dispatch} {result : DispatchResult}
    (verdict : Verdict g d result) : d.progress.isSettled = false := by
  cases verdict with
  | tooLarge progress big => rw [progress]; rfl
  | groupNotFound progress missing => rw [progress]; rfl
  | exhausted progress => rw [progress]; rfl
  | replied progress seen => rw [progress]; rfl
  | abandoned progress seen => rw [progress]; rfl
  | lapsed waits due =>
    rcases waits with ⟨queue, left, progress, -⟩ | ⟨progress, -⟩
    · rw [progress]
      rfl
    · rw [progress]
      rfl

/-- When a keepalive is due on a queue: a heartbeat has one for every queue of a registered node, and
a session that served its node to the last has one as the close marker of its queue. -/
inductive Due (g : Gateway) (queue : QueueId) : Origin → Prop
  | heartbeat (id : HeartbeatId) (owned : g.registry.owns queue = true) :
      Due g queue (.heartbeat id)
  | closing {id : SessionId} {s : Session} {service : Service} {before : List Event}
      (here : g.sessions[id]? = some s) (serving : s.phase = .serving service)
      (mine : service.queue = queue) (now : g.journal = .closed id true :: before) :
      Due g queue (.closing id)

/-- One elementary change of a gateway. -/
inductive Change (g : Gateway) : Gateway → Prop
  /-- The clock, the signals to stop, the heartbeats, the metrics and the gauges to be set. -/
  | aside {clock : Nat} {stopping beatsStopping : Bool} {heartbeats : List Heartbeat}
      {metrics : Metrics} {reports : Assoc Reporter (Option Nat)}
      (drops : SameDrops g.metrics metrics) (later : g.clock ≤ clock)
      (stops : g.stopping = true → stopping = true)
      (stills : g.beatsStopping = true → beatsStopping = true) :
      Change g { g with clock, stopping, beatsStopping, heartbeats, metrics, reports }
  /-- A number that a gauge is to show is read. -/
  | tallied (reporter : Reporter) (number : Nat) :
      Change g { g with journal := .tallied reporter number :: g.journal }
  /-- A gauge is set. -/
  | published (reporter : Reporter) (number : Nat) :
      Change g { g with journal := .published reporter number :: g.journal }
  /-- A heartbeat stops. -/
  | stilled (id : HeartbeatId) : Change g { g with journal := .stopped id :: g.journal }
  /-- A worker connects. -/
  | connected {s : Session} {deadline : Nat} (greeting : s.phase = .greeting deadline)
      (inbound : s.inbound = []) (outbound : s.outbound.buffered = []) :
      Change g { g with sessions := g.sessions ++ [s] }
  /-- A worker does something to its stream. -/
  | streamed {id : SessionId} {s t : Session} (here : g.sessions[id]? = some s)
      (phase : t.phase = s.phase) (inbound : s.inbound <+: t.inbound)
      (outbound : t.outbound.buffered <:+ s.outbound.buffered) :
      Change g { g with sessions := g.sessions.set id t }
  /-- A session ends before its first frame. -/
  | dismissed {id : SessionId} {s : Session} {deadline : Nat} (reason : SessionError)
      (here : g.sessions[id]? = some s) (greeting : s.phase = .greeting deadline) :
      Change g
        { g with
          sessions := g.sessions.set id { s with phase := .ended reason }
          journal := .ended id reason :: g.journal }
  /-- A session breaks down because no queue can be made. -/
  | broke {id : SessionId} {s : Session} {deadline : Nat}
      (here : g.sessions[id]? = some s) (greeting : s.phase = .greeting deadline) :
      Change g
        { g with
          accepted := g.accepted + 1
          sessions := g.sessions.set id { s with phase := .brokenDown } }
  /-- A session registers its node. -/
  | enrolled {id : SessionId} {s : Session} {deadline : Nat} (e : Envelope)
      (rest : List UInt8) (here : g.sessions[id]? = some s) (greeting : s.phase = .greeting deadline)
      (room : g.registry.canRegister (firstIdentity e).node = true) :
      Change g
        { g with
          registry := (g.newRegistration e).2
          accepted := g.accepted + 1
          sessions :=
            g.sessions.set id { s with inbound := rest, phase := .serving (g.newService e) }
          journal := .registered id (g.newService e) :: g.journal }
  /-- A session reads a frame that is no reply. -/
  | heeded {id : SessionId} {s : Session} {service : Service} {e : Envelope}
      {inbound : List UInt8} (here : g.sessions[id]? = some s)
      (serving : s.phase = .serving service) (read : Reads g.settings.sessionLimit s service e inbound)
      (aside : e.command.isControl = true ∨ e.correlationId = noReply) :
      Change g
        { g with
          sessions := g.sessions.set id (afterRead s service inbound)
          journal := .received id e :: g.journal }
  /-- A session reads a reply and hands it to the dispatch that waits for it. -/
  | answered {id : SessionId} {s : Session} {service : Service} {e : Envelope}
      {inbound : List UInt8} {ticket : Correlation.Ticket} {replies : Correlation.Table}
      (here : g.sessions[id]? = some s) (serving : s.phase = .serving service)
      (read : Reads g.settings.sessionLimit s service e inbound)
      (plain : e.command.isControl = false)
      (handed : g.replies.deliver e = (.delivered ticket, replies)) :
      Change g
        { g with
          sessions := g.sessions.set id (afterRead s service inbound)
          replies
          journal := .delivered ticket e :: .received id e :: g.journal }
  /-- A session reads a reply that nobody waits for. -/
  | unanswered {id : SessionId} {s : Session} {service : Service} {e : Envelope}
      {inbound : List UInt8} {replies : Correlation.Table}
      (here : g.sessions[id]? = some s) (serving : s.phase = .serving service)
      (read : Reads g.settings.sessionLimit s service e inbound)
      (plain : e.command.isControl = false)
      (missed : g.replies.deliver e = (.noWaiter, replies)) :
      Change g
        { g with
          sessions := g.sessions.set id (afterRead s service inbound)
          metrics := g.metrics.add .repliesDropped 1
          journal := .received id e :: g.journal }
  /-- A session does its closing actions. -/
  | closed {id : SessionId} {s : Session} {service : Service} (current : Bool)
      (here : g.sessions[id]? = some s) (serving : s.phase = .serving service)
      (fresh : service.closed = false)
      (report : current = true ↔ ∃ members, (g.registry.deregister service.identity.group
        service.identity.node service.key).1 = .removed members) :
      Change g
        { g with
          registry :=
            (g.registry.deregister service.identity.group service.identity.node service.key).2
          sessions :=
            g.sessions.set id { s with phase := .serving { service with closed := true } }
          journal := .closed id current :: g.journal }
  /-- A keepalive goes on an open queue. -/
  | offered {queue : QueueId} (origin : Origin) {q : Queue DispatchId}
      (live : g.isOpen queue = true) (due : Due g queue origin)
      (pushed : (g.registry.queue queue).push? g.registry.capacity .keepalive = some q) :
      Change g
        { g with
          registry := g.registry.setQueue queue q
          journal := .queued queue .keepalive origin :: g.journal }
  /-- A session that has done its closing actions ends. -/
  | ended {id : SessionId} {s : Session} {service : Service} (reason : SessionError)
      (here : g.sessions[id]? = some s) (serving : s.phase = .serving service)
      (past : service.closed = true) :
      Change g
        { g with
          sessions := g.sessions.set id { s with phase := .ended reason }
          journal := .ended id reason :: g.journal }
  /-- A sender gets hold of its queue. -/
  | acquired {id : SessionId} {s : Session} {service : Service}
      (here : g.sessions[id]? = some s) (serving : s.phase = .serving service)
      (waiting : service.sender = .waiting) (free : g.held service.queue = false) :
      Change g
        { g with
          sessions := g.sessions.set id { s with phase := .serving { service with sender := .idle } } }
  /-- A sender lets go of its queue. -/
  | retired {id : SessionId} {s : Session} {service : Service}
      (here : g.sessions[id]? = some s) (serving : s.phase = .serving service)
      (between : service.sender = .waiting ∨ service.sender = .idle)
      (notified : g.registry.notified service.signal = true) :
      Change g
        { g with
          registry := g.registry.takeSignal service.signal
          sessions :=
            g.sessions.set id { s with phase := .serving { service with sender := .retired } } }
  /-- A sender sees no takeover and reaches for its queue. -/
  | looked {id : SessionId} {s : Session} {service : Service}
      (here : g.sessions[id]? = some s) (serving : s.phase = .serving service)
      (idle : service.sender = .idle) (current : g.registry.notified service.signal = false) :
      Change g
        { g with
          sessions :=
            g.sessions.set id { s with phase := .serving { service with sender := .reaching } }
          journal := .looked id :: g.journal }
  /-- A sender reaches for its queue and finds it empty. -/
  | missed {id : SessionId} {s : Session} {service : Service}
      (here : g.sessions[id]? = some s) (serving : s.phase = .serving service)
      (reaching : service.sender = .reaching)
      (empty : (g.registry.queue service.queue).frames = []) :
      Change g
        { g with
          sessions := g.sessions.set id { s with phase := .serving { service with sender := .idle } } }
  /-- A sender takes the first envelope of its queue to write it, and a dispatch that waited gets
  the room. -/
  | took {id : SessionId} {s : Session} {service : Service} {taken : Queue.Taken DispatchId}
      {bytes : List UInt8}
      (here : g.sessions[id]? = some s) (serving : s.phase = .serving service)
      (reaching : service.sender = .reaching)
      (popped : (g.registry.queue service.queue).pop? = some taken)
      (encoded : Wire.Frame.encode g.settings.sessionLimit taken.frame = .ok bytes) :
      Change g
        ({ g with
            registry := g.registry.setQueue service.queue taken.queue
            sessions :=
              g.sessions.set id
                { s with phase := .serving { service with sender := .writing bytes } }
            journal := .taken id service.queue taken.frame :: g.journal }.letIn
          taken.served service.queue)
  /-- A sender takes the first envelope of its queue and skips it, because it cannot be written. -/
  | skipped {id : SessionId} {s : Session} {service : Service} {taken : Queue.Taken DispatchId}
      {cause : Wire.CodecError}
      (here : g.sessions[id]? = some s) (serving : s.phase = .serving service)
      (reaching : service.sender = .reaching)
      (popped : (g.registry.queue service.queue).pop? = some taken)
      (unwritable : Wire.Frame.encode g.settings.sessionLimit taken.frame = .error cause) :
      Change g
        (({ g with
            registry := g.registry.setQueue service.queue taken.queue
            sessions :=
              g.sessions.set id { s with phase := .serving { service with sender := .idle } }
            journal := .taken id service.queue taken.frame :: g.journal }.letIn
          taken.served service.queue |>.count .framesDropped 1).record (.skipped id taken.frame))
  /-- A sender writes to its stream. -/
  | wrote {id : SessionId} {s : Session} {service : Service} {rest : List UInt8} {count : Nat}
      (here : g.sessions[id]? = some s) (serving : s.phase = .serving service)
      (writing : service.sender = .writing rest) (pos : 0 < count)
      (room : count ≤ s.outbound.room) (le : count ≤ rest.length)
      (whole : s.outbound.broken = false) :
      Change g
        { g with
          sessions :=
            g.sessions.set id
              { s with
                outbound :=
                  { s.outbound with buffered := s.outbound.buffered ++ rest.take count }
                phase := .serving { service with sender := senderWith (rest.drop count) } }
          journal := .wrote id (rest.take count) :: g.journal }
  /-- A dispatch starts under an id of its own. -/
  | begun (group : String) (e : Envelope) (timeout : Nat) {claim : Correlation.Claim}
      {replies : Correlation.Table} {left : List Candidate}
      (opened : g.replies.open? g.ids.next.1 = some (claim, replies))
      (seen : left = [] ∨ g.registry.candidates group = some left)
      (fits : left = [] ∨ Wire.bodySize (e.stamped g.ids.next.1) ≤ g.settings.dispatchLimit) :
      Change g (g.started group e timeout claim replies left)
  /-- A dispatch fails at once because its id cannot be had, and holds no slot. -/
  | collided (group : String) (e : Envelope) (timeout : Nat)
      (taken : g.replies.open? g.ids.next.1 = none) :
      Change g
        { g with
          ids := g.ids.next.2
          dispatches := g.dispatches ++
            [{ g.newDispatch group e timeout with
               progress := .resolved (.error (.collision g.ids.next.1)) }]
          journal :=
            .resolved g.dispatches.length (.error (.collision g.ids.next.1)) :: g.journal }
  /-- The result of a dispatch becomes certain. -/
  | resolved {id : DispatchId} {d : Dispatch} {result : DispatchResult}
      (here : g.dispatches[id]? = some d) (verdict : Verdict g d result) :
      Change g
        { g.withdraw id d with
          dispatches := g.dispatches.set id { d with progress := .resolved result }
          journal := .resolved id result :: g.journal }
  /-- A dispatch whose result is certain gives back its slot and returns. -/
  | concluded {id : DispatchId} {d : Dispatch} {result : DispatchResult}
      (here : g.dispatches[id]? = some d) (certain : d.progress = .resolved result) :
      Change g
        { g.release d with
          dispatches := g.dispatches.set id { d with progress := .done result }
          journal := .finished id result :: g.journal }
  /-- The caller of a dispatch goes away before it has a result. -/
  | forsaken {id : DispatchId} {d : Dispatch}
      (here : g.dispatches[id]? = some d) (live : d.progress.isOpen = true)
      (undecided : d.progress.result? = none) :
      Change g
        { (g.withdraw id d).release d with
          dispatches := g.dispatches.set id { d with progress := .cancelled }
          journal := .cancelled id :: g.journal }
  /-- A queue takes the envelope of a dispatch. -/
  | placed {id : DispatchId} {d : Dispatch} {left : List Candidate} {candidate : Candidate}
      {q : Queue DispatchId}
      (here : g.dispatches[id]? = some d) (placing : d.progress = .placing left)
      (among : candidate ∈ left) (live : g.isOpen candidate.queue = true)
      (pushed : (g.registry.queue candidate.queue).push? g.registry.capacity d.request = some q) :
      Change g
        { g with
          registry := g.registry.setQueue candidate.queue q
          dispatches := g.dispatches.set id { d with progress := .awaiting }
          journal := .queued candidate.queue d.request (.dispatch id) :: g.journal }
  /-- A dispatch finds a queue full and waits for room. -/
  | joined {id : DispatchId} {d : Dispatch} {left remaining : List Candidate}
      {candidate : Candidate}
      (here : g.dispatches[id]? = some d) (placing : d.progress = .placing left)
      (among : candidate ∈ left) (others : remaining ⊆ left)
      (live : g.isOpen candidate.queue = true)
      (full : (g.registry.queue candidate.queue).hasRoom g.registry.capacity = false) :
      Change g
        { g with
          registry := g.registry.setQueue candidate.queue
            ((g.registry.queue candidate.queue).join id d.request)
          dispatches :=
            g.dispatches.set id { d with progress := .blocked candidate.queue remaining } }
  /-- A dispatch passes over a candidate whose queue is closed. -/
  | passed {id : DispatchId} {d : Dispatch} {left remaining : List Candidate}
      {candidate : Candidate}
      (here : g.dispatches[id]? = some d) (placing : d.progress = .placing left)
      (among : candidate ∈ left) (others : remaining ⊆ left)
      (shut : g.isOpen candidate.queue = false) :
      Change g
        { g with dispatches := g.dispatches.set id { d with progress := .placing remaining } }
  /-- A dispatch leaves a queue that was closed. -/
  | movedOn {id : DispatchId} {d : Dispatch} {queue : QueueId} {left : List Candidate}
      (here : g.dispatches[id]? = some d) (blocked : d.progress = .blocked queue left)
      (shut : g.isOpen queue = false) :
      Change g
        { g with
          registry := g.registry.setQueue queue ((g.registry.queue queue).leave id)
          dispatches := g.dispatches.set id { d with progress := .placing left } }

/-- A sequence of elementary changes. -/
abbrev Changes : Gateway → Gateway → Prop := Relation.ReflTransGen Change

/-! ## What a move of a session does -/

/-- The gateway after a sender took the first envelope of its queue, and whoever waited for the room
got it. -/
def afterTaking (g : Gateway) (id : SessionId) (service : Service) (taken : Queue.Taken DispatchId) :
    Gateway :=
  ({ g with registry := g.registry.setQueue service.queue taken.queue }.record
    (.taken id service.queue taken.frame)).letIn taken.served service.queue

/-- The gateway after a sender handed this many bytes of a frame to its stream. -/
def afterWriting (g : Gateway) (id : SessionId) (s : Session) (service : Service) (rest : List UInt8)
    (count : Nat) : Gateway :=
  (g.setSender id
    { s with outbound := { s.outbound with buffered := s.outbound.buffered ++ rest.take count } }
    service (senderWith (rest.drop count))).record (.wrote id (rest.take count))

/-- What a move of a session does, and when. -/
inductive Deed (g : Gateway) (id : SessionId) : Move → Gateway → Prop
  /-- The session ends before its first frame. -/
  | dismissed {m : Move} {s : Session} {deadline : Nat} (reason : SessionError)
      (how : m = .greet id ∨ m = .giveUp id ∨ m = .halt id) (here : g.sessions[id]? = some s)
      (greeting : s.phase = .greeting deadline) : Deed g id m (g.dismiss id s reason)
  /-- It registers its node. -/
  | enrolled {s : Session} {deadline : Nat} (e : Envelope) (rest : List UInt8)
      (here : g.sessions[id]? = some s) (greeting : s.phase = .greeting deadline)
      (room : g.registry.canRegister (firstIdentity e).node = true) :
      Deed g id (.greet id) (g.enroll id s e rest)
  /-- It breaks down because no queue can be made. -/
  | broke {s : Session} {deadline : Nat} (here : g.sessions[id]? = some s)
      (greeting : s.phase = .greeting deadline) : Deed g id (.greet id) (g.breakDown id s)
  /-- It ends and does its closing actions if they were not done. -/
  | finished {m : Move} {s : Session} {service : Service} (reason : SessionError)
      (how : m = .receive id ∨ m = .write id ∨ m = .halt id) (here : g.sessions[id]? = some s)
      (serving : s.phase = .serving service) : Deed g id m (g.finish id s service reason)
  /-- It reads a frame. -/
  | handled {s : Session} {service : Service} {e : Envelope} {inbound : List UInt8}
      (here : g.sessions[id]? = some s) (serving : s.phase = .serving service)
      (read : Reads g.settings.sessionLimit s service e inbound) :
      Deed g id (.receive id) (g.handle id { s with inbound } { service with first := none } e)
  /-- Its sender gets hold of the queue. -/
  | acquired {s : Session} {service : Service} (here : g.sessions[id]? = some s)
      (serving : s.phase = .serving service) (waiting : service.sender = .waiting)
      (free : g.held service.queue = false) : Deed g id (.acquire id) (g.setSender id s service .idle)
  /-- Its sender lets go of the queue. -/
  | retired {s : Session} {service : Service} (here : g.sessions[id]? = some s)
      (serving : s.phase = .serving service)
      (between : service.sender = .waiting ∨ service.sender = .idle)
      (notified : g.registry.notified service.signal = true) :
      Deed g id (.retire id)
        ({ g with registry := g.registry.takeSignal service.signal }.setSender id s service .retired)
  /-- Its sender sees no takeover and reaches for the queue. -/
  | looked {s : Session} {service : Service} (here : g.sessions[id]? = some s)
      (serving : s.phase = .serving service) (idle : service.sender = .idle)
      (current : g.registry.notified service.signal = false) :
      Deed g id (.reach id) ((g.setSender id s service .reaching).record (.looked id))
  /-- Its sender finds the queue empty. -/
  | missed {s : Session} {service : Service} (here : g.sessions[id]? = some s)
      (serving : s.phase = .serving service) (reaching : service.sender = .reaching)
      (empty : (g.registry.queue service.queue).frames = []) :
      Deed g id (.take id) (g.setSender id s service .idle)
  /-- Its sender takes an envelope to write it. -/
  | took {s : Session} {service : Service} {taken : Queue.Taken DispatchId} {bytes : List UInt8}
      (here : g.sessions[id]? = some s) (serving : s.phase = .serving service)
      (reaching : service.sender = .reaching)
      (first : (g.registry.queue service.queue).pop? = some taken)
      (encoded : Wire.Frame.encode g.settings.sessionLimit taken.frame = .ok bytes) :
      Deed g id (.take id) ((g.afterTaking id service taken).setSender id s service (.writing bytes))
  /-- Its sender takes an envelope and skips it. -/
  | skipped {s : Session} {service : Service} {taken : Queue.Taken DispatchId}
      {cause : Wire.CodecError} (here : g.sessions[id]? = some s)
      (serving : s.phase = .serving service) (reaching : service.sender = .reaching)
      (first : (g.registry.queue service.queue).pop? = some taken)
      (unwritable : Wire.Frame.encode g.settings.sessionLimit taken.frame = .error cause) :
      Deed g id (.take id)
        ((((g.afterTaking id service taken).setSender id s service .idle).count
          .framesDropped 1).record (.skipped id taken.frame))
  /-- Its sender writes. -/
  | wrote {s : Session} {service : Service} {rest : List UInt8} {count : Nat}
      (here : g.sessions[id]? = some s) (serving : s.phase = .serving service)
      (writing : service.sender = .writing rest) (whole : s.outbound.broken = false)
      (pos : 0 < count) (room : count ≤ s.outbound.room) (le : count ≤ rest.length) :
      Deed g id (.write id) (g.afterWriting id s service rest count)

section Deeds

variable {g g' : Gateway} {id : SessionId}

theorem serving?_eq_some {s : Session} {service : Service} :
    g.serving? id = some (s, service) ↔
      g.sessions[id]? = some s ∧ s.phase = .serving service := by
  unfold serving?
  cases here : g.sessions[id]? with
  | none => simp
  | some t => cases phase : t.phase <;> simp <;> grind

theorem greeting?_eq_some {s : Session} {deadline : Nat} :
    g.greeting? id = some (s, deadline) ↔
      g.sessions[id]? = some s ∧ s.phase = .greeting deadline := by
  unfold greeting?
  cases here : g.sessions[id]? with
  | none => simp
  | some t => cases phase : t.phase <;> simp <;> grind

theorem deed_of_greet (h : g.greet id = some g') : Deed g id (.greet id) g' := by
  obtain ⟨⟨s, deadline⟩, waiting, h⟩ := Option.bind_eq_some_iff.1 h
  obtain ⟨here, greeting⟩ := greeting?_eq_some.1 waiting
  dsimp only at h
  split at h
  · exact absurd h (by simp)
  · obtain rfl := Option.some.inj h
    exact .dismissed _ (Or.inl rfl) here greeting
  · obtain rfl := Option.some.inj h
    exact .dismissed _ (Or.inl rfl) here greeting
  · obtain rfl := Option.some.inj h
    rw [welcome]
    split
    · rename_i room
      exact .enrolled _ _ here greeting room
    · exact .broke here greeting

theorem deed_of_giveUp (h : g.giveUp id = some g') : Deed g id (.giveUp id) g' := by
  obtain ⟨⟨s, deadline⟩, waiting, h⟩ := Option.bind_eq_some_iff.1 h
  obtain ⟨here, greeting⟩ := greeting?_eq_some.1 waiting
  dsimp only at h
  split at h
  · obtain rfl := Option.some.inj h
    exact .dismissed _ (Or.inr (Or.inl rfl)) here greeting
  · exact absurd h (by simp)

theorem deed_of_halt (h : g.halt id = some g') : Deed g id (.halt id) g' := by
  rw [halt] at h
  split at h
  · split at h
    · rename_i serves
      obtain ⟨here, serving⟩ := serving?_eq_some.1 serves
      obtain rfl := Option.some.inj h
      exact .finished _ (Or.inr (Or.inr rfl)) here serving
    · rename_i waiting
      obtain ⟨here, greeting⟩ := greeting?_eq_some.1 waiting
      obtain rfl := Option.some.inj h
      exact .dismissed _ (Or.inr (Or.inr rfl)) here greeting
    · exact absurd h (by simp)
  · exact absurd h (by simp)

theorem deed_of_receive (h : g.receive id = some g') : Deed g id (.receive id) g' := by
  obtain ⟨⟨s, service⟩, serves, h⟩ := Option.bind_eq_some_iff.1 h
  obtain ⟨here, serving⟩ := serving?_eq_some.1 serves
  dsimp only at h
  cases first : service.first with
  | some e =>
    rw [first] at h
    obtain rfl := Option.some.inj h
    exact .handled here serving (Or.inl ⟨first, rfl⟩)
  | none =>
    rw [first] at h
    dsimp only at h
    split at h
    · exact absurd h (by simp)
    · obtain rfl := Option.some.inj h
      exact .finished _ (Or.inl rfl) here serving
    · obtain rfl := Option.some.inj h
      exact .finished _ (Or.inl rfl) here serving
    · rename_i next
      obtain rfl := Option.some.inj h
      have deed := Deed.handled here serving (Or.inr ⟨first, next⟩)
      rwa [← first] at deed

theorem deed_of_acquire (h : g.acquire id = some g') : Deed g id (.acquire id) g' := by
  obtain ⟨⟨s, service⟩, serves, h⟩ := Option.bind_eq_some_iff.1 h
  obtain ⟨here, serving⟩ := serving?_eq_some.1 serves
  dsimp only at h
  split at h
  · rename_i free
    obtain rfl := Option.some.inj h
    exact .acquired here serving free.1 free.2
  · exact absurd h (by simp)

theorem deed_of_retire (h : g.retire id = some g') : Deed g id (.retire id) g' := by
  obtain ⟨⟨s, service⟩, serves, h⟩ := Option.bind_eq_some_iff.1 h
  obtain ⟨here, serving⟩ := serving?_eq_some.1 serves
  dsimp only at h
  split at h
  · rename_i told
    obtain rfl := Option.some.inj h
    exact .retired here serving told.1 told.2
  · exact absurd h (by simp)

theorem deed_of_reach (h : g.reach id = some g') : Deed g id (.reach id) g' := by
  obtain ⟨⟨s, service⟩, serves, h⟩ := Option.bind_eq_some_iff.1 h
  obtain ⟨here, serving⟩ := serving?_eq_some.1 serves
  dsimp only at h
  split at h
  · rename_i ready
    obtain rfl := Option.some.inj h
    exact .looked here serving ready.1 ready.2
  · exact absurd h (by simp)

theorem deed_of_take (h : g.take id = some g') : Deed g id (.take id) g' := by
  obtain ⟨⟨s, service⟩, serves, h⟩ := Option.bind_eq_some_iff.1 h
  obtain ⟨here, serving⟩ := serving?_eq_some.1 serves
  dsimp only at h
  split at h
  · rename_i reaching
    split at h
    · rename_i none
      obtain rfl := Option.some.inj h
      exact .missed here serving reaching (pop?_eq_none.1 none)
    · rename_i taken first
      split at h
      · rename_i encoded
        obtain rfl := Option.some.inj h
        exact .took here serving reaching first encoded
      · rename_i unwritable
        obtain rfl := Option.some.inj h
        exact .skipped here serving reaching first unwritable
  · exact absurd h (by simp)

theorem deed_of_write (h : g.write id = some g') : Deed g id (.write id) g' := by
  obtain ⟨⟨s, service⟩, serves, h⟩ := Option.bind_eq_some_iff.1 h
  obtain ⟨here, serving⟩ := serving?_eq_some.1 serves
  dsimp only at h
  split at h
  · rename_i rest writing
    split at h
    · obtain rfl := Option.some.inj h
      exact .finished _ (Or.inr (Or.inl rfl)) here serving
    · rename_i whole
      split at h
      · exact absurd h (by simp)
      · rename_i some
        obtain rfl := Option.some.inj h
        exact .wrote here serving writing (Bool.eq_false_iff.2 whole) (Nat.pos_of_ne_zero some)
          (Nat.min_le_left _ _) (Nat.min_le_right _ _)
  · exact absurd h (by simp)

/-- A move that is taken is not held up. -/
theorem move?_eq_some {m : Move} :
    g.move? m = some g' ↔ g.isHeldUp m = false ∧ g.step? m = some g' := by
  unfold move?
  cases g.isHeldUp m <;> simp

theorem step?_of_move? {m : Move} (h : g.move? m = some g') : g.step? m = some g' :=
  (move?_eq_some.1 h).2

/-- A sender that has nothing to reach for is not run by itself, and does the same if it is run. -/
theorem reach_of_step? (h : g.step? (.reach id) = some g') : g.reach id = some g' := by
  rw [step?] at h
  split at h
  · exact h
  · exact absurd h (by simp)

theorem deed_of_step? {m : Move} (mem : m ∈ sessionMoves id) (h : g.step? m = some g') :
    Deed g id m g' := by
  simp only [sessionMoves, List.mem_cons, List.not_mem_nil, or_false] at mem
  rcases mem with rfl | rfl | rfl | rfl | rfl | rfl | rfl | rfl | rfl
  · exact deed_of_greet h
  · exact deed_of_receive h
  · exact deed_of_retire h
  · exact deed_of_acquire h
  · exact deed_of_reach (reach_of_step? h)
  · exact deed_of_take h
  · exact deed_of_write h
  · exact deed_of_halt h
  · exact deed_of_giveUp h

theorem deed_of_move {m : Move} (mem : m ∈ sessionMoves id) (h : g.move? m = some g') :
    Deed g id m g' :=
  deed_of_step? mem (step?_of_move? h)

/-- Only a session that goes on does anything. -/
theorem Deed.isLive {m : Move} (d : Deed g id m g') : (g.sessions[id]?).any (·.isLive) = true := by
  cases d <;> simp [*, Session.isLive]

end Deeds

/-! ## What a move of a dispatch does -/

/-- The dispatch that takes a move, if one does. -/
def Move.dispatch? : Move → Option DispatchId
  | .place id _ | .exhaust id | .moveOn id | .collect id | .expire id | .conclude id => some id
  | .greet _ | .giveUp _ | .halt _ | .receive _ | .acquire _ | .retire _ | .reach _ | .take _
  | .write _ | .beat _ | .stopBeat _ | .tally _ | .publish _ => none

/-- The gateway after a dispatch has returned this result. -/
def afterConcluding (g : Gateway) (id : DispatchId) (d : Dispatch) (result : DispatchResult) :
    Gateway :=
  ((((g.release d).setDispatch id { d with progress := .done result }).count
      (.dispatchOutcome d.group result.label) 1).count
        (.dispatchDuration d.group result.label) 1 |>.report (.dispatch id)).record
    (.finished id result)

/-- What a move of a dispatch does, and when. -/
inductive Turn (g : Gateway) (id : DispatchId) (d : Dispatch) : Move → Gateway → Prop
  /-- It passes over a candidate whose queue is closed. -/
  | passed {left : List Candidate} {choice : Nat} {candidate : Candidate}
      (placing : d.progress = .placing left) (chosen : left[choice]? = some candidate)
      (shut : g.isOpen candidate.queue = false) :
      Turn g id d (.place id choice)
        (g.setDispatch id { d with progress := .placing (left.eraseIdx choice) })
  /-- A queue takes its envelope. -/
  | placed {left : List Candidate} {choice : Nat} {candidate : Candidate} {q : Queue DispatchId}
      (placing : d.progress = .placing left) (chosen : left[choice]? = some candidate)
      (live : g.isOpen candidate.queue = true)
      (pushed : (g.registry.queue candidate.queue).push? g.registry.capacity d.request = some q) :
      Turn g id d (.place id choice)
        (({ g with registry := g.registry.setQueue candidate.queue q }.setDispatch id
          { d with progress := .awaiting }).record (.queued candidate.queue d.request (.dispatch id)))
  /-- It finds a queue full and waits for room. -/
  | joined {left : List Candidate} {choice : Nat} {candidate : Candidate}
      (placing : d.progress = .placing left) (chosen : left[choice]? = some candidate)
      (live : g.isOpen candidate.queue = true)
      (full : (g.registry.queue candidate.queue).hasRoom g.registry.capacity = false) :
      Turn g id d (.place id choice)
        ({ g with
            registry := g.registry.setQueue candidate.queue
              ((g.registry.queue candidate.queue).join id d.request) }.setDispatch id
          { d with progress := .blocked candidate.queue (left.eraseIdx choice) })
  /-- It leaves a queue that was closed. -/
  | movedOn {queue : QueueId} {left : List Candidate} (blocked : d.progress = .blocked queue left)
      (shut : g.isOpen queue = false) :
      Turn g id d (.moveOn id)
        ({ g with
            registry := g.registry.setQueue queue ((g.registry.queue queue).leave id) }.setDispatch id
          { d with progress := .placing left })
  /-- It has no candidate left. -/
  | exhausted (placing : d.progress = .placing []) :
      Turn g id d (.exhaust id) (g.resolve id d (.error (.dispatchFailed d.group d.attempts)))
  /-- Its reply is there. -/
  | replied {e : Envelope} (awaiting : d.progress = .awaiting) (seen : g.look d = .reply e) :
      Turn g id d (.collect id) (g.resolve id d (.ok e))
  /-- Its slot is gone. -/
  | abandoned (awaiting : d.progress = .awaiting) (seen : g.look d = .closed) :
      Turn g id d (.collect id) (g.resolve id d (.error (.timeout d.timeout)))
  /-- Its time is over. -/
  | lapsed (waits : (∃ queue left, d.progress = .blocked queue left ∧ g.isOpen queue = true) ∨
        (d.progress = .awaiting ∧ g.look d = .pending)) (due : d.deadline ≤ g.clock) :
      Turn g id d (.expire id) (g.resolve id d (.error (.timeout d.timeout)))
  /-- It gives back its slot and returns. -/
  | concluded {result : DispatchResult} (certain : d.progress = .resolved result) :
      Turn g id d (.conclude id) (g.afterConcluding id d result)

section Turns

variable {g g' : Gateway} {id : DispatchId}

theorem turn_of_place {choice : Nat} (h : g.place id choice = some g') :
    ∃ d, g.dispatches[id]? = some d ∧ Turn g id d (.place id choice) g' := by
  obtain ⟨d, here, h⟩ := Option.bind_eq_some_iff.1 h
  refine ⟨d, here, ?_⟩
  split at h
  · rename_i left placing
    obtain ⟨candidate, chosen, h⟩ := Option.bind_eq_some_iff.1 h
    split at h
    · rename_i live
      unfold Registry.offer at h
      cases pushed : (g.registry.queue candidate.queue).push? g.registry.capacity d.request with
      | some q =>
        rw [pushed] at h
        obtain rfl := Option.some.inj h
        exact .placed placing chosen live pushed
      | none =>
        -- an open queue without room: the caller waits for some
        rw [pushed] at h
        obtain rfl := Option.some.inj h
        have full : (g.registry.queue candidate.queue).hasRoom g.registry.capacity = false := by
          unfold Queue.push? at pushed
          split at pushed
          · exact absurd pushed (by simp)
          · rename_i full
            exact Bool.eq_false_iff.2 full
        exact .joined placing chosen live full
    · rename_i shut
      obtain rfl := Option.some.inj h
      exact .passed placing chosen (Bool.eq_false_iff.2 shut)
  · exact absurd h (by simp)

theorem turn_of_exhaust (h : g.exhaust id = some g') :
    ∃ d, g.dispatches[id]? = some d ∧ Turn g id d (.exhaust id) g' := by
  obtain ⟨d, here, h⟩ := Option.bind_eq_some_iff.1 h
  refine ⟨d, here, ?_⟩
  split at h
  · rename_i placing
    obtain rfl := Option.some.inj h
    exact .exhausted placing
  · exact absurd h (by simp)

theorem turn_of_moveOn (h : g.moveOn id = some g') :
    ∃ d, g.dispatches[id]? = some d ∧ Turn g id d (.moveOn id) g' := by
  obtain ⟨d, here, h⟩ := Option.bind_eq_some_iff.1 h
  refine ⟨d, here, ?_⟩
  split at h
  · rename_i queue left blocked
    split at h
    · exact absurd h (by simp)
    · rename_i shut
      obtain rfl := Option.some.inj h
      exact .movedOn blocked (Bool.eq_false_iff.2 shut)
  · exact absurd h (by simp)

theorem turn_of_collect (h : g.collect id = some g') :
    ∃ d, g.dispatches[id]? = some d ∧ Turn g id d (.collect id) g' := by
  obtain ⟨d, here, h⟩ := Option.bind_eq_some_iff.1 h
  refine ⟨d, here, ?_⟩
  split at h
  · rename_i awaiting
    split at h
    · rename_i e seen
      obtain rfl := Option.some.inj h
      exact .replied awaiting seen
    · rename_i seen
      obtain rfl := Option.some.inj h
      exact .abandoned awaiting seen
    · exact absurd h (by simp)
  · exact absurd h (by simp)

theorem turn_of_expire (h : g.expire id = some g') :
    ∃ d, g.dispatches[id]? = some d ∧ Turn g id d (.expire id) g' := by
  obtain ⟨d, here, h⟩ := Option.bind_eq_some_iff.1 h
  refine ⟨d, here, ?_⟩
  cases progress : d.progress with
  | blocked queue left =>
    simp only [waits, progress] at h
    split at h
    · rename_i due
      obtain rfl := Option.some.inj h
      exact .lapsed (Or.inl ⟨queue, left, progress, due.2⟩) due.1
    · exact absurd h (by simp)
  | awaiting =>
    simp only [waits, progress, decide_eq_true_eq] at h
    split at h
    · rename_i due
      obtain rfl := Option.some.inj h
      exact .lapsed (Or.inr ⟨progress, due.2⟩) due.1
    · exact absurd h (by simp)
  | placing left => simp [waits, progress] at h
  | resolved result => simp [waits, progress] at h
  | done result => simp [waits, progress] at h
  | cancelled => simp [waits, progress] at h

theorem turn_of_conclude (h : g.conclude id = some g') :
    ∃ d, g.dispatches[id]? = some d ∧ Turn g id d (.conclude id) g' := by
  obtain ⟨d, here, h⟩ := Option.bind_eq_some_iff.1 h
  refine ⟨d, here, ?_⟩
  split at h
  · rename_i result certain
    obtain rfl := Option.some.inj h
    exact .concluded certain
  · exact absurd h (by simp)

theorem turn_of_step? {m : Move} (own : m.dispatch? = some id) (h : g.step? m = some g') :
    ∃ d, g.dispatches[id]? = some d ∧ Turn g id d m g' := by
  cases m with
  | place other choice =>
    obtain rfl := Option.some.inj own
    exact turn_of_place h
  | exhaust other =>
    obtain rfl := Option.some.inj own
    exact turn_of_exhaust h
  | moveOn other =>
    obtain rfl := Option.some.inj own
    exact turn_of_moveOn h
  | collect other =>
    obtain rfl := Option.some.inj own
    exact turn_of_collect h
  | expire other =>
    obtain rfl := Option.some.inj own
    exact turn_of_expire h
  | conclude other =>
    obtain rfl := Option.some.inj own
    exact turn_of_conclude h
  | _ => exact absurd own (by simp [Move.dispatch?])

theorem turn_of_move {m : Move} (own : m.dispatch? = some id) (h : g.move? m = some g') :
    ∃ d, g.dispatches[id]? = some d ∧ Turn g id d m g' :=
  turn_of_step? own (step?_of_move? h)

theorem dispatch?_of_mem {m : Move} (mem : m ∈ dispatchMoves id) : m.dispatch? = some id := by
  simp only [dispatchMoves, List.mem_cons, List.not_mem_nil, or_false] at mem
  rcases mem with rfl | rfl | rfl | rfl | rfl | rfl <;> rfl

/-- Only an open dispatch gets on. -/
theorem Turn.isOpen {d : Dispatch} {m : Move} (turn : Turn g id d m g') :
    d.progress.isOpen = true := by
  cases turn with
  | passed placing chosen shut => rw [placing]; rfl
  | placed placing chosen live pushed => rw [placing]; rfl
  | joined placing chosen live full => rw [placing]; rfl
  | movedOn blocked shut => rw [blocked]; rfl
  | exhausted placing => rw [placing]; rfl
  | replied awaiting seen => rw [awaiting]; rfl
  | abandoned awaiting seen => rw [awaiting]; rfl
  | lapsed waits due =>
    rcases waits with ⟨queue, left, blocked, -⟩ | ⟨awaiting, -⟩
    · rw [blocked]
      rfl
    · rw [awaiting]
      rfl
  | concluded certain => rw [certain]; rfl

end Turns

/-! ## What the parts of an action amount to -/

section Parts

variable {g : Gateway}

/-- Offering an envelope puts it on the queue if there is room, and does nothing otherwise. -/
theorem offer_eq (queue : QueueId) (e : Envelope) (origin : Origin) :
    (g.offer queue e origin).2 =
      match (g.registry.queue queue).push? g.registry.capacity e with
      | some q =>
        { g with
          registry := g.registry.setQueue queue q
          journal := .queued queue e origin :: g.journal }
      | none => g := by
  unfold offer Registry.offer
  cases (g.registry.queue queue).push? g.registry.capacity e <;> rfl

/-- Keepalives come from heartbeats and closings. -/
theorem Due.not_dispatch {queue : QueueId} {origin : Origin} (due : Due g queue origin)
    (id : DispatchId) : origin ≠ .dispatch id := by
  cases due <;> simp

theorem SameDrops.refl (m : Metrics) : SameDrops m m := ⟨rfl, rfl⟩

theorem SameDrops.set {m m' : Metrics} (same : SameDrops m m') (s : Series) (value : Int)
    (frames : s ≠ .framesDropped) (replies : s ≠ .repliesDropped) :
    SameDrops m (m'.set s value) := by
  refine ⟨?_, ?_⟩
  · rw [Metrics.value_set, if_neg frames, same.1]
  · rw [Metrics.value_set, if_neg replies, same.2]

theorem SameDrops.add {m m' : Metrics} (same : SameDrops m m') (s : Series) (amount : Int)
    (frames : s ≠ .framesDropped) (replies : s ≠ .repliesDropped) :
    SameDrops m (m'.add s amount) :=
  same.set s _ frames replies

/-- Metrics can be set to anything that says the same about what was dropped, and gauges can be left
to be set. -/
theorem Changes.metrics {h : Gateway} (c : Changes g h) {metrics : Metrics}
    {reports : Assoc Reporter (Option Nat)} (drops : SameDrops h.metrics metrics) :
    Changes g { h with metrics, reports } :=
  c.tail (.aside drops (Nat.le_refl _) id id)

/-- The closing actions of a session deregister it, and if its node was removed put a close marker on
its queue as long as there is room. -/
theorem deregister_shape (id : SessionId) (service : Service) :
    (∃ current metrics,
        (current = true ↔ ∃ members, (g.registry.deregister service.identity.group
          service.identity.node service.key).1 = .removed members) ∧
        SameDrops g.metrics metrics ∧
        g.deregister id service =
          { g with
            registry :=
              (g.registry.deregister service.identity.group service.identity.node service.key).2
            metrics
            reports := g.reports.insert (.session id) none
            journal := .closed id current :: g.journal }) ∨
      ∃ members q,
        (g.registry.deregister service.identity.group service.identity.node service.key).1 =
          .removed members ∧
        (g.registry.queue service.queue).push? g.registry.capacity .keepalive = some q ∧
        g.deregister id service =
          { g with
            registry :=
              (g.registry.deregister service.identity.group service.identity.node
                service.key).2.setQueue service.queue q
            reports := g.reports.insert (.session id) none
            journal :=
              .queued service.queue .keepalive (.closing id) :: .closed id true :: g.journal } := by
  rw [deregister]
  rcases Registry.deregister_cases g.registry service.identity.group service.identity.node
    service.key with ⟨entry, -, -, -, eq⟩ | ⟨-, eq⟩
  · rw [eq]
    -- leaving takes nothing off the queues, so there is room if there was before
    cases pushed : (g.registry.queue service.queue).push? g.registry.capacity .keepalive with
    | none =>
      have full : ((g.registry.without service.identity.group service.identity.node).queue
          service.queue).push? g.registry.capacity .keepalive = none := pushed
      simp only [report, record, offer_eq, Registry.capacity_without, full]
      exact Or.inl ⟨true, _, by simp, .refl _, rfl⟩
    | some q =>
      have room : ((g.registry.without service.identity.group service.identity.node).queue
          service.queue).push? g.registry.capacity .keepalive = some q := pushed
      simp only [report, record, offer_eq, Registry.capacity_without, room]
      exact Or.inr ⟨_, q, rfl, rfl, rfl⟩
  · rw [eq]
    have counted : SameDrops g.metrics (g.metrics.add .staleDeregistrations 1) :=
      (SameDrops.refl _).add _ _ (by simp) (by simp)
    exact Or.inl ⟨false, _, by simp, counted, rfl⟩

/-- The closing actions of a session do not look at the list of sessions. -/
theorem deregister_sessions (sessions : List Session) (id : SessionId) (service : Service) :
    ({ g with sessions } : Gateway).deregister id service =
      { g.deregister id service with sessions } := by
  unfold deregister
  cases h : g.registry.deregister service.identity.group service.identity.node service.key with
  | mk outcome registry =>
    cases outcome with
    | removed members =>
      simp only [report, offer_eq, record]
      split <;> rfl
    | stale members => rfl

@[simp]
theorem sessions_deregister (id : SessionId) (service : Service) :
    (g.deregister id service).sessions = g.sessions := by
  rcases deregister_shape (g := g) id service with
    ⟨current, metrics, -, -, eq⟩ | ⟨members, q, -, -, eq⟩ <;> rw [eq]

theorem isOpen_of_serving {id : SessionId} {s : Session} {service : Service}
    (here : g.sessions[id]? = some s) (serving : s.phase = .serving service) :
    g.isOpen service.queue = true := by
  unfold isOpen
  rw [Bool.or_eq_true, List.any_eq_true]
  refine Or.inr ⟨s, List.mem_of_getElem? here, ?_⟩
  simp [serving]

/-- The closing actions leave the session in the list, marked as closed. -/
theorem changes_deregister {id : SessionId} {s : Session} {service : Service}
    (here : g.sessions[id]? = some s) (serving : s.phase = .serving service)
    (fresh : service.closed = false) :
    Changes g
      { g.deregister id service with
        sessions :=
          g.sessions.set id { s with phase := .serving { service with closed := true } } } := by
  obtain ⟨lt, -⟩ := List.getElem?_eq_some_iff.1 here
  rcases deregister_shape (g := g) id service with
    ⟨current, metrics, report, drops, eq⟩ | ⟨members, q, removed, pushed, eq⟩
  · rw [eq]
    exact Changes.metrics
      (Relation.ReflTransGen.single (Change.closed current here serving fresh report)) drops
  · -- the node goes, and then a last keepalive is queued on a queue that the session still has
    have first := Change.closed true here serving fresh ⟨fun _ => ⟨members, removed⟩, fun _ => rfl⟩
    have after := List.getElem?_set_self
      (a := { s with phase := .serving { service with closed := true } }) lt
    obtain ⟨-, -, capacity⟩ := Registry.deregister_frame g.registry service.identity.group
      service.identity.node service.key
    have second := Change.offered
      (g := { g with
        registry :=
          (g.registry.deregister service.identity.group service.identity.node service.key).2
        sessions := g.sessions.set id { s with phase := .serving { service with closed := true } }
        journal := .closed id true :: g.journal })
      (.closing id) (isOpen_of_serving after rfl) (.closing after rfl rfl rfl)
      (by rw [Registry.queue_deregister, capacity, pushed])
    rw [eq]
    exact Changes.metrics ((Relation.ReflTransGen.single first).tail second) (.refl _)

/-- A session ends after its closing actions. -/
theorem changes_finish {id : SessionId} {s : Session} {service : Service}
    (here : g.sessions[id]? = some s) (serving : s.phase = .serving service)
    (reason : SessionError) : Changes g (g.finish id s service reason) := by
  obtain ⟨lt, -⟩ := List.getElem?_eq_some_iff.1 here
  have drops : ∀ m : Metrics, SameDrops m
      ((m.add .sessionsActive (-1)).add (.sessionsClosed reason.reason) 1) := fun m =>
    ((SameDrops.refl m).add _ _ (by simp) (by simp)).add _ _ (by simp) (by simp)
  cases past : service.closed with
  | true =>
    -- the worker announced its restart, so the closing actions were done then
    have last := Change.ended reason here serving past
    have shape : g.finish id s service reason =
        { g with
          sessions := g.sessions.set id { s with phase := .ended reason }
          journal := .ended id reason :: g.journal
          metrics := (g.finish id s service reason).metrics } := by
      simp only [finish, close, past, if_true]
      rfl
    rw [shape]
    refine Changes.metrics (Relation.ReflTransGen.single last) ?_
    rw [finish, close, if_pos past]
    exact drops g.metrics
  | false =>
    -- the session closes first, and ends as a closed one
    have first := changes_deregister here serving past
    have last := Change.ended reason
      (g := { g.deregister id service with
        sessions :=
          g.sessions.set id { s with phase := .serving { service with closed := true } } })
      (List.getElem?_set_self lt) rfl rfl
    have shape : g.finish id s service reason =
        { g.deregister id service with
          sessions := g.sessions.set id { s with phase := .ended reason }
          journal := .ended id reason :: (g.deregister id service).journal
          metrics := (g.finish id s service reason).metrics } := by
      simp only [finish, close, past, setSession, record, count, sessions_deregister,
        Bool.false_eq_true, if_false]
    rw [shape]
    simp only [List.set_set] at last
    refine Changes.metrics (first.tail last) ?_
    rw [finish, close, if_neg (by simp [past])]
    exact drops _

/-- Apart from the session and the metrics, the end of a session does what its closing actions do, and
tells of it. -/
theorem finish_rest (g : Gateway) (id : SessionId) (s : Session) (service : Service)
    (reason : SessionError) :
    (g.finish id s service reason).accepted = (g.close id service).accepted ∧
      (g.finish id s service reason).replies = (g.close id service).replies ∧
      (g.finish id s service reason).dispatches = (g.close id service).dispatches ∧
      (g.finish id s service reason).journal =
        .ended id reason :: (g.close id service).journal := by
  rw [finish]
  generalize g.close id service = h
  exact ⟨rfl, rfl, rfl, rfl⟩

/-- A frame that is a control signal closes the session, and any other goes to the table of slots, which
has three answers. -/
theorem handle_cases (g : Gateway) (id : SessionId) (s : Session) (service : Service)
    (e : Envelope) :
    (e.command.isControl = true ∧
        g.handle id s service e = ((g.record (.received id e)).close id service).setSession id
          { s with phase := .serving { service with closed := true } }) ∨
      (∃ ticket replies, e.command.isControl = false ∧
        g.replies.deliver e = (.delivered ticket, replies) ∧
        g.handle id s service e =
          { (g.record (.received id e)).setSession id { s with phase := .serving service } with
            replies }.record (.delivered ticket e)) ∨
      (∃ replies, e.command.isControl = false ∧ g.replies.deliver e = (.noWaiter, replies) ∧
        g.handle id s service e =
          ((g.record (.received id e)).setSession id { s with phase := .serving service }).count
            .repliesDropped 1) ∨
      ∃ replies, e.command.isControl = false ∧ g.replies.deliver e = (.unsolicited, replies) ∧
        g.handle id s service e =
          (g.record (.received id e)).setSession id { s with phase := .serving service } := by
  rw [handle]
  by_cases control : e.command.isControl = true
  · exact Or.inl ⟨control, if_pos control⟩
  · have plain : e.command.isControl = false := by simpa using control
    right
    dsimp only
    rw [if_neg control]
    cases handed : g.replies.deliver e with
    | mk delivery replies =>
      simp only [setSession, record, handed]
      cases delivery with
      | delivered ticket => exact Or.inl ⟨ticket, replies, plain, rfl, rfl⟩
      | noWaiter => exact Or.inr (Or.inl ⟨replies, plain, rfl, rfl⟩)
      | unsolicited => exact Or.inr (Or.inr ⟨replies, plain, rfl, rfl⟩)

/-- A session that reads a frame handles it. -/
theorem changes_handle {id : SessionId} {s : Session} {service : Service} {e : Envelope}
    {inbound : List UInt8} (here : g.sessions[id]? = some s)
    (serving : s.phase = .serving service)
    (read : Reads g.settings.sessionLimit s service e inbound) :
    Changes g (g.handle id { s with inbound } { service with first := none } e) := by
  obtain ⟨lt, -⟩ := List.getElem?_eq_some_iff.1 here
  rcases handle_cases g id { s with inbound } { service with first := none } e with
    ⟨control, eq⟩ | ⟨ticket, replies, plain, handed, eq⟩ | ⟨replies, plain, missed, eq⟩ |
      ⟨replies, plain, unsolicited, eq⟩
  -- a control signal closes the session, unless it was closed already
  · have heeded := Change.heeded here serving read (Or.inl control)
    rw [eq]
    cases past : service.closed with
    | true =>
      have shape : ({ service with closed := true, first := none } : Service) =
          { service with first := none } := by
        rw [← past]
      simp only [close, past, if_true, shape]
      exact Relation.ReflTransGen.single heeded
    | false =>
      have marked := changes_deregister
        (g := { g with
          sessions := g.sessions.set id (afterRead s service inbound)
          journal := .received id e :: g.journal })
        (List.getElem?_set_self lt) rfl past
      have all := (Relation.ReflTransGen.single heeded).trans marked
      rw [close, if_neg (by simp)]
      rw [deregister_sessions (g := { g with journal := .received id e :: g.journal })] at all
      simp only [List.set_set] at all
      unfold setSession record
      rw [sessions_deregister]
      exact all
  · have answered := Change.answered here serving read plain handed
    rw [eq]
    exact Relation.ReflTransGen.single answered
  · have unanswered := Change.unanswered here serving read plain missed
    rw [eq]
    exact Relation.ReflTransGen.single unanswered
  · have nameless : e.correlationId = noReply := by
      unfold Correlation.Table.deliver at unsolicited
      split at unsolicited
      · assumption
      · split at unsolicited <;> exact absurd (congrArg Prod.fst unsolicited) (by simp)
    have heeded := Change.heeded here serving read (Or.inr nameless)
    rw [eq]
    exact Relation.ReflTransGen.single heeded

/-- Keepalives are offered to open queues one after another. -/
theorem changes_offerKeepalives (id : HeartbeatId) (nodes : List Candidate) :
    ∀ {g : Gateway}, (∀ node ∈ nodes, g.registry.owns node.queue = true) →
      Changes g (nodes.foldl (offerKeepalive id) g) := by
  -- induction on the queues that are left, for all gateways: each offer changes the gateway
  induction nodes with
  | nil => exact fun _ => Relation.ReflTransGen.refl
  | cons node rest ih =>
    intro g owned
    have mine := owned node List.mem_cons_self
    have live : g.isOpen node.queue = true := by
      unfold isOpen
      rw [mine, Bool.true_or]
    rw [List.foldl_cons]
    unfold offerKeepalive
    cases offer : g.offer node.queue .keepalive (.heartbeat id) with
    | mk outcome h =>
      have same : h = (g.offer node.queue .keepalive (.heartbeat id)).2 := by rw [offer]
      have step : Changes g h ∧ h.registry.nodes = g.registry.nodes := by
        rw [same, offer_eq]
        cases pushed : (g.registry.queue node.queue).push? g.registry.capacity .keepalive with
        | none => exact ⟨Relation.ReflTransGen.refl, rfl⟩
        | some q =>
          exact ⟨Relation.ReflTransGen.single
            (Change.offered (.heartbeat id) live (.heartbeat id mine) pushed), rfl⟩
      obtain ⟨moved, nodes⟩ := step
      -- an offer registers nobody and removes nobody
      have owned' : ∀ metrics : Metrics, ∀ other ∈ rest,
          ({ h with metrics } : Gateway).registry.owns other.queue = true := by
        intro metrics other mem
        have := owned other (List.mem_cons_of_mem node mem)
        unfold Registry.owns at this ⊢
        rw [nodes]
        exact this
      cases outcome with
      | accepted => exact moved.trans (ih (owned' h.metrics))
      | full =>
        exact (Changes.metrics moved ((SameDrops.refl _).add .heartbeatEnqueueFailed 1 (by simp)
          (by simp))).trans (ih (owned' _))

/-- The result of a dispatch becomes certain. -/
theorem changes_resolve {id : DispatchId} {d : Dispatch} {result : DispatchResult}
    (here : g.dispatches[id]? = some d) (verdict : Verdict g d result) :
    Changes g (g.resolve id d result) :=
  Relation.ReflTransGen.single (Change.resolved here verdict)

/-- A dispatch whose result is certain returns. -/
theorem changes_conclude {id : DispatchId} {d : Dispatch} {result : DispatchResult}
    (here : g.dispatches[id]? = some d) (certain : d.progress = .resolved result) :
    Changes g (g.afterConcluding id d result) :=
  Changes.metrics (Relation.ReflTransGen.single (Change.concluded here certain))
    (((SameDrops.refl _).add _ _ (by simp) (by simp)).add _ _ (by simp) (by simp))

/-- A caller sends an envelope. -/
theorem changes_dispatch (g : Gateway) (group : String) (e : Envelope) (timeout : Nat) :
    Changes g (g.dispatch group e timeout) := by
  unfold dispatch
  cases opened : g.replies.open? g.ids.next.1 with
  | none =>
    -- the id is taken: the dispatch fails without a slot
    have step := Change.collided group e timeout opened
    simp only [opened]
    simpa [newDispatch, resolve, withdraw, setDispatch, record] using Relation.ReflTransGen.single step
  | some pair =>
    obtain ⟨claim, replies⟩ := pair
    simp only [opened]
    -- the slot is open before the envelope is looked at, so a refusal comes second
    let begun : List Candidate → Gateway := fun left =>
      { g.started group e timeout claim replies left with
        reports := g.reports.insert (.dispatch g.dispatches.length) none }
    have start : ∀ left, left = [] ∨ g.registry.candidates group = some left →
        left = [] ∨ Wire.bodySize (e.stamped g.ids.next.1) ≤ g.settings.dispatchLimit →
        Changes g (begun left) := fun left seen fits =>
      Changes.metrics (Relation.ReflTransGen.single (Change.begun group e timeout opened seen fits))
        (.refl _)
    have fail : ∀ result, Verdict (begun [])
        { g.newDispatch group e timeout with claim := some claim } result →
        Changes g ((begun []).resolve g.dispatches.length
          { g.newDispatch group e timeout with claim := some claim } result) :=
      fun result verdict =>
        (start [] (Or.inl rfl) (Or.inl rfl)).trans
          (changes_resolve (by simp [begun, started, newDispatch]) verdict)
    split
    · rename_i large
      have all := fail _ (.tooLarge rfl large)
      simpa [begun, started, newDispatch, resolve, withdraw, setDispatch, report, record] using all
    · rename_i small
      split
      · rename_i none
        have all := fail _ (.groupNotFound rfl none)
        simpa [begun, started, newDispatch, resolve, withdraw, setDispatch, report, record] using all
      · rename_i left seen
        have all := start left (Or.inr seen) (Or.inr (Nat.le_of_not_lt small))
        simpa [begun, started, newDispatch, setDispatch, report, record] using all

/-- A move of a dispatch. -/
theorem changes_of_turn {g' : Gateway} {id : DispatchId} {d : Dispatch} {m : Move}
    (here : g.dispatches[id]? = some d) (turn : Turn g id d m g') : Changes g g' := by
  cases turn with
  | passed placing chosen shut =>
    exact Relation.ReflTransGen.single
      (Change.passed here placing (List.mem_of_getElem? chosen) List.eraseIdx_subset shut)
  | placed placing chosen live pushed =>
    exact Relation.ReflTransGen.single
      (Change.placed here placing (List.mem_of_getElem? chosen) live pushed)
  | joined placing chosen live full =>
    exact Relation.ReflTransGen.single
      (Change.joined here placing (List.mem_of_getElem? chosen) List.eraseIdx_subset live full)
  | movedOn blocked shut => exact Relation.ReflTransGen.single (Change.movedOn here blocked shut)
  | exhausted placing => exact changes_resolve here (.exhausted placing)
  | replied awaiting seen => exact changes_resolve here (.replied awaiting seen)
  | abandoned awaiting seen => exact changes_resolve here (.abandoned awaiting seen)
  | lapsed waits due => exact changes_resolve here (.lapsed waits due)
  | concluded certain => exact changes_conclude here certain

/-- The caller of a dispatch goes away. -/
theorem changes_cancel {g' : Gateway} {id : DispatchId} (h : g.cancel id = some g') :
    Changes g g' := by
  obtain ⟨d, here, h⟩ := Option.bind_eq_some_iff.1 h
  split at h
  · exact absurd h (by simp)
  · rename_i waits
    obtain ⟨live, undecided⟩ := Progress.isSettled_eq_false.1 (Bool.eq_false_iff.2 waits)
    obtain rfl := Option.some.inj h
    exact Relation.ReflTransGen.single (Change.forsaken here live undecided)

/-- Letting a dispatch in does nothing, or makes it wait for its reply with its request queued. -/
theorem letIn_cases (g : Gateway) (waiting : Option DispatchId) (queue : QueueId) :
    (g.letIn waiting queue = g ∧ ∀ caller, waiting = some caller → g.dispatches[caller]? = none) ∨
      ∃ caller d, waiting = some caller ∧ g.dispatches[caller]? = some d ∧
        g.letIn waiting queue =
          { g with
            dispatches := g.dispatches.set caller { d with progress := .awaiting }
            journal := .queued queue d.request (.dispatch caller) :: g.journal } := by
  cases waiting with
  | none => exact Or.inl ⟨rfl, by simp⟩
  | some caller =>
    unfold letIn served
    cases here : g.dispatches[caller]? with
    | none => exact Or.inl ⟨by simp only [here], by simpa using here⟩
    | some d => exact Or.inr ⟨caller, d, rfl, here, by simp only [here]; rfl⟩

@[simp]
theorem settings_letIn (waiting : Option DispatchId) (queue : QueueId) :
    (g.letIn waiting queue).settings = g.settings := by
  rcases letIn_cases g waiting queue with ⟨eq, -⟩ | ⟨caller, d, -, -, eq⟩ <;> rw [eq]

@[simp]
theorem sessions_letIn (waiting : Option DispatchId) (queue : QueueId) :
    (g.letIn waiting queue).sessions = g.sessions := by
  rcases letIn_cases g waiting queue with ⟨eq, -⟩ | ⟨caller, d, -, -, eq⟩ <;> rw [eq]

@[simp]
theorem metrics_letIn (waiting : Option DispatchId) (queue : QueueId) :
    (g.letIn waiting queue).metrics = g.metrics := by
  rcases letIn_cases g waiting queue with ⟨eq, -⟩ | ⟨caller, d, -, -, eq⟩ <;> rw [eq]

/-- Letting a dispatch in does not look at the sessions. -/
theorem letIn_sessions (sessions : List Session) (waiting : Option DispatchId) (queue : QueueId) :
    ({ g with sessions } : Gateway).letIn waiting queue =
      { g.letIn waiting queue with sessions } := by
  cases waiting with
  | none => rfl
  | some caller =>
    unfold letIn served
    cases here : g.dispatches[caller]? with
    | none => simp only [here]
    | some d => simp only [here, setDispatch, record]

/-- A move of a session. -/
theorem changes_of_deed {g' : Gateway} {id : SessionId} {m : Move} (d : Deed g id m g') :
    Changes g g' := by
  cases d with
  | dismissed reason how here greeting =>
    exact Relation.ReflTransGen.single (Change.dismissed reason here greeting)
  | enrolled e rest here greeting room =>
    exact Changes.metrics
      (Relation.ReflTransGen.single (Change.enrolled e rest here greeting room))
      ((SameDrops.refl _).add .sessionsActive 1 (by simp) (by simp))
  | broke here greeting => exact Relation.ReflTransGen.single (Change.broke here greeting)
  | finished reason how here serving => exact changes_finish here serving reason
  | handled here serving read => exact changes_handle here serving read
  | acquired here serving waiting free =>
    exact Relation.ReflTransGen.single (Change.acquired here serving waiting free)
  | retired here serving between notified =>
    exact Relation.ReflTransGen.single (Change.retired here serving between notified)
  | looked here serving idle current =>
    exact Relation.ReflTransGen.single (Change.looked here serving idle current)
  | missed here serving reaching empty =>
    exact Relation.ReflTransGen.single (Change.missed here serving reaching empty)
  | @took s service taken bytes here serving reaching first encoded =>
    have step := Change.took here serving reaching first encoded
    rw [letIn_sessions
      (g := { g with
        registry := g.registry.setQueue service.queue taken.queue
        journal := .taken id service.queue taken.frame :: g.journal })] at step
    rw [setSender, setSession, afterTaking, sessions_letIn]
    exact Relation.ReflTransGen.single step
  | @skipped s service taken cause here serving reaching first unwritable =>
    have step := Change.skipped here serving reaching first unwritable
    rw [letIn_sessions
      (g := { g with
        registry := g.registry.setQueue service.queue taken.queue
        journal := .taken id service.queue taken.frame :: g.journal })] at step
    rw [setSender, setSession, afterTaking, sessions_letIn]
    exact Relation.ReflTransGen.single step
  | wrote here serving writing whole pos room le =>
    exact Relation.ReflTransGen.single (Change.wrote here serving writing pos room le whole)

/-- An input. -/
theorem changes_input (g : Gateway) (i : Input) : Changes g (g.input i) := by
  -- what a worker does to its stream leaves the phase of the session alone
  have stream : ∀ id (change : Session → Session), (∀ s, (change s).phase = s.phase ∧
      s.inbound <+: (change s).inbound ∧
        (change s).outbound.buffered <:+ s.outbound.buffered) →
      Changes g (g.onStream id change) := by
    intro id change outside
    unfold onStream
    cases here : g.sessions[id]? with
    | none => exact Relation.ReflTransGen.refl
    | some s =>
      obtain ⟨phase, inbound, outbound⟩ := outside s
      exact Relation.ReflTransGen.single (Change.streamed here phase inbound outbound)
  -- what happens around the sessions touches neither them nor the dispatches
  have around : ∀ clock stopping beatsStopping heartbeats,
      g.clock ≤ clock → (g.stopping = true → stopping = true) →
      (g.beatsStopping = true → beatsStopping = true) →
      Changes g { g with clock, stopping, beatsStopping, heartbeats } :=
    fun _ _ _ _ later stops stills =>
      Relation.ReflTransGen.single (Change.aside (.refl _) later stops stills)
  cases i with
  | connect buffer => exact Relation.ReflTransGen.single (Change.connected rfl rfl rfl)
  | send id bytes =>
    refine stream id _ fun s => ?_
    split
    · exact ⟨rfl, List.prefix_append _ _, List.suffix_rfl⟩
    · exact ⟨rfl, List.prefix_rfl, List.suffix_rfl⟩
  | closeWrite id => exact stream id _ fun s => cutOff_frame s .ended
  | failRead id text => exact stream id _ fun s => cutOff_frame s (.failed text)
  | consume id count =>
    exact stream id _ fun _ => ⟨rfl, List.prefix_rfl, List.drop_suffix _ _⟩
  | closeRead id => exact stream id _ fun _ => ⟨rfl, List.prefix_rfl, List.suffix_rfl⟩
  | dispatch group e timeout => exact changes_dispatch g group e timeout
  | cancel id =>
    rw [input]
    split
    · exact Relation.ReflTransGen.refl
    · cases h : g.cancel id with
      | none => exact Relation.ReflTransGen.refl
      | some g' => exact changes_cancel h
  | rouse id =>
    rw [input]
    split
    · exact Relation.ReflTransGen.refl
    · cases h : g.reach id with
      | none => exact Relation.ReflTransGen.refl
      | some g' => exact changes_of_deed (deed_of_reach h)
  | elapse millis => exact around _ _ _ _ (Nat.le_add_right _ _) id id
  | shutdown => exact around _ _ _ _ (Nat.le_refl _) (fun _ => rfl) fun _ => rfl
  | stopSessions => exact around _ _ _ _ (Nat.le_refl _) (fun _ => rfl) id
  | startHeartbeat interval => exact around _ _ _ _ (Nat.le_refl _) id id
  | stopHeartbeats => exact around _ _ _ _ (Nat.le_refl _) id fun _ => rfl
  | dropHeartbeat id => exact around _ _ _ _ (Nat.le_refl _) (fun h => h) fun h => h

/-- A heartbeat beats. -/
theorem changes_beat {g' : Gateway} {id : HeartbeatId} (h : g.beat id = some g') :
    Changes g g' := by
  obtain ⟨beat, -, h⟩ := Option.bind_eq_some_iff.1 h
  split at h
  · obtain rfl := Option.some.inj h
    have owned : ∀ node ∈ g.registry.allQueues, g.registry.owns node.queue = true := by
      intro node mem
      obtain ⟨entry, listed, rfl⟩ := List.mem_map.1 mem
      exact List.any_eq_true.2 ⟨entry, listed, by simp⟩
    exact (changes_offerKeepalives id _ owned).tail
      (Change.aside (.refl _) (Nat.le_refl _) (fun h => h) fun h => h)
  · exact absurd h (by simp)

/-- Who is to set a gauge reads the number first. -/
theorem tally_eq_some {g' : Gateway} {r : Reporter} (h : g.tally r = some g') :
    g.reports.get? r = some none ∧
      g' = { g with reports := g.reports.insert r (some (g.reading r)) }.record
        (.tallied r (g.reading r)) := by
  unfold tally at h
  split at h
  · rename_i due
    exact ⟨due, (Option.some.inj h).symm⟩
  all_goals exact absurd h (by simp)

/-- Who has read the number sets the gauge. -/
theorem publish_eq_some {g' : Gateway} {r : Reporter} (h : g.publish r = some g') :
    ∃ number, g.reports.get? r = some (some number) ∧
      g' = ({ g with reports := g.reports.erase r }.gauge r.series number).record
        (.published r number) := by
  unfold publish at h
  split at h
  · rename_i number due
    exact ⟨number, due, (Option.some.inj h).symm⟩
  all_goals exact absurd h (by simp)

theorem changes_tally {g' : Gateway} {r : Reporter} (h : g.tally r = some g') : Changes g g' := by
  obtain ⟨-, rfl⟩ := tally_eq_some h
  exact Changes.metrics (Relation.ReflTransGen.single (Change.tallied r (g.reading r))) (.refl _)

theorem changes_publish {g' : Gateway} {r : Reporter} (h : g.publish r = some g') :
    Changes g g' := by
  obtain ⟨number, -, rfl⟩ := publish_eq_some h
  exact Changes.metrics (Relation.ReflTransGen.single (Change.published r number))
    ((SameDrops.refl _).set _ _ (by cases r <;> simp [Reporter.series])
      (by cases r <;> simp [Reporter.series]))

/-- A heartbeat stops. -/
theorem changes_stopBeat {g' : Gateway} {id : HeartbeatId} (h : g.stopBeat id = some g') :
    Changes g g' := by
  obtain ⟨beat, -, h⟩ := Option.bind_eq_some_iff.1 h
  split at h
  · obtain rfl := Option.some.inj h
    exact (Relation.ReflTransGen.single (Change.stilled id)).tail
      (Change.aside (.refl _) (Nat.le_refl _) (fun h => h) fun h => h)
  · exact absurd h (by simp)

end Parts

/-- Every action is a sequence of elementary changes. -/
theorem changes_of_act {g g' : Gateway} {a : Action} (h : g.act? a = some g') : Changes g g' := by
  cases a with
  | input i =>
    obtain rfl := Option.some.inj h
    exact changes_input g i
  | move m =>
    -- a dispatch takes the move, or a session or a heartbeat does
    have turned : ∀ {id : DispatchId}, m.dispatch? = some id → Changes g g' := by
      intro id own
      obtain ⟨d, here, turn⟩ := turn_of_move own h
      exact changes_of_turn here turn
    have step := step?_of_move? h
    cases m with
    | greet id => exact changes_of_deed (deed_of_greet step)
    | giveUp id => exact changes_of_deed (deed_of_giveUp step)
    | halt id => exact changes_of_deed (deed_of_halt step)
    | receive id => exact changes_of_deed (deed_of_receive step)
    | acquire id => exact changes_of_deed (deed_of_acquire step)
    | retire id => exact changes_of_deed (deed_of_retire step)
    | reach id => exact changes_of_deed (deed_of_reach (reach_of_step? step))
    | take id => exact changes_of_deed (deed_of_take step)
    | write id => exact changes_of_deed (deed_of_write step)
    | place id choice => exact turned rfl
    | exhaust id => exact turned rfl
    | moveOn id => exact turned rfl
    | collect id => exact turned rfl
    | expire id => exact turned rfl
    | conclude id => exact turned rfl
    | beat id => exact changes_beat step
    | stopBeat id => exact changes_stopBeat step
    | tally r => exact changes_tally step
    | publish r => exact changes_publish step

/-! ## Quiescence -/

section Quiet

variable {g : Gateway}

/-- Where nothing goes on by itself, no gauge is still to be set. -/
theorem Quiescent.isReporting (quiet : Quiescent g) (r : Reporter) : g.isReporting r = false := by
  cases due : g.reports.get? r with
  | none => rw [Gateway.isReporting, due, Option.isSome_none]
  | some number =>
    cases number with
    | none =>
      have idle : g.tally r = none := quiet (.tally r)
      simp only [tally, due, reduceCtorEq] at idle
    | some number =>
      have idle : g.publish r = none := quiet (.publish r)
      simp only [publish, due, reduceCtorEq] at idle

/-- A sender that reaches for its queue goes on, whatever is on the queue. -/
theorem exists_take {id : SessionId} {s : Session} {service : Service}
    (here : g.sessions[id]? = some s) (serving : s.phase = .serving service)
    (reaching : service.sender = .reaching) : ∃ g', g.take id = some g' := by
  unfold take
  simp only [serving?_eq_some.2 ⟨here, serving⟩, reaching, if_true, Option.bind_eq_bind,
    Option.bind_some]
  cases (g.registry.queue service.queue).pop? with
  | none => exact ⟨_, rfl⟩
  | some taken =>
    dsimp only
    split <;> exact ⟨_, rfl⟩

theorem isReaching_eq_true {id : SessionId} :
    g.isReaching id = true ↔
      ∃ s service, g.sessions[id]? = some s ∧ s.phase = .serving service ∧
        service.sender = .reaching := by
  unfold Gateway.isReaching
  cases serves : g.serving? id with
  | none =>
    simp only [Bool.false_eq_true, false_iff]
    rintro ⟨s, service, here, serving, -⟩
    rw [serving?_eq_some.2 ⟨here, serving⟩] at serves
    exact absurd serves (by simp)
  | some pair =>
    obtain ⟨here, serving⟩ := serving?_eq_some.1 (serves : g.serving? id = some (pair.1, pair.2))
    simp only [decide_eq_true_eq]
    constructor
    · exact fun reaching => ⟨_, _, here, serving, reaching⟩
    · rintro ⟨s, service, here', serving', reaching⟩
      obtain rfl := Option.some.inj (here.symm.trans here')
      rwa [Phase.serving.inj (serving.symm.trans serving')]

/-- Where nothing goes on by itself, no sender is in the middle of taking an envelope. -/
theorem Quiescent.isReaching (quiet : Quiescent g) (id : SessionId) : g.isReaching id = false := by
  rw [← Bool.not_eq_true, isReaching_eq_true]
  rintro ⟨s, service, here, serving, reaching⟩
  obtain ⟨g', taken⟩ := exists_take here serving reaching
  have idle := quiet (.take id)
  simp [move?, isHeldUp, Move.reporter?, quiet.isReporting, Gateway.step?, taken] at idle

theorem Quiescent.not_reaching (quiet : Quiescent g) {id : SessionId} {s : Session}
    {service : Service} (here : g.sessions[id]? = some s) (serving : s.phase = .serving service) :
    service.sender ≠ .reaching := by
  intro reaching
  have busy := isReaching_eq_true.2 ⟨s, service, here, serving, reaching⟩
  rw [quiet.isReaching] at busy
  exact absurd busy (by simp)

/-- Where nothing goes on by itself, nothing is held up: no move is possible in itself. -/
theorem Quiescent.step? (quiet : Quiescent g) (m : Move) : g.step? m = none := by
  have free : g.isHeldUp m = false := by
    unfold isHeldUp
    split
    · rw [quiet.isReporting, quiet.isReaching, Bool.false_and, Bool.or_false]
    · exact quiet.isReporting _
    · rfl
  have idle := quiet m
  rwa [move?, if_neg (by simp [free])] at idle

end Quiet

/-! ## Settings and dispatches keep their terms -/

section Dispatches

variable {g g' : Gateway}

theorem settings_of_change (c : Change g g') : g'.settings = g.settings := by
  cases c with
  | took here serving reaching popped encoded => exact settings_letIn _ _
  | skipped here serving reaching popped unwritable => exact settings_letIn _ _
  | _ => rfl

/-- A dispatch that moves on changes nothing but its progress, and the others nothing. -/
theorem dispatch_of_set {l : List Dispatch} {id id' : DispatchId} {d x : Dispatch}
    (progress : Progress) (there : l[id']? = some d) (here : l[id]? = some x) :
    ∃ progress', (l.set id' { d with progress })[id]? = some { x with progress := progress' } := by
  obtain ⟨lt, -⟩ := List.getElem?_eq_some_iff.1 there
  rw [List.getElem?_set]
  by_cases same : id' = id
  · subst same
    obtain rfl := Option.some.inj (there.symm.trans here)
    rw [if_pos rfl, if_pos lt]
    exact ⟨progress, rfl⟩
  · rw [if_neg same]
    exact ⟨x.progress, here⟩

/-- A dispatch stays in its place, and nothing about it changes but its progress. -/
theorem dispatch_of_change (c : Change g g') {id : DispatchId} {x : Dispatch}
    (here : g.dispatches[id]? = some x) :
    ∃ progress, g'.dispatches[id]? = some { x with progress } := by
  have keeps : ∀ {other : DispatchId} {d : Dispatch} (progress : Progress),
      g.dispatches[other]? = some d →
      ∃ progress', (g.dispatches.set other { d with progress })[id]? =
        some { x with progress := progress' } :=
    fun progress there => dispatch_of_set progress there here
  have lets : ∀ {h : Gateway} (waiting : Option DispatchId) (queue : QueueId),
      h.dispatches = g.dispatches →
      ∃ progress, (h.letIn waiting queue).dispatches[id]? = some { x with progress } := by
    intro h waiting queue same
    rcases letIn_cases h waiting queue with ⟨eq, -⟩ | ⟨caller, d, -, there, eq⟩
    · rw [eq, same]
      exact ⟨x.progress, here⟩
    · rw [eq, same]
      rw [same] at there
      exact keeps .awaiting there
  have stays : ∀ {d : Dispatch}, (g.dispatches ++ [d])[id]? = some x := by
    intro d
    rw [List.getElem?_append_left (List.getElem?_eq_some_iff.1 here).1]
    exact here
  cases c with
  | took there serving reaching popped encoded => exact lets _ _ rfl
  | skipped there serving reaching popped unwritable => exact lets _ _ rfl
  | begun group e timeout opened seen => exact ⟨x.progress, stays⟩
  | collided group e timeout taken => exact ⟨x.progress, stays⟩
  | resolved there verdict => exact keeps _ there
  | concluded there certain => exact keeps _ there
  | forsaken there live undecided => exact keeps _ there
  | placed there placing among live pushed => exact keeps _ there
  | joined there placing among others live full => exact keeps _ there
  | passed there placing among others shut => exact keeps _ there
  | movedOn there blocked shut => exact keeps _ there
  | _ => exact ⟨x.progress, here⟩

end Dispatches

/-! ## States that changes can lead to -/

/-- The states that elementary changes can lead to. Some of them lie inside an action. -/
abbrev Attained (s : Settings) (g : Gateway) : Prop := Changes (.start s) g

/-- A run comes to attained states only. -/
theorem attained_of_reachable {s : Settings} {g : Gateway} (h : Reachable s g) : Attained s g := by
  induction h with
  | start => exact Relation.ReflTransGen.refl
  | input i _ ih => exact ih.trans (changes_input _ i)
  | move m _ moved ih => exact ih.trans (changes_of_act (a := .move m) moved)

theorem settings_of_attained {s : Settings} {g : Gateway} (h : Attained s g) : g.settings = s := by
  induction h with
  | refl => rfl
  | tail _ c ih => rw [settings_of_change c, ih]

end Gateway

end Switchboard
