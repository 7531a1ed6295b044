import Switchboard.Proofs.Change

/-!
# What can happen

All actions inverted at once: a session does something (`Deed`), a dispatch has its turn (`Turn`), a
heartbeat beats or stops, a gauge is read for or set, a dispatch starts or loses its caller, or something
happens around all of them (`Occurs`, `occurs_of_act`). Unlike the elementary changes, an occurrence is
the whole action with all that it does to the metrics and to the gauges that are still to be set.

Main results: `occurs_of_act`, `starts_dispatch`.
-/

set_option autoImplicit false

namespace Switchboard.Gateway

/-- What a worker does to the stream of its session. -/
inductive FromWorker (id : SessionId) : Input → Prop
  | send (bytes : List UInt8) : FromWorker id (.send id bytes)
  | closeWrite : FromWorker id (.closeWrite id)
  | failRead (text : String) : FromWorker id (.failRead id text)
  | consume (count : Nat) : FromWorker id (.consume id count)
  | closeRead : FromWorker id (.closeRead id)

/-- What happens to a gateway. -/
inductive Occurs (g : Gateway) : Action → Gateway → Prop
  /-- A session takes a move, or the scheduler runs its sender. -/
  | deed {a : Action} {id : SessionId} {m : Move} {g' : Gateway}
      (how : a = .move m ∨ a = .input (.rouse id) ∧ m = .reach id) (mem : m ∈ sessionMoves id)
      (free : g.isHeldUp m = false) (deed : Deed g id m g') : Occurs g a g'
  | turn {id : DispatchId} {d : Dispatch} {m : Move} {g' : Gateway}
      (here : g.dispatches[id]? = some d) (free : g.isReporting (.dispatch id) = false)
      (turn : Turn g id d m g') : Occurs g (.move m) g'
  | tallies {r : Reporter} (due : g.reports.get? r = some none) :
      Occurs g (.move (.tally r))
        ({ g with reports := g.reports.insert r (some (g.reading r)) }.record
          (.tallied r (g.reading r)))
  | publishes {r : Reporter} {number : Nat} (due : g.reports.get? r = some (some number)) :
      Occurs g (.move (.publish r))
        (({ g with reports := g.reports.erase r }.gauge r.series number).record
          (.published r number))
  | beats (id : HeartbeatId) {heartbeats : List Heartbeat} :
      Occurs g (.move (.beat id)) { g.beatAll id with heartbeats }
  | stops (id : HeartbeatId) {heartbeats : List Heartbeat} :
      Occurs g (.move (.stopBeat id)) ({ g with heartbeats }.record (.stopped id))
  | starts (group : String) (e : Envelope) (timeout : Nat) :
      Occurs g (.input (.dispatch group e timeout)) (g.dispatch group e timeout)
  | forsakes {id : DispatchId} {d : Dispatch} (here : g.dispatches[id]? = some d)
      (free : g.isReporting (.dispatch id) = false) (waits : d.progress.isSettled = false) :
      Occurs g (.input (.cancel id))
        ((((g.withdraw id d).release d).setDispatch id { d with progress := .cancelled }).record
          (.cancelled id))
  /-- A worker connects. -/
  | connects {buffer : Nat} {s : Session} {deadline : Nat} (greeting : s.phase = .greeting deadline) :
      Occurs g (.input (.connect buffer)) { g with sessions := g.sessions ++ [s] }
  /-- A worker does something to its stream. -/
  | streams {i : Input} {id : SessionId} {s t : Session} (own : FromWorker id i)
      (here : g.sessions[id]? = some s)
      (phase : t.phase = s.phase) : Occurs g (.input i) { g with sessions := g.sessions.set id t }
  /-- The clock, the signals to stop and the heartbeats. -/
  | around {i : Input} {clock : Nat} {stopping beatsStopping : Bool} {heartbeats : List Heartbeat} :
      Occurs g (.input i) { g with clock, stopping, beatsStopping, heartbeats }

section Occurs

variable {g g' : Gateway}

theorem reporter?_of_dispatch? {m : Move} {id : DispatchId} (own : m.dispatch? = some id) :
    m.reporter? = some (.dispatch id) := by
  cases m <;> simp_all [Move.dispatch?, Move.reporter?]

theorem occurs_input (g : Gateway) (i : Input) : Occurs g (.input i) (g.input i) := by
  have streamed : ∀ id (change : Session → Session), FromWorker id i →
      (∀ s, (change s).phase = s.phase) → Occurs g (.input i) (g.onStream id change) := by
    intro id change own phase
    rw [onStream]
    cases here : g.sessions[id]? with
    | none => exact .around
    | some s => exact .streams own here (phase s)
  cases i with
  | connect buffer => exact .connects rfl
  | send id bytes =>
    refine streamed id _ (.send bytes) fun s => ?_
    split <;> rfl
  | closeWrite id => exact streamed id _ .closeWrite fun s => (cutOff_frame s .ended).1
  | failRead id text =>
    exact streamed id _ (.failRead text) fun s => (cutOff_frame s (.failed text)).1
  | consume id count => exact streamed id _ (.consume count) fun _ => rfl
  | closeRead id => exact streamed id _ .closeRead fun _ => rfl
  | dispatch group e timeout => exact .starts group e timeout
  | cancel id =>
    rw [input]
    split
    · exact .around
    · rename_i free
      cases h : g.cancel id with
      | none => exact .around
      | some g' =>
        obtain ⟨d, here, h⟩ := Option.bind_eq_some_iff.1 h
        split at h
        · exact absurd h (by simp)
        · rename_i waits
          obtain rfl := Option.some.inj h
          exact .forsakes here (Bool.eq_false_iff.2 free) (Bool.eq_false_iff.2 waits)
  | rouse id =>
    rw [input]
    split
    · exact .around
    · rename_i free
      cases h : g.reach id with
      | none => exact .around
      | some g' =>
        exact .deed (Or.inr ⟨rfl, rfl⟩) (by simp [sessionMoves]) (Bool.eq_false_iff.2 free)
          (deed_of_reach h)
  | elapse millis => exact .around
  | shutdown => exact .around
  | stopSessions => exact .around
  | startHeartbeat interval => exact .around
  | stopHeartbeats => exact .around
  | dropHeartbeat id => exact .around

theorem occurs_move {m : Move} (h : g.move? m = some g') : Occurs g (.move m) g' := by
  obtain ⟨free, step⟩ := move?_eq_some.1 h
  have session (id : SessionId) (mem : m ∈ sessionMoves id) : Occurs g (.move m) g' :=
    .deed (Or.inl rfl) mem free (deed_of_move mem h)
  have turned {id : DispatchId} (own : m.dispatch? = some id) : Occurs g (.move m) g' := by
    obtain ⟨d, here, turn⟩ := turn_of_move own h
    rw [isHeldUp, reporter?_of_dispatch? own] at free
    exact .turn here free turn
  cases m with
  | greet id => exact session id (by simp [sessionMoves])
  | giveUp id => exact session id (by simp [sessionMoves])
  | halt id => exact session id (by simp [sessionMoves])
  | receive id => exact session id (by simp [sessionMoves])
  | acquire id => exact session id (by simp [sessionMoves])
  | retire id => exact session id (by simp [sessionMoves])
  | reach id => exact session id (by simp [sessionMoves])
  | take id => exact session id (by simp [sessionMoves])
  | write id => exact session id (by simp [sessionMoves])
  | place id choice => exact turned rfl
  | exhaust id => exact turned rfl
  | moveOn id => exact turned rfl
  | collect id => exact turned rfl
  | expire id => exact turned rfl
  | conclude id => exact turned rfl
  | beat id =>
    obtain ⟨b, -, step⟩ := Option.bind_eq_some_iff.1 step
    split at step
    · obtain rfl := Option.some.inj step
      exact .beats id
    · exact absurd step (by simp)
  | stopBeat id =>
    obtain ⟨b, -, step⟩ := Option.bind_eq_some_iff.1 step
    split at step
    · obtain rfl := Option.some.inj step
      exact .stops id
    · exact absurd step (by simp)
  | tally r =>
    obtain ⟨due, rfl⟩ := tally_eq_some step
    exact .tallies due
  | publish r =>
    obtain ⟨number, due, rfl⟩ := publish_eq_some step
    exact .publishes due

/-- Every action is one of these. -/
theorem occurs_of_act {a : Action} (h : g.act? a = some g') : Occurs g a g' := by
  cases a with
  | input i =>
    obtain rfl := Option.some.inj h
    exact occurs_input g i
  | move m => exact occurs_move h

/-- What holds at the start and is kept by every action holds in every state of a run. -/
theorem Reachable.act_induction {s : Settings} {motive : ∀ g, Reachable s g → Prop}
    (start : motive (.start s) .start)
    (step : ∀ {g : Gateway} {a : Action} {g' : Gateway} (before : Reachable s g)
      (after : Reachable s g'), g.act? a = some g' → motive g before → motive g' after)
    {g : Gateway} (h : Reachable s g) : motive g h := by
  induction h with
  | start => exact start
  | input i before ih => exact step (a := .input i) before _ rfl ih
  | move m before moved ih => exact step (a := .move m) before _ moved ih

/-- What holds at the start and is kept by whatever happens holds in every state of a run. -/
theorem holds_of_reachable {s : Settings} {P : Gateway → Prop} (start : P (.start s))
    (step : ∀ {g : Gateway} {a : Action} {g' : Gateway},
      Reachable s g → P g → Occurs g a g' → P g')
    (h : Reachable s g) : P g := by
  induction h using Reachable.act_induction with
  | start => exact start
  | step before after act ih => exact step before ih (occurs_of_act act)

end Occurs

/-! ## How a dispatch starts -/

/-- A dispatch has drawn its correlation id. -/
def drawn (g : Gateway) (d : Dispatch) : Gateway :=
  { g with ids := g.ids.next.2, dispatches := g.dispatches ++ [d] }

/-- A dispatch has drawn its correlation id and opened its slot. -/
def slotted (g : Gateway) (d : Dispatch) (replies : Correlation.Table) : Gateway :=
  ({ g.drawn d with replies }.report (.dispatch g.dispatches.length)).record
    (.opened g.dispatches.length g.ids.next.1)

section Parts

variable {g : Gateway}

theorem journal_slotted (d : Dispatch) (replies : Correlation.Table) :
    (g.slotted d replies).journal = .opened g.dispatches.length g.ids.next.1 :: g.journal :=
  rfl

theorem metrics_slotted (d : Dispatch) (replies : Correlation.Table) :
    (g.slotted d replies).metrics = g.metrics :=
  rfl

theorem metrics_resolve (id : DispatchId) (d : Dispatch) (result : DispatchResult) :
    (g.resolve id d result).metrics = g.metrics :=
  rfl

theorem journal_resolve (id : DispatchId) (d : Dispatch) (result : DispatchResult) :
    (g.resolve id d result).journal = .resolved id result :: g.journal :=
  rfl

theorem metrics_afterConcluding (id : DispatchId) (d : Dispatch) (result : DispatchResult) :
    (g.afterConcluding id d result).metrics =
      (g.metrics.add (.dispatchOutcome d.group result.label) 1).add
        (.dispatchDuration d.group result.label) 1 :=
  rfl

end Parts

/-- What the start of a dispatch does. -/
inductive Starts (g : Gateway) (group : String) (e : Envelope) (timeout : Nat) : Gateway → Prop
  | collides (taken : g.replies.open? g.ids.next.1 = none) :
      Starts g group e timeout
        ((g.drawn (g.newDispatch group e timeout)).resolve g.dispatches.length
          (g.newDispatch group e timeout) (.error (.collision g.ids.next.1)))
  | fails {claim : Correlation.Claim} {replies : Correlation.Table} (cause : DispatchError)
      (opened : g.replies.open? g.ids.next.1 = some (claim, replies)) :
      Starts g group e timeout
        ((g.slotted (g.newDispatch group e timeout) replies).resolve g.dispatches.length
          { g.newDispatch group e timeout with claim := some claim } (.error cause))
  | places {claim : Correlation.Claim} {replies : Correlation.Table} {left : List Candidate}
      (opened : g.replies.open? g.ids.next.1 = some (claim, replies)) :
      Starts g group e timeout
        ((g.slotted (g.newDispatch group e timeout) replies).setDispatch g.dispatches.length
          { g.newDispatch group e timeout with
            claim := some claim
            attempts := left.length
            progress := .placing left })

theorem starts_dispatch (g : Gateway) (group : String) (e : Envelope) (timeout : Nat) :
    Starts g group e timeout (g.dispatch group e timeout) := by
  cases opened : g.replies.open? g.ids.next.1 with
  | none =>
    simp only [dispatch, opened]
    exact .collides opened
  | some pair =>
    obtain ⟨claim, replies⟩ := pair
    by_cases large : g.settings.dispatchLimit < Wire.bodySize (e.stamped g.ids.next.1)
    · simp only [dispatch, opened, report, record, large, if_true]
      exact .fails _ opened
    · cases seen : g.registry.candidates group with
      | none =>
        simp only [dispatch, opened, report, record, large, if_false, seen]
        exact .fails _ opened
      | some left =>
        simp only [dispatch, opened, report, record, large, if_false, seen]
        exact .places opened

end Switchboard.Gateway
