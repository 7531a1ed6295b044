import Switchboard.Proofs.Occurrence

/-!
# Who counts

Every series of the metrics belongs to the sessions, the dispatches or the heartbeats, or is a gauge that
is set afterwards (`Series.party`), and what the others do leaves it alone (`value_of_deed`,
`value_of_turn`, `metrics_dispatch`, `value_beatAll`, `value_publish`).
-/

set_option autoImplicit false

namespace Switchboard

/-- Who counts. -/
inductive Party
  | sessions
  | dispatches
  | heartbeats
  /-- Whoever has changed the number that a gauge shows. -/
  | reporters
  deriving DecidableEq, Repr, Inhabited

/-- Who counts in a series. -/
def Series.party : Series → Party
  | dispatchDuration _ _ | dispatchOutcome _ _ => .dispatches
  | repliesDropped | sessionsActive | sessionsClosed _ | staleDeregistrations | framesDropped =>
    .sessions
  | heartbeatEnqueueFailed => .heartbeats
  | correlationsPending | nodesRegistered => .reporters

theorem Series.ne_of_foreign {s series : Series} (foreign : series.party ≠ s.party) :
    s ≠ series := by
  rintro rfl
  exact foreign rfl

namespace Gateway

section Meters

variable {g g' : Gateway} {series : Series}

/-! ## Sessions -/

/-- A deregistration counts if the node has another owner. -/
theorem deregister_counts (id : SessionId) (service : Service) :
    ∃ current news,
      (g.deregister id service).metrics =
          (if current = true then g.metrics else g.metrics.add .staleDeregistrations 1) ∧
        (g.deregister id service).journal = news ++ .closed id current :: g.journal ∧
        ∀ event ∈ news, event = .queued service.queue .keepalive (.closing id) := by
  rw [deregister]
  rcases Registry.deregister_cases g.registry service.identity.group service.identity.node
    service.key with ⟨entry, -, -, -, eq⟩ | ⟨-, eq⟩
  · rw [eq]
    simp only [report, offer_eq]
    split
    · exact ⟨true, [_], rfl, rfl, by simp⟩
    · exact ⟨true, [], rfl, rfl, by simp⟩
  · rw [eq]
    exact ⟨false, [], rfl, rfl, by simp⟩

theorem value_deregister (stale : series ≠ .staleDeregistrations) (id : SessionId)
    (service : Service) :
    (g.deregister id service).metrics.value series = g.metrics.value series := by
  obtain ⟨current, news, metrics, -⟩ := deregister_counts (g := g) id service
  rw [metrics]
  split
  · rfl
  · rw [Metrics.value_add, if_neg (Ne.symm stale)]

theorem value_close (stale : series ≠ .staleDeregistrations) (id : SessionId)
    (service : Service) :
    (g.close id service).metrics.value series = g.metrics.value series := by
  rw [close]
  split
  · rfl
  · exact value_deregister stale id service

theorem metrics_finish (id : SessionId) (t : Session) (service : Service) (reason : SessionError) :
    (g.finish id t service reason).metrics =
      ((g.close id service).metrics.add .sessionsActive (-1)).add
        (.sessionsClosed reason.reason) 1 :=
  rfl

theorem value_handle (stale : series ≠ .staleDeregistrations) (dropped : series ≠ .repliesDropped)
    (id : SessionId) (t : Session) (service : Service) (e : Envelope) :
    (g.handle id t service e).metrics.value series = g.metrics.value series := by
  rcases handle_cases g id t service e with
    ⟨-, eq⟩ | ⟨ticket, replies, -, -, eq⟩ | ⟨replies, -, -, eq⟩ | ⟨replies, -, -, eq⟩ <;> rw [eq]
  · exact value_close (g := g.record (.received id e)) stale id service
  · rfl
  · exact (Metrics.value_add _ _ _ _).trans (if_neg (Ne.symm dropped))
  · rfl

theorem metrics_afterTaking (id : SessionId) (service : Service)
    (taken : Queue.Taken DispatchId) : (g.afterTaking id service taken).metrics = g.metrics :=
  metrics_letIn _ _

/-- Sessions leave the series of dispatches and heartbeats and the gauges alone. -/
theorem value_of_deed {id : SessionId} {m : Move} (deed : Deed g id m g')
    (foreign : series.party ≠ .sessions) : g'.metrics.value series = g.metrics.value series := by
  have apart : ∀ s : Series, s.party = .sessions → s ≠ series :=
    fun s mine => Series.ne_of_foreign (mine ▸ foreign)
  have stale := (apart .staleDeregistrations rfl).symm
  cases deed with
  | enrolled e rest here greeting room =>
    exact (Metrics.value_add _ _ _ _).trans (if_neg (apart _ rfl))
  | finished reason how here serving =>
    rw [metrics_finish, Metrics.value_add, if_neg (apart _ rfl), Metrics.value_add,
      if_neg (apart _ rfl), value_close stale]
  | handled here serving read => exact value_handle stale (apart _ rfl).symm _ _ _ _
  | took here serving reaching first encoded =>
    exact congrArg (Metrics.value · series) (metrics_afterTaking _ _ _)
  | skipped here serving reaching first unwritable =>
    show ((Gateway.metrics (afterTaking _ _ _ _)).add _ _).value series = _
    rw [Metrics.value_add, if_neg (apart _ rfl), metrics_afterTaking]
  | _ => rfl

/-! ## Dispatches -/

/-- Dispatches leave the series of sessions and heartbeats and the gauges alone. -/
theorem value_of_turn {id : DispatchId} {d : Dispatch} {m : Move} (turn : Turn g id d m g')
    (foreign : series.party ≠ .dispatches) : g'.metrics.value series = g.metrics.value series := by
  have apart : ∀ s : Series, s.party = .dispatches → s ≠ series :=
    fun s mine => Series.ne_of_foreign (mine ▸ foreign)
  cases turn with
  | concluded certain =>
    rw [metrics_afterConcluding, Metrics.value_add, if_neg (apart _ rfl), Metrics.value_add,
      if_neg (apart _ rfl)]
  | _ => rfl

/-- A dispatch is counted when it returns, and not when it starts. -/
theorem metrics_dispatch (group : String) (e : Envelope) (timeout : Nat) :
    (g.dispatch group e timeout).metrics = g.metrics := by
  have starts := starts_dispatch g group e timeout
  generalize g.dispatch group e timeout = g' at starts ⊢
  cases starts with
  | collides taken => exact metrics_resolve _ _ _
  | fails cause opened => exact (metrics_resolve _ _ _).trans (metrics_slotted _ _)
  | @places claim replies left opened =>
    exact metrics_slotted (g := g) (g.newDispatch group e timeout) replies

/-! ## Heartbeats -/

/-- An offer of a keepalive leaves the nodes alone and all series but one. -/
theorem value_offerKeepalive (foreign : series.party ≠ .heartbeats) (id : HeartbeatId)
    (node : Candidate) :
    (offerKeepalive id g node).metrics.value series = g.metrics.value series ∧
      (offerKeepalive id g node).registry.nodes = g.registry.nodes := by
  rw [offerKeepalive, offer, Registry.offer]
  cases (g.registry.queue node.queue).push? g.registry.capacity .keepalive with
  | none =>
    refine ⟨?_, rfl⟩
    exact (Metrics.value_add _ _ _ _).trans (if_neg (Series.ne_of_foreign foreign))
  | some q => exact ⟨rfl, rfl⟩

/-- Heartbeats leave the series of sessions and dispatches and the gauges alone. -/
theorem value_beatAll (foreign : series.party ≠ .heartbeats) (id : HeartbeatId) :
    (g.beatAll id).metrics.value series = g.metrics.value series ∧
      (g.beatAll id).registry.nodes = g.registry.nodes := by
  rw [beatAll]
  generalize g.registry.allQueues = nodes
  induction nodes generalizing g with
  | nil => exact ⟨rfl, rfl⟩
  | cons node rest ih =>
    obtain ⟨value, kept⟩ := value_offerKeepalive (g := g) foreign id node
    obtain ⟨later, kept'⟩ := ih (g := offerKeepalive id g node)
    exact ⟨later.trans value, kept'.trans kept⟩

/-! ## Gauges -/

/-- Who sets a gauge leaves all other series alone. -/
theorem value_publish (foreign : series.party ≠ .reporters) (r : Reporter) (number : Nat) :
    (g.gauge r.series number).metrics.value series = g.metrics.value series := by
  refine (Metrics.value_set _ _ _ _).trans (if_neg ?_)
  cases r with
  | session id => exact Series.ne_of_foreign foreign
  | dispatch id => exact Series.ne_of_foreign foreign

end Meters

end Gateway

end Switchboard
