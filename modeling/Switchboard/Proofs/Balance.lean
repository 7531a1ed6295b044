import Mathlib.Algebra.BigOperators.Ring.Finset
import Switchboard.Proofs.Attendance

/-!
# The counters balance

A dispatch is counted in the action in which it returns, under the label of its result, and never again
(`Counts`, `counts_of_occurs`). So the counters of outcomes and the recordings of durations count the
dispatches that returned (`dispatchesCounted_of_reachable`), and with the counters of sessions all books
balance.

The gauge of the nodes is another matter. Who registers or removes a node reads the number of nodes and
sets the gauge afterwards, so the gauge shows the number that was published last (`NodesShown`). Two
sessions may read one after the other and publish the other way round, and then it is wrong for as long
as nobody comes or leaves (`exists_stale_node_gauge`).

Main results: `counters_balance`, `exists_stale_node_gauge`.
-/

set_option autoImplicit false

namespace Switchboard

/-- The labels under which ended sessions are counted. -/
def SessionError.reasons : Finset String :=
  {"end_of_stream", "read_error", "write_error", "handshake_timeout", "shutdown"}

/-- The labels under which dispatches are counted. -/
def DispatchResult.labels : Finset String :=
  {"ok", "group_not_found", "dispatch_failed", "timeout", "collision", "frame_too_large",
    "unencodable"}

theorem SessionError.reason_mem_reasons (e : SessionError) : e.reason ∈ reasons := by
  cases e <;> simp [reason, reasons]

theorem DispatchResult.label_mem_labels (result : DispatchResult) : result.label ∈ labels := by
  cases result with
  | ok e => simp [label, labels]
  | error cause => cases cause <;> simp [label, labels, DispatchError.outcome]

/-- What a dispatch returned, if it did. -/
def Dispatch.returned? (d : Dispatch) : Option DispatchResult :=
  match d.progress with
  | .done result => some result
  | _ => none

/-- A dispatch to this group returned a result of which this holds. -/
def Dispatch.completed (group : String) (p : DispatchResult → Bool) (d : Dispatch) : Bool :=
  d.group = group && d.returned?.any p

namespace Gateway

/-- The dispatches to a group that returned a result of which this holds. -/
def completions (g : Gateway) (group : String) (p : DispatchResult → Bool) : Nat :=
  g.dispatches.countP (Dispatch.completed group p)

/-- This many dispatches to a group returned a result with this label, and were counted. -/
structure Counts (n : String → String → Nat) (g g' : Gateway) : Prop where
  completions : ∀ group label, g'.completions group (fun result => result.label = label) =
    g.completions group (fun result => result.label = label) + n group label
  outcomes : ∀ group label, g'.metrics.value (.dispatchOutcome group label) =
    g.metrics.value (.dispatchOutcome group label) + n group label
  durations : ∀ group label, g'.metrics.value (.dispatchDuration group label) =
    g.metrics.value (.dispatchDuration group label) + n group label

/-- The counters of outcomes and the recordings of durations count the dispatches that returned, by the
label of the result. -/
structure DispatchesCounted (g : Gateway) : Prop where
  outcomes : ∀ group label, g.metrics.value (.dispatchOutcome group label) =
    g.completions group fun result => result.label = label
  durations : ∀ group label, g.metrics.value (.dispatchDuration group label) =
    g.completions group fun result => result.label = label

/-- The gauge of the nodes. -/
structure NodesShown (s : Settings) (g : Gateway) : Prop extends Lags s g .nodesRegistered where
  /-- Where nothing moves, the number that was read last is right. -/
  latest : Quiescent g → g.registry.nodeCount = lastTallied .nodesRegistered g.journal
  /-- So the gauge is right just if the number that was published last is the one that was read last. -/
  right : Quiescent g → (g.metrics.value .nodesRegistered = g.registry.nodeCount ↔
    lastPublished .nodesRegistered g.journal = lastTallied .nodesRegistered g.journal)

/-- The books of a gateway balance. -/
structure Balanced (s : Settings) (g : Gateway) : Prop where
  /-- Who is counted among the sessions: whoever registered, by what ended it or by nothing yet. -/
  joined : ∀ p id, id ∈ g.joiners p ↔ ∃ (t : Session) (service : Service),
    g.sessions[id]? = some t ∧ .registered id service ∈ g.journal ∧ p t.end? = true
  active : g.metrics.value .sessionsActive = (g.joiners Option.isNone).card
  closed : ∑ label ∈ SessionError.reasons, g.metrics.value (.sessionsClosed label) =
    (g.joiners Option.isSome).card
  closedUnder : ∀ label, g.metrics.value (.sessionsClosed label) =
    (g.joiners fun ended => ended.any fun reason => reason.reason = label).card
  nodes : NodesShown s g
  stale : g.metrics.value .staleDeregistrations = (overtaken g.journal).length
  /-- Every completed dispatch is counted under one of the labels, and so once only. -/
  outcomes : ∀ group, ∑ label ∈ DispatchResult.labels,
    g.metrics.value (.dispatchOutcome group label) = g.completions group fun _ => true
  outcomesUnder : ∀ group label, g.metrics.value (.dispatchOutcome group label) =
    g.completions group fun result => result.label = label
  durations : ∀ group label, g.metrics.value (.dispatchDuration group label) =
    g.metrics.value (.dispatchOutcome group label)

/-! ## Dispatches -/

section Counting

variable {s : Settings} {g g' : Gateway} {n : String → String → Nat}

/-- Nobody returned and nothing was counted. -/
theorem Counts.of_same
    (completions : ∀ group p, g'.completions group p = g.completions group p)
    (values : ∀ series : Series, series.party = .dispatches →
      g'.metrics.value series = g.metrics.value series) : Counts (fun _ _ => 0) g g' where
  completions _ _ := completions _ _
  outcomes _ _ := (values _ rfl).trans (Int.add_zero _).symm
  durations _ _ := (values _ rfl).trans (Int.add_zero _).symm

theorem completed_eq_false {group : String} {p : DispatchResult → Bool} {d : Dispatch}
    (unfinished : d.returned? = none) : d.completed group p = false := by
  rw [Dispatch.completed, unfinished, Option.any_none, Bool.and_false]

theorem returned?_eq_none_of_isOpen {d : Dispatch} (live : d.progress.isOpen = true) :
    d.returned? = none := by
  rw [Dispatch.returned?]
  cases progress : d.progress with
  | done result => exact absurd live (by simp [progress, Progress.isOpen])
  | _ => rfl

/-- A dispatch that has not returned changes in its place. -/
theorem completions_of_set {id : DispatchId} {d d' : Dispatch} (here : g.dispatches[id]? = some d)
    (unfinished : d.returned? = none) (dispatches : g'.dispatches = g.dispatches.set id d')
    (group : String) (p : DispatchResult → Bool) :
    g'.completions group p =
      g.completions group p + if d'.completed group p = true then 1 else 0 := by
  obtain ⟨lt, rfl⟩ := List.getElem?_eq_some_iff.1 here
  rw [completions, dispatches, List.countP_set lt, completed_eq_false unfinished,
    if_neg Bool.false_ne_true, Nat.sub_zero, completions]

/-- A dispatch that has not returned goes on without returning. -/
theorem completions_of_unfinished {id : DispatchId} {d d' : Dispatch}
    (here : g.dispatches[id]? = some d) (unfinished : d.returned? = none)
    (dispatches : g'.dispatches = g.dispatches.set id d') (unfinished' : d'.returned? = none)
    (group : String) (p : DispatchResult → Bool) :
    g'.completions group p = g.completions group p := by
  rw [completions_of_set here unfinished dispatches, completed_eq_false unfinished',
    if_neg Bool.false_ne_true, Nat.add_zero]

theorem completions_of_dispatches (dispatches : g'.dispatches = g.dispatches) (group : String)
    (p : DispatchResult → Bool) : g'.completions group p = g.completions group p := by
  rw [completions, dispatches, completions]

/-- The return of a dispatch is counted once, under the label of its result. -/
theorem counts_afterConcluding {id : DispatchId} {d : Dispatch} (here : g.dispatches[id]? = some d)
    (unfinished : d.returned? = none) (result : DispatchResult) :
    Counts (fun group label => if d.group = group ∧ result.label = label then 1 else 0) g
      (g.afterConcluding id d result) := by
  constructor
  · intro group label
    have dispatches : (g.afterConcluding id d result).dispatches =
      g.dispatches.set id { d with progress := .done result } := rfl
    rw [completions_of_set here unfinished dispatches]
    simp only [Dispatch.completed, Dispatch.returned?, Option.any_some, Bool.and_eq_true,
      decide_eq_true_eq]
  · intro group label
    simp only [metrics_afterConcluding, Metrics.value_add, reduceCtorEq, if_false,
      Series.dispatchOutcome.injEq]
    split <;> simp
  · intro group label
    simp only [metrics_afterConcluding, Metrics.value_add, reduceCtorEq, if_false,
      Series.dispatchDuration.injEq]
    split <;> simp

/-- Sessions let no dispatch return. -/
theorem completions_of_deed (ledger : Ledger g) {id : SessionId} {m : Move}
    (deed : Deed g id m g') (group : String) (p : DispatchResult → Bool) :
    g'.completions group p = g.completions group p := by
  rcases dispatches_of_deed ledger deed with same | ⟨caller, d, queue, left, here, blocked, same⟩
  · exact completions_of_dispatches same group p
  · have unfinished : d.returned? = none := by rw [Dispatch.returned?, blocked]
    exact completions_of_unfinished here unfinished same rfl group p

theorem counts_of_turn {id : DispatchId} {d : Dispatch} {m : Move}
    (here : g.dispatches[id]? = some d) (turn : Turn g id d m g') : ∃ n, Counts n g g' := by
  have unfinished := returned?_eq_none_of_isOpen turn.isOpen
  cases turn with
  | concluded certain => exact ⟨_, counts_afterConcluding here unfinished _⟩
  | _ => exact ⟨_, .of_same (completions_of_unfinished here unfinished rfl rfl) fun _ _ => rfl⟩

/-- A new dispatch comes last, and has not returned. -/
theorem exists_dispatches_dispatch (group : String) (e : Envelope) (timeout : Nat) :
    ∃ d, (g.dispatch group e timeout).dispatches = g.dispatches ++ [d] ∧ d.returned? = none := by
  obtain ⟨claim, attempts, progress, dispatches, opening, -⟩ := dispatch_opening g group e timeout
  exact ⟨_, dispatches, returned?_eq_none_of_isOpen opening.isOpen⟩

theorem completions_dispatch (group' : String) (e : Envelope) (timeout : Nat) (group : String)
    (p : DispatchResult → Bool) :
    (g.dispatch group' e timeout).completions group p = g.completions group p := by
  obtain ⟨d, dispatches, unfinished⟩ := exists_dispatches_dispatch (g := g) group' e timeout
  rw [completions, dispatches, List.countP_append, List.countP_singleton,
    completed_eq_false unfinished, if_neg Bool.false_ne_true, Nat.add_zero, completions]

/-- Whatever happens, as many dispatches return as are counted. -/
theorem counts_of_occurs (attained : Attained s g) {a : Action} (occurs : Occurs g a g') :
    ∃ n, Counts n g g' := by
  cases occurs with
  | deed how mem free deed =>
    exact ⟨_, .of_same (completions_of_deed (ledger_of_attained attained) deed)
      fun _ mine => value_of_deed deed (by simp [mine])⟩
  | turn here free turn => exact counts_of_turn here turn
  | publishes due =>
    exact ⟨_, .of_same (completions_of_dispatches rfl)
      fun _ mine => value_publish (g := g) (by simp [mine]) _ _⟩
  | beats id =>
    obtain ⟨registry, metrics, news, shape, -⟩ := beatAll_shape (g := g) id
    refine ⟨_, .of_same (completions_of_dispatches (by rw [shape])) fun _ mine => ?_⟩
    exact (value_beatAll (by simp [mine]) id).1
  | starts group e timeout =>
    exact ⟨_, .of_same (completions_dispatch group e timeout) fun _ _ => by rw [metrics_dispatch]⟩
  | @forsakes id d here free waits =>
    have unfinished : d.returned? = none := by
      rw [Dispatch.returned?]
      cases progress : d.progress with
      | done result => exact absurd waits (by simp [progress, Progress.isSettled])
      | _ => rfl
    exact ⟨_, .of_same (completions_of_unfinished here unfinished rfl rfl) fun _ _ => rfl⟩
  | _ => exact ⟨_, .of_same (completions_of_dispatches rfl) fun _ _ => rfl⟩

/-- The counters of outcomes and the recordings of durations count the dispatches that returned. -/
theorem dispatchesCounted_of_reachable (h : Reachable s g) : DispatchesCounted g := by
  refine holds_of_reachable ?start (fun reached counted occurs => ?step) h
  case start => exact ⟨fun _ _ => rfl, fun _ _ => rfl⟩
  case step =>
    obtain ⟨n, counts⟩ := counts_of_occurs (attained_of_reachable reached) occurs
    constructor
    · intro group label
      rw [counts.outcomes, counted.outcomes, counts.completions, Nat.cast_add]
    · intro group label
      rw [counts.durations, counted.durations, counts.completions, Nat.cast_add]

/-- The gauge of the nodes shows what was published last, which was right when it was read. -/
theorem nodesShown_of_reachable (h : Reachable s g) : NodesShown s g := by
  have lags : Lags s g .nodesRegistered := lags_of_reachable h rfl
  refine ⟨lags, fun quiet => quiet.nodeCount_eq h, fun quiet => ?_⟩
  rw [lags.shown, quiet.nodeCount_eq h, Nat.cast_inj]

end Counting

/-! ## All labels together -/

section Sums

variable {s : Settings} {g : Gateway}

theorem mem_joiners (attained : Attained s g) (p : Option SessionError → Bool) (id : SessionId) :
    id ∈ g.joiners p ↔ ∃ (t : Session) (service : Service),
      g.sessions[id]? = some t ∧ .registered id service ∈ g.journal ∧ p t.end? = true := by
  rw [joiners, Finset.mem_filter, Finset.mem_range]
  constructor
  · rintro ⟨lt, holds⟩
    have here := List.getElem?_eq_getElem lt
    rw [footing_of_here here, Option.any_map] at holds
    obtain ⟨service, listed, holds⟩ := (Option.any_eq_true _ _).1 holds
    exact ⟨_, service, here, registered_of_registration? listed, holds⟩
  · rintro ⟨t, service, here, registered, holds⟩
    refine ⟨(List.getElem?_eq_some_iff.1 here).1, ?_⟩
    rw [footing_of_here here, (registration_of_attained attained registered).1]
    exact holds

/-- Every session that ended did so under one of the labels. -/
theorem card_joiners_isSome (g : Gateway) :
    (g.joiners Option.isSome).card = ∑ label ∈ SessionError.reasons,
      (g.joiners fun ended => ended.any fun reason => reason.reason = label).card := by
  have labelled : ∀ id ∈ g.joiners Option.isSome,
      ((g.footing id).join.map SessionError.reason).getD "" ∈ SessionError.reasons := by
    intro id mem
    obtain ⟨-, holds⟩ := Finset.mem_filter.1 mem
    obtain ⟨ended, footing, some⟩ := (Option.any_eq_true _ _).1 holds
    obtain ⟨reason, rfl⟩ := Option.isSome_iff_exists.1 some
    rw [footing]
    exact SessionError.reason_mem_reasons reason
  rw [Finset.card_eq_sum_card_fiberwise labelled]
  refine Finset.sum_congr rfl fun label _ => ?_
  congr 1
  ext id
  rw [joiners, joiners, Finset.mem_filter, Finset.mem_filter, Finset.mem_filter, and_assoc]
  refine and_congr_right fun _ => ?_
  cases g.footing id with
  | none => simp
  | some ended => cases ended <;> simp

/-- Every dispatch that returned was counted under one of the labels. -/
theorem completions_eq_sum (g : Gateway) (group : String) :
    g.completions group (fun _ => true) = ∑ label ∈ DispatchResult.labels,
      g.completions group fun result => result.label = label := by
  simp only [completions]
  induction g.dispatches with
  | nil => simp
  | cons d rest ih =>
    have once : (if d.completed group (fun _ => true) = true then 1 else 0) =
        ∑ label ∈ DispatchResult.labels,
          if d.completed group (fun result => result.label = label) = true then 1 else 0 := by
      cases ended : d.returned? with
      | none => simp [Dispatch.completed, ended]
      | some result =>
        have mem := result.label_mem_labels
        by_cases mine : d.group = group
        · simp [Dispatch.completed, ended, mine, mem]
        · simp [Dispatch.completed, mine]
    simp only [List.countP_cons]
    rw [Finset.sum_add_distrib, ← ih, once]

end Sums

/-- In every state of a run the books balance. The counters of active and of closed sessions count the
sessions that registered and did not end, and those that registered and ended, each under its reason.
The counter of stale deregistrations counts the closing actions that came when another connection had
registered the node. The counters of outcomes and the recordings of durations count every dispatch that
returned once, by its group and under the label of what it returned. The gauge of nodes shows the number
that was published last: where nothing moves it is right just if this is the number that was read
last. -/
theorem counters_balance {s : Settings} {g : Gateway} (h : Reachable s g) : Balanced s g := by
  have attained := attained_of_reachable h
  have sessions := sessionsCounted_of_reachable h
  have dispatches := dispatchesCounted_of_reachable h
  exact
    { joined := mem_joiners attained
      active := sessions.active
      closed := by
        rw [card_joiners_isSome, Nat.cast_sum]
        exact Finset.sum_congr rfl fun label _ => sessions.closed label
      closedUnder := sessions.closed
      nodes := nodesShown_of_reachable h
      stale := by
        have counted := staleCounted_of_reachable h
        rw [StaleCounted] at counted
        rw [counted, isStale_of_attained attained]
      outcomes := fun group => by
        rw [completions_eq_sum, Nat.cast_sum]
        exact Finset.sum_congr rfl fun label _ => dispatches.outcomes group label
      outcomesUnder := dispatches.outcomes
      durations := fun group label => by rw [dispatches.durations, dispatches.outcomes] }

/-- A connection takes the node over from another one, which ends, a third ends in its handshake, and
the second announces its restart and goes on. One dispatch is answered, one lapses, and one finds the
group deserted. -/
def booksRun : List Action :=
  join 0 100 keepaliveFrame ++ join 1 100 keepaliveFrame ++
    [.input (.closeWrite 0), .move (.receive 0), .move (.receive 0)] ++ reported (.session 0) ++
    [.input (.connect 100), .input (.closeWrite 2), .move (.greet 2), .move (.receive 1)] ++
    ask 0 "default_group" { command := .getItem } 1000 ++
    [.move (.place 0 0), .input (.send 1 (replyFrame 1)), .move (.receive 1), .move (.collect 0)] ++
    returned 0 ++ ask 1 "default_group" { command := .getItem } 1000 ++
    [.move (.place 1 0), .input (.elapse 1000), .move (.expire 1)] ++ returned 1 ++
    [.input (.send 1 restartFrame), .move (.receive 1)] ++ reported (.session 1) ++
    ask 2 "default_group" { command := .getItem } 1000 ++ returned 2

/-- What the counters show after all this. -/
theorem counters_balance_booksRun :
    Reachable sample (play sample booksRun) ∧
      (play sample booksRun).metrics.value .sessionsActive = 1 ∧
      ∑ label ∈ SessionError.reasons,
        (play sample booksRun).metrics.value (.sessionsClosed label) = 1 ∧
      (play sample booksRun).metrics.value .nodesRegistered = 0 ∧
      (play sample booksRun).metrics.value .staleDeregistrations = 1 ∧
      ∑ label ∈ DispatchResult.labels,
        (play sample booksRun).metrics.value (.dispatchOutcome "default_group" label) = 3 := by
  have reached := reachable_play sample booksRun
  have active : ((play sample booksRun).joiners Option.isNone).card = 1 := by decide +kernel
  have closed : ((play sample booksRun).joiners Option.isSome).card = 1 := by decide +kernel
  have nodes : lastPublished .nodesRegistered (play sample booksRun).journal = 0 := by decide +kernel
  have stale : overtaken (play sample booksRun).journal = [0] := by decide +kernel
  have completed : (play sample booksRun).completions "default_group" (fun _ => true) = 3 := by
    decide +kernel
  have balanced := counters_balance reached
  refine ⟨reached, ?_, ?_, ?_, ?_, ?_⟩
  · rw [balanced.active, active, Nat.cast_one]
  · rw [balanced.closed, closed, Nat.cast_one]
  · rw [balanced.nodes.shown, nodes, Nat.cast_zero]
  · rw [balanced.stale, stale, List.length_singleton, Nat.cast_one]
  · rw [balanced.outcomes, completed, Nat.cast_ofNat]

/-- Two workers register their nodes at the same time. The first session has the node counted, then the
second one does and sets the gauge, and then the first one sets it. -/
def crossedRun : List Action :=
  [.input (.connect 100), .input (.send 0 keepaliveFrame), .move (.greet 0),
    .move (.tally (.session 0)), .input (.connect 100), .input (.send 1 secondFrame),
    .move (.greet 1)] ++ reported (.session 1) ++
    [.move (.publish (.session 0)), .move (.acquire 0), .move (.acquire 1), .move (.receive 0)]

/-- Where nothing moves, the gauge of the nodes may be wrong. -/
theorem exists_stale_node_gauge :
    ¬ ∀ {s g}, Reachable s g → Quiescent g →
      g.metrics.value .nodesRegistered = g.registry.nodeCount := by
  intro claim
  have quiet : Quiescent (play sample crossedRun) :=
    quiescent_iff_advance?.2 (Option.isNone_iff_eq_none.1 (by decide +kernel))
  have nodes : (play sample crossedRun).registry.nodeCount = 2 := by decide +kernel
  have shown : (play sample crossedRun).metrics.value .nodesRegistered = 1 := by decide +kernel
  have wrong := claim (reachable_play sample crossedRun) quiet
  rw [shown, nodes] at wrong
  exact absurd wrong (by decide)

end Gateway

end Switchboard
