import Switchboard.Proofs.Ledger
import Switchboard.Proofs.Slots
import Switchboard.Proofs.Solo

/-!
# How dispatches start and end

A dispatch starts with a certain result, which is then an error, or with candidates to try
(`Opening`). A result that is certain stays so (`certain_of_change`), a dispatch that is over stays
as it is, and the journal tells of the end of no other (`over_of_attained`). An action makes the
result of a dispatch certain in one of few ways (`decided_of_act`). It ends a dispatch whose result is
certain, or one whose caller goes away, and the slot goes with the dispatch (`ended_of_act`).
-/

set_option autoImplicit false

namespace Switchboard.Gateway

/-! ## What is over stays over -/

section Over

variable {s : Settings} {g g' : Gateway}

/-- A dispatch that is over has its result, unless its caller went away. -/
theorem Progress.result?_of_over {p : Progress} (stopped : p.isOpen = false) :
    (∃ result, p = .done result) ∨ p = .cancelled := by
  cases p with
  | done result => exact Or.inl ⟨result, rfl⟩
  | cancelled => exact Or.inr rfl
  | _ => exact absurd stopped (by simp [Progress.isOpen])

/-- How a change may leave a dispatch: as it was, on its way if it was on its way, or with the result
that was certain. -/
inductive Advance (before after : Progress) : Prop
  | stays (same : after = before) : Advance before after
  | goesOn (live : before.isOpen = true) (undecided : before.result? = none) : Advance before after
  | returns {result : DispatchResult} (certain : before = .resolved result)
      (returned : after = .done result) : Advance before after

theorem advance_of_change (l : Ledger g) (c : Change g g') {id : DispatchId} {x : Dispatch}
    (here : g.dispatches[id]? = some x) :
    ∃ progress, g'.dispatches[id]? = some { x with progress } ∧ Advance x.progress progress := by
  have kept : ∃ progress, g.dispatches[id]? = some { x with progress } ∧
      Advance x.progress progress := ⟨x.progress, here, .stays rfl⟩
  have sets : ∀ {other : DispatchId} {d : Dispatch} (progress : Progress),
      g.dispatches[other]? = some d → Advance d.progress progress →
      ∃ progress', (g.dispatches.set other { d with progress })[id]? =
        some { x with progress := progress' } ∧ Advance x.progress progress' := by
    intro other d progress there advance
    by_cases same : other = id
    · subst same
      obtain rfl := Option.some.inj (there.symm.trans here)
      obtain ⟨lt, -⟩ := List.getElem?_eq_some_iff.1 there
      exact ⟨progress, List.getElem?_set_self lt, advance⟩
    · rw [List.getElem?_set_ne same]
      exact kept
  have grows : ∀ {d : Dispatch}, ∃ progress, (g.dispatches ++ [d])[id]? = some { x with progress } ∧
      Advance x.progress progress := by
    intro d
    rw [List.getElem?_append_left (List.getElem?_eq_some_iff.1 here).1]
    exact kept
  -- whoever is let in was blocked
  have lets : ∀ {h : Gateway} {queue : QueueId} {taken : Queue.Taken DispatchId},
      (g.registry.queue queue).pop? = some taken → h.dispatches = g.dispatches →
      ∃ progress, (h.letIn taken.served queue).dispatches[id]? = some { x with progress } ∧
        Advance x.progress progress := by
    intro h queue taken popped same
    rcases letIn_cases h taken.served queue with ⟨eq, -⟩ | ⟨caller, d, served, there, eq⟩
    · rw [eq, same]
      exact kept
    · rw [same] at there
      obtain ⟨left, blocked⟩ := l.blocked_of_served popped served there
      rw [eq, same]
      exact sets .awaiting there (.goesOn (by rw [blocked]; rfl) (by rw [blocked]; rfl))
  cases c with
  | took there serving reaching popped encoded => exact lets popped rfl
  | skipped there serving reaching popped unwritable => exact lets popped rfl
  | begun group e timeout opened seen => exact grows
  | collided group e timeout taken => exact grows
  | resolved there verdict =>
    obtain ⟨live, undecided⟩ := Progress.isSettled_eq_false.1 verdict.isSettled
    exact sets _ there (.goesOn live undecided)
  | concluded there certain => exact sets _ there (.returns certain rfl)
  | forsaken there live undecided => exact sets _ there (.goesOn live undecided)
  | placed there placing among live pushed =>
    exact sets _ there (.goesOn (by rw [placing]; rfl) (by rw [placing]; rfl))
  | joined there placing among rest live full =>
    exact sets _ there (.goesOn (by rw [placing]; rfl) (by rw [placing]; rfl))
  | passed there placing among rest shut =>
    exact sets _ there (.goesOn (by rw [placing]; rfl) (by rw [placing]; rfl))
  | movedOn there blocked shut =>
    exact sets _ there (.goesOn (by rw [blocked]; rfl) (by rw [blocked]; rfl))
  | _ => exact kept

/-- A dispatch that is over is left alone. -/
theorem over_of_change (l : Ledger g) (c : Change g g') {id : DispatchId} {x : Dispatch}
    (here : g.dispatches[id]? = some x) (stopped : x.progress.isOpen = false) :
    g'.dispatches[id]? = some x := by
  obtain ⟨progress, here', advance⟩ := advance_of_change l c here
  cases advance with
  | stays same => rw [here', same]
  | goesOn live undecided => exact absurd (stopped.symm.trans live) (by simp)
  | returns certain returned =>
    rw [certain] at stopped
    exact absurd stopped (by simp [Progress.isOpen])

/-- A result that is certain stays so. -/
theorem certain_of_change (l : Ledger g) (c : Change g g') {id : DispatchId} {x : Dispatch}
    {result : DispatchResult} (here : g.dispatches[id]? = some x)
    (certain : x.progress.result? = some result) :
    ∃ x', g'.dispatches[id]? = some x' ∧ x'.progress.result? = some result := by
  obtain ⟨progress, here', advance⟩ := advance_of_change l c here
  refine ⟨_, here', ?_⟩
  cases advance with
  | stays same => rw [same, certain]
  | goesOn live undecided => exact absurd (undecided.symm.trans certain) (by simp)
  | returns certain' returned =>
    rw [certain'] at certain
    rw [returned]
    exact certain

/-- A dispatch that does not wait for anything any more never does again. -/
theorem settled_of_change (l : Ledger g) (c : Change g g') {id : DispatchId} {x : Dispatch}
    (here : g.dispatches[id]? = some x) (settled : x.progress.isSettled = true) :
    ∃ x', g'.dispatches[id]? = some x' ∧ x'.progress.isSettled = true := by
  cases live : x.progress.isOpen with
  | false => exact ⟨x, over_of_change l c here live, settled⟩
  | true =>
    -- it is open, so it has a result and is about to return
    cases certain : x.progress.result? with
    | none =>
      rw [Progress.isSettled_eq_false.2 ⟨live, certain⟩] at settled
      exact absurd settled (by simp)
    | some result =>
      obtain ⟨x', here', certain'⟩ := certain_of_change l c here certain
      exact ⟨x', here', Progress.isSettled_of_certain certain'⟩

/-- The journal tells that a dispatch is over. -/
def Concluded (id : DispatchId) (journal : List Event) : Prop :=
  (∃ result, .finished id result ∈ journal) ∨ .cancelled id ∈ journal

theorem Concluded.cons {id : DispatchId} {journal : List Event} (h : Concluded id journal)
    (event : Event) : Concluded id (event :: journal) := by
  rcases h with ⟨result, mem⟩ | mem
  · exact Or.inl ⟨result, List.mem_cons_of_mem _ mem⟩
  · exact Or.inr (List.mem_cons_of_mem _ mem)

theorem Concluded.of_cons {id : DispatchId} {event : Event} {journal : List Event}
    (h : Concluded id (event :: journal)) :
    Concluded id journal ∨ (∃ result, event = .finished id result) ∨ event = .cancelled id := by
  rcases h with ⟨result, mem⟩ | mem
  · rcases List.mem_cons.1 mem with same | earlier
    · exact Or.inr (Or.inl ⟨result, same.symm⟩)
    · exact Or.inl (Or.inl ⟨result, earlier⟩)
  · rcases List.mem_cons.1 mem with same | earlier
    · exact Or.inr (Or.inr same.symm)
    · exact Or.inl (Or.inr earlier)

theorem Concluded.of_letIn {id : DispatchId} {waiting : Option DispatchId} {queue : QueueId}
    (h : Concluded id (g.letIn waiting queue).journal) : Concluded id g.journal := by
  rcases letIn_cases g waiting queue with ⟨eq, -⟩ | ⟨caller, d, -, -, eq⟩
  · rwa [eq] at h
  · rw [eq] at h
    exact h.of_cons.resolve_right (by simp)

/-- A change tells of the end of a dispatch that it ends, and of no other. -/
theorem concluded_of_change (c : Change g g') {id : DispatchId} (concluded : Concluded id g'.journal) :
    Concluded id g.journal ∨ ∃ x, g'.dispatches[id]? = some x ∧ x.progress.isOpen = false := by
  cases c with
  | concluded here certain =>
    rcases concluded.of_cons with before | ⟨result, same⟩ | same
    · exact Or.inl before
    · obtain ⟨rfl, -⟩ := Event.finished.inj same
      obtain ⟨lt, -⟩ := List.getElem?_eq_some_iff.1 here
      exact Or.inr ⟨_, List.getElem?_set_self lt, rfl⟩
    · exact absurd same (by simp)
  | forsaken here live undecided =>
    rcases concluded.of_cons with before | ⟨result, same⟩ | same
    · exact Or.inl before
    · exact absurd same (by simp)
    · obtain rfl := Event.cancelled.inj same
      obtain ⟨lt, -⟩ := List.getElem?_eq_some_iff.1 here
      exact Or.inr ⟨_, List.getElem?_set_self lt, rfl⟩
  | took here serving reaching popped encoded =>
    exact Or.inl (by simpa [Concluded] using concluded.of_letIn)
  | skipped here serving reaching popped unwritable =>
    have before := concluded.of_cons.resolve_right (by simp)
    exact Or.inl (by simpa [Concluded] using before.of_letIn)
  | begun group e timeout opens seen =>
    exact Or.inl ((Concluded.of_cons concluded).resolve_right (by simp))
  -- the others tell of something else, or of nothing
  | _ => exact Or.inl (by simpa [Concluded] using concluded)

/-- What the journal says is over is over. -/
theorem over_of_attained (h : Attained s g) {id : DispatchId} (concluded : Concluded id g.journal) :
    ∃ x, g.dispatches[id]? = some x ∧ x.progress.isOpen = false := by
  induction h with
  | refl => exact absurd concluded (by simp [Concluded, start])
  | tail attained c ih =>
    rcases concluded_of_change c concluded with before | now
    · obtain ⟨x, here, stopped⟩ := ih before
      exact ⟨x, over_of_change (ledger_of_attained attained) c here stopped, stopped⟩
    · exact now

/-- The journal tells the ids of dispatches. -/
theorem correlationId_of_opened (h : Attained s g) {id : DispatchId} {c : CorrelationId}
    (opened : .opened id c ∈ g.journal) :
    ∃ x, g.dispatches[id]? = some x ∧ x.request.correlationId = c := by
  induction h with
  | refl => exact absurd opened (by simp [start])
  | @tail g g' attained c' ih =>
    have earlier : .opened id c ∈ g.journal → ∃ x, g'.dispatches[id]? = some x ∧
        x.request.correlationId = c := by
      intro before
      obtain ⟨x, here, same⟩ := ih before
      obtain ⟨progress, here'⟩ := dispatch_of_change c' here
      exact ⟨_, here', same⟩
    have letIn : ∀ {h : Gateway} {waiting : Option DispatchId} {queue : QueueId},
        .opened id c ∈ (h.letIn waiting queue).journal → .opened id c ∈ h.journal := by
      intro h waiting queue mem
      rcases letIn_cases h waiting queue with ⟨eq, -⟩ | ⟨caller, d, -, -, eq⟩
      · rwa [eq] at mem
      · rw [eq] at mem
        simpa using mem
    cases c' with
    | begun group e timeout opens seen =>
      rcases List.mem_cons.1 opened with same | before
      · obtain ⟨rfl, rfl⟩ := Event.opened.inj same
        exact ⟨_, List.getElem?_concat_length, rfl⟩
      · exact earlier before
    | took here serving reaching popped encoded =>
      exact earlier (by simpa using letIn opened)
    | skipped here serving reaching popped unwritable =>
      exact earlier (by simpa using letIn ((List.mem_cons.1 opened).resolve_left (by simp)))
    | _ => exact earlier (by simpa using opened)

end Over

/-! ## How a dispatch starts -/

/-- What a dispatch starts with: its claim, its progress, and the table of slots. -/
inductive Opening (g : Gateway) (group : String) (request : Envelope) :
    Option Correlation.Claim → Progress → Correlation.Table → Prop
  | collided (taken : g.replies.open? request.correlationId = none) :
      Opening g group request none (.resolved (.error (.collision request.correlationId)))
        g.replies
  | tooLarge {claim : Correlation.Claim} {replies : Correlation.Table}
      (opened : g.replies.open? request.correlationId = some (claim, replies))
      (large : g.settings.dispatchLimit < Wire.bodySize request) :
      Opening g group request (some claim)
        (.resolved (.error (.tooLarge g.settings.dispatchLimit (Wire.bodySize request)))) replies
  | groupNotFound {claim : Correlation.Claim} {replies : Correlation.Table}
      (opened : g.replies.open? request.correlationId = some (claim, replies))
      (fits : Wire.bodySize request ≤ g.settings.dispatchLimit)
      (nobody : g.registry.candidates group = none) :
      Opening g group request (some claim) (.resolved (.error (.groupNotFound group))) replies
  | placing {claim : Correlation.Claim} {replies : Correlation.Table} {left : List Candidate}
      (opened : g.replies.open? request.correlationId = some (claim, replies))
      (fits : Wire.bodySize request ≤ g.settings.dispatchLimit)
      (seen : g.registry.candidates group = some left) :
      Opening g group request (some claim) (.placing left) replies

section Opening

variable (g : Gateway)

/-- Every dispatch is open at first. -/
theorem Opening.isOpen {g : Gateway} {group : String} {request : Envelope}
    {claim : Option Correlation.Claim} {progress : Progress} {replies : Correlation.Table}
    (opening : Opening g group request claim progress replies) : progress.isOpen = true := by
  cases opening <;> rfl

@[simp]
theorem dispatches_resolve (id : DispatchId) (d : Dispatch) (result : DispatchResult) :
    (g.resolve id d result).dispatches =
      g.dispatches.set id { d with progress := .resolved result } :=
  rfl

@[simp]
theorem replies_resolve (id : DispatchId) (d : Dispatch) (result : DispatchResult) :
    (g.resolve id d result).replies = g.replies :=
  rfl

@[simp]
theorem clock_resolve (id : DispatchId) (d : Dispatch) (result : DispatchResult) :
    (g.resolve id d result).clock = g.clock :=
  rfl

/-- A new dispatch comes after those before and starts in one of these ways. -/
theorem dispatch_opening (group : String) (e : Envelope) (timeout : Nat) :
    ∃ claim attempts progress,
      (g.dispatch group e timeout).dispatches =
        g.dispatches ++ [{ g.newDispatch group e timeout with claim, attempts, progress }] ∧
      Opening g group (e.stamped g.ids.next.1) claim progress (g.dispatch group e timeout).replies ∧
      (g.dispatch group e timeout).clock = g.clock ∧
      ∀ left, progress = .placing left → attempts = left.length := by
  have set : ∀ (d d' : Dispatch), (g.dispatches ++ [d]).set g.dispatches.length d' =
      g.dispatches ++ [d'] := by
    intro d d'
    rw [List.set_append_right _ _ (Nat.le_refl _), Nat.sub_self, List.set_cons_zero]
  cases opened : g.replies.open? g.ids.next.1 with
  -- the id is taken
  | none =>
    refine ⟨none, 0, .resolved (.error (.collision g.ids.next.1)), ?_⟩
    simp only [dispatch, opened, dispatches_resolve, replies_resolve, clock_resolve, set, true_and]
    exact ⟨rfl, .collided opened, by simp⟩
  | some pair =>
    obtain ⟨claim, replies⟩ := pair
    by_cases large : g.settings.dispatchLimit < Wire.bodySize (e.stamped g.ids.next.1)
    -- the slot is open, and nobody is asked
    · refine ⟨some claim, 0, .resolved (.error (.tooLarge g.settings.dispatchLimit
        (Wire.bodySize (e.stamped g.ids.next.1)))), ?_⟩
      simp only [dispatch, opened, report, record, large, if_true, dispatches_resolve,
        replies_resolve, clock_resolve, set, true_and]
      exact ⟨rfl, .tooLarge opened large, by simp⟩
    · cases seen : g.registry.candidates group with
      | none =>
        refine ⟨some claim, 0, .resolved (.error (.groupNotFound group)), ?_⟩
        simp only [dispatch, opened, report, record, large, if_false, seen, dispatches_resolve,
          replies_resolve, clock_resolve, set, true_and]
        exact ⟨rfl, .groupNotFound opened (Nat.le_of_not_lt large) seen, by simp⟩
      | some left =>
        refine ⟨some claim, left.length, .placing left, ?_⟩
        simp only [dispatch, opened, report, record, large, if_false, seen, setDispatch, set,
          true_and]
        refine ⟨rfl, .placing opened (Nat.le_of_not_lt large) seen, fun left' same => ?_⟩
        rw [Progress.placing.inj same]

/-- A new dispatch is found under the next number. -/
theorem exists_started (group : String) (e : Envelope) (timeout : Nat) :
    ∃ claim attempts progress,
      (g.input (.dispatch group e timeout)).dispatches[g.dispatches.length]? =
        some { g.newDispatch group e timeout with claim, attempts, progress } ∧
      Opening g group (e.stamped g.ids.next.1) claim progress
        (g.input (.dispatch group e timeout)).replies ∧
      (g.input (.dispatch group e timeout)).clock = g.clock ∧
      ∀ left, progress = .placing left → attempts = left.length := by
  obtain ⟨claim, attempts, progress, dispatches, others⟩ := dispatch_opening g group e timeout
  refine ⟨claim, attempts, progress, ?_, others⟩
  rw [show (g.input (.dispatch group e timeout)).dispatches = _ from dispatches,
    List.getElem?_concat_length]

end Opening

/-! ## How a dispatch ends -/

/-- How the result of an open dispatch that found candidates becomes certain. -/
inductive Ending (g : Gateway) (x : Dispatch) : DispatchResult → Prop
  | exhausted : Ending g x (.error (.dispatchFailed x.group x.attempts))
  | replied {e : Envelope} (seen : g.look x = .reply e) : Ending g x (.ok e)
  | abandoned (seen : g.look x = .closed) : Ending g x (.error (.timeout x.timeout))
  | lapsed (due : x.deadline ≤ g.clock) : Ending g x (.error (.timeout x.timeout))

/-- What an action settles: a result becomes certain, a dispatch ends, or one starts. -/
inductive Settlement (g : Gateway) (a : Action) (g' : Gateway) : Prop
  /-- What is settled now was so before. -/
  | nothing (before : ∀ {id : DispatchId} {x}, g'.dispatches[id]? = some x →
      x.progress.isSettled = true → g.dispatches[id]? = some x)
  /-- The result of a dispatch becomes certain. -/
  | decided {id : DispatchId} {x : Dispatch} {result : DispatchResult}
      (here : g.dispatches[id]? = some x) (ending : Ending g x result)
      (undecided : x.progress.isSettled = false)
      (dispatches : g'.dispatches = g.dispatches.set id { x with progress := .resolved result })
      (clock : g'.clock = g.clock)
  /-- A dispatch ends. -/
  | ended {id : DispatchId} {x : Dispatch} {progress : Progress}
      (here : g.dispatches[id]? = some x) (live : x.progress.isOpen = true)
      (how : (∃ result, x.progress = .resolved result ∧ progress = .done result) ∨
        (x.progress.isSettled = false ∧ progress = .cancelled))
      (dispatches : g'.dispatches = g.dispatches.set id { x with progress })
      (replies : g'.replies = (g.release x).replies)
  /-- A dispatch starts. -/
  | started {group : String} {e : Envelope} {timeout : Nat}
      (starts : a = .input (.dispatch group e timeout)) (eq : g' = g.dispatch group e timeout)

section Settlement

variable {g g' : Gateway} {a : Action}

/-- Where the dispatches stay as they are, nothing is settled. -/
theorem Settlement.of_dispatches (dispatches : g'.dispatches = g.dispatches) : Settlement g a g' :=
  .nothing fun here _ => dispatches ▸ here

/-- A dispatch that goes on waiting settles nothing. -/
theorem Settlement.of_set {id : DispatchId} {x : Dispatch} {progress : Progress}
    (waits : progress.isSettled = false)
    (dispatches : g'.dispatches = g.dispatches.set id { x with progress }) : Settlement g a g' := by
  refine .nothing fun here settled => ?_
  rcases getElem?_set_cases (dispatches ▸ here) with ⟨-, rfl⟩ | ⟨-, same⟩
  · exact absurd (waits.symm.trans settled) (by simp)
  · exact same

theorem dispatches_onStream (id : SessionId) (change : Session → Session) :
    (g.onStream id change).dispatches = g.dispatches := by
  rw [onStream]
  split <;> rfl

/-- A beat puts keepalives on queues and does nothing else but count. -/
theorem beatAll_shape (id : HeartbeatId) :
    ∃ registry metrics news, g.beatAll id = { g with registry, metrics, journal := news ++ g.journal } ∧
      ∀ event ∈ news, ∃ queue, event = .queued queue .keepalive (.heartbeat id) := by
  rw [beatAll]
  generalize g.registry.allQueues = nodes
  induction nodes generalizing g with
  | nil => exact ⟨g.registry, g.metrics, [], rfl, by simp⟩
  | cons node rest ih =>
    -- one offer, and those after it
    have first : ∃ registry metrics news,
        offerKeepalive id g node = { g with registry, metrics, journal := news ++ g.journal } ∧
          ∀ event ∈ news, ∃ queue, event = .queued queue .keepalive (.heartbeat id) := by
      rw [offerKeepalive, offer, Registry.offer]
      cases (g.registry.queue node.queue).push? g.registry.capacity .keepalive with
      | none => exact ⟨g.registry, _, [], rfl, by simp⟩
      | some q => exact ⟨_, g.metrics, [.queued node.queue .keepalive (.heartbeat id)], rfl, by simp⟩
    obtain ⟨registry, metrics, news, shape, each⟩ := first
    obtain ⟨registry', metrics', news', shape', each'⟩ := ih (g := offerKeepalive id g node)
    refine ⟨registry', metrics', news' ++ news, ?_, fun event mem => ?_⟩
    · rw [List.foldl_cons, shape', shape, List.append_assoc]
    · exact (List.mem_append.1 mem).elim (each' event) (each event)

theorem dispatches_greet {id : SessionId} (h : g.greet id = some g') :
    g'.dispatches = g.dispatches := by
  cases deed_of_greet h with
  | dismissed reason how here greeting => rfl
  | enrolled e rest here greeting room => rfl
  | broke here greeting => rfl
  | finished reason how here serving => exact absurd how (by simp)

/-- A move of a dispatch settles it at most. -/
theorem settlement_of_turn {id : DispatchId} {x : Dispatch} {m : Move}
    (here : g.dispatches[id]? = some x) (turn : Turn g id x m g') : Settlement g a g' := by
  cases turn with
  | passed placing chosen shut => exact .of_set rfl rfl
  | placed placing chosen live pushed => exact .of_set rfl rfl
  | joined placing chosen live full => exact .of_set rfl rfl
  | movedOn blocked shut => exact .of_set rfl rfl
  | exhausted placing => exact .decided here .exhausted (by rw [placing]; rfl) rfl rfl
  | replied awaiting seen => exact .decided here (.replied seen) (by rw [awaiting]; rfl) rfl rfl
  | abandoned awaiting seen => exact .decided here (.abandoned seen) (by rw [awaiting]; rfl) rfl rfl
  | lapsed waits due =>
    exact .decided here (.lapsed due) (Verdict.lapsed waits due).isSettled rfl rfl
  | @concluded result certain =>
    exact .ended here (by rw [certain]; rfl) (Or.inl ⟨result, certain, rfl⟩) rfl rfl

theorem settlement_of_cancel {id : DispatchId} (h : g.cancel id = some g') :
    Settlement g a g' := by
  obtain ⟨x, here, h⟩ := Option.bind_eq_some_iff.1 h
  split at h
  · exact absurd h (by simp)
  · rename_i waits
    obtain rfl := Option.some.inj h
    have waits := Bool.eq_false_iff.2 waits
    exact .ended here (Progress.isSettled_eq_false.1 waits).1 (Or.inr ⟨waits, rfl⟩) rfl rfl

theorem settlement_of_input (i : Input) : Settlement g (.input i) (g.input i) := by
  cases i with
  | dispatch group e timeout => exact .started rfl rfl
  | cancel other =>
    rw [input]
    split
    · exact .of_dispatches rfl
    · cases h : g.cancel other with
      | none => exact .of_dispatches rfl
      | some g' => exact settlement_of_cancel h
  | rouse other =>
    rw [input]
    split
    · exact .of_dispatches rfl
    · cases h : g.reach other with
      | none => exact .of_dispatches rfl
      | some g' => exact .nothing (solo_of_deed (deed_of_reach h) (by simp)).endings
  | send other bytes => exact .of_dispatches (dispatches_onStream _ _)
  | closeWrite other => exact .of_dispatches (dispatches_onStream _ _)
  | failRead other text => exact .of_dispatches (dispatches_onStream _ _)
  | consume other count => exact .of_dispatches (dispatches_onStream _ _)
  | closeRead other => exact .of_dispatches (dispatches_onStream _ _)
  | _ => exact .of_dispatches rfl

theorem settlement_of_move {m : Move} (h : g.move? m = some g') : Settlement g (.move m) g' := by
  have session (old : SessionId) (mem : m ∈ sessionMoves old) (later : m ≠ .greet old) :
      Settlement g (.move m) g' := .nothing (solo_of_move mem later h).endings
  have turned (other : DispatchId) (own : m.dispatch? = some other) :
      Settlement g (.move m) g' := by
    obtain ⟨x, here, turn⟩ := turn_of_move own h
    exact settlement_of_turn here turn
  have step := step?_of_move? h
  cases m with
  | greet other => exact .of_dispatches (dispatches_greet step)
  | place other choice => exact turned other rfl
  | exhaust other => exact turned other rfl
  | moveOn other => exact turned other rfl
  | collect other => exact turned other rfl
  | expire other => exact turned other rfl
  | conclude other => exact turned other rfl
  | beat other =>
    obtain ⟨beat, -, step⟩ := Option.bind_eq_some_iff.1 step
    split at step
    · obtain rfl := Option.some.inj step
      obtain ⟨registry, metrics, news, shape, -⟩ := beatAll_shape (g := g) other
      refine .of_dispatches ?_
      dsimp only
      rw [shape]
    · exact absurd step (by simp)
  | stopBeat other =>
    obtain ⟨beat, -, step⟩ := Option.bind_eq_some_iff.1 step
    split at step
    · obtain rfl := Option.some.inj step
      exact .of_dispatches rfl
    · exact absurd step (by simp)
  | tally r =>
    obtain ⟨-, rfl⟩ := tally_eq_some step
    exact .of_dispatches rfl
  | publish r =>
    obtain ⟨number, -, rfl⟩ := publish_eq_some step
    exact .of_dispatches rfl
  | giveUp other => exact session other (by simp [sessionMoves]) (by simp)
  | halt other => exact session other (by simp [sessionMoves]) (by simp)
  | receive other => exact session other (by simp [sessionMoves]) (by simp)
  | acquire other => exact session other (by simp [sessionMoves]) (by simp)
  | retire other => exact session other (by simp [sessionMoves]) (by simp)
  | reach other => exact session other (by simp [sessionMoves]) (by simp)
  | take other => exact session other (by simp [sessionMoves]) (by simp)
  | write other => exact session other (by simp [sessionMoves]) (by simp)

theorem settlement_of_act (h : g.act? a = some g') : Settlement g a g' := by
  cases a with
  | input i =>
    obtain rfl := Option.some.inj h
    exact settlement_of_input i
  | move m => exact settlement_of_move h

end Settlement

/-- What an action has to do with a dispatch whose result is certain afterwards. -/
inductive Decided (g : Gateway) (a : Action) (g' : Gateway) (id : DispatchId) (x' : Dispatch)
    (result : DispatchResult) : Prop
  /-- It was certain before. -/
  | before {x : Dispatch} (here : g.dispatches[id]? = some x)
      (certain : x.progress.result? = some result)
  /-- The action makes it certain. -/
  | now {x : Dispatch} (here : g.dispatches[id]? = some x) (undecided : x.progress.isSettled = false)
      (same : x' = { x with progress := .resolved result }) (ending : Ending g x result)
      (clock : g'.clock = g.clock)
  /-- The action starts the dispatch. -/
  | start {group : String} {e : Envelope} {timeout : Nat}
      (starts : a = .input (.dispatch group e timeout)) (latest : id = g.dispatches.length)

/-- What an action has to do with a dispatch that is over afterwards. -/
inductive Ended (g : Gateway) (g' : Gateway) (id : DispatchId) (x' : Dispatch) : Prop
  /-- It was over before. -/
  | before (here : g.dispatches[id]? = some x')
  /-- The action ends it, and its result was certain or its caller goes away. -/
  | now {x : Dispatch} {progress : Progress} (here : g.dispatches[id]? = some x)
      (live : x.progress.isOpen = true) (same : x' = { x with progress })
      (how : (∃ result, x.progress = .resolved result ∧ progress = .done result) ∨
        (x.progress.isSettled = false ∧ progress = .cancelled))
      (replies : g'.replies = (g.release x).replies)

section Ended

variable {g g' : Gateway} {a : Action} {id : DispatchId} {x' : Dispatch}

/-- A result that is certain after an action was so before, or the action makes it certain or starts
the dispatch. -/
theorem decided_of_act (h : g.act? a = some g') (here : g'.dispatches[id]? = some x')
    {result : DispatchResult} (certain : x'.progress.result? = some result) :
    Decided g a g' id x' result := by
  cases settlement_of_act h with
  | nothing before =>
    exact .before (before here (Progress.isSettled_of_certain certain)) certain
  | decided there ending undecided dispatches clock =>
    rcases getElem?_set_cases (dispatches ▸ here) with ⟨rfl, rfl⟩ | ⟨-, same⟩
    · obtain rfl := Option.some.inj certain
      exact .now there undecided rfl ending clock
    · exact .before same certain
  | ended there live how dispatches replies =>
    rcases getElem?_set_cases (dispatches ▸ here) with ⟨rfl, rfl⟩ | ⟨-, same⟩
    · rcases how with ⟨result, was, rfl⟩ | ⟨-, rfl⟩
      · exact .before there (by rw [was]; exact certain)
      · exact absurd certain (by simp [Progress.result?])
    · exact .before same certain
  | @started group e timeout starts eq =>
    subst eq
    obtain ⟨claim, attempts, progress, dispatches, -, -⟩ := dispatch_opening g group e timeout
    rcases getElem?_concat_cases (dispatches ▸ here) with old | ⟨latest, -⟩
    · exact .before old certain
    · exact .start starts latest

/-- A dispatch that is over after an action was over before, or the action ends it. -/
theorem ended_of_act (h : g.act? a = some g') (here : g'.dispatches[id]? = some x')
    (stopped : x'.progress.isOpen = false) : Ended g g' id x' := by
  cases settlement_of_act h with
  | nothing before => exact .before (before here (Progress.isSettled_of_over stopped))
  | decided there ending undecided dispatches clock =>
    rcases getElem?_set_cases (dispatches ▸ here) with ⟨rfl, rfl⟩ | ⟨-, same⟩
    · exact absurd stopped (by simp [Progress.isOpen])
    · exact .before same
  | ended there live how dispatches replies =>
    rcases getElem?_set_cases (dispatches ▸ here) with ⟨rfl, rfl⟩ | ⟨-, same⟩
    · exact .now there live rfl how replies
    · exact .before same
  | @started group e timeout starts eq =>
    subst eq
    obtain ⟨claim, attempts, progress, dispatches, opening, -⟩ := dispatch_opening g group e timeout
    rcases getElem?_concat_cases (dispatches ▸ here) with old | ⟨-, rfl⟩
    · exact .before old
    · exact absurd (stopped.symm.trans opening.isOpen) (by simp)

end Ended

end Switchboard.Gateway
