import Switchboard.Proofs.Admission
import Switchboard.Proofs.Course
import Switchboard.Proofs.Directory

/-!
# Where a dispatch puts its envelope, and what it leaves behind

A dispatch sees the members of its group once, each with its own queue, and tries them one after
another in any order. Its envelope is taken by the first of them whose queue does not turn out closed,
by no other queue, and once. If all of them are closed the dispatch fails and says how many it saw. A
dispatch that ends before a queue took its envelope leaves nothing behind (`Traceless`): no queue ever
takes the envelope, and neither the registry nor the table of slots shows that the dispatch was there.

Main result: `placement`.
-/

set_option autoImplicit false

namespace Switchboard

/-! ## The places in which a dispatch waits -/

namespace Queue

variable {σ : Type} [DecidableEq σ]

@[simp]
theorem leave_leave (q : Queue σ) (caller : σ) : (q.leave caller).leave caller = q.leave caller := by
  simp [leave]

@[simp]
theorem leave_join (q : Queue σ) (caller : σ) (e : Envelope) :
    (q.join caller e).leave caller = q.leave caller := by
  simp [leave, join]

theorem leave_eq_self {q : Queue σ} {caller : σ} (away : ∀ e, (caller, e) ∉ q.waiting) :
    q.leave caller = q := by
  have kept : q.waiting.filter (fun w => w.1 ≠ caller) = q.waiting := by
    refine List.filter_eq_self.2 fun w mem => ?_
    rw [decide_eq_true_eq]
    rintro rfl
    exact away w.2 mem
  rw [leave, kept]

end Queue

namespace Registry

variable {σ : Type} [DecidableEq σ]

/-- The registry without the places in which a caller waits for room. -/
def forget (r : Registry σ) (caller : σ) : Registry σ :=
  { r with queues := r.queues.map fun q => q.leave caller }

/-- What happens to a queue only because a caller waits there can be forgotten. -/
theorem forget_setQueue {r : Registry σ} {caller : σ} {queue : QueueId} {q : Queue σ}
    (same : q.leave caller = (r.queue queue).leave caller) :
    (r.setQueue queue q).forget caller = r.forget caller := by
  have queues : (r.queues.set queue q).map (fun q => q.leave caller) =
      r.queues.map fun q => q.leave caller := by
    rw [List.map_set]
    cases made : r.queues[queue]? with
    | none =>
      refine List.set_eq_of_length_le ?_
      rw [List.length_map]
      exact List.getElem?_eq_none_iff.1 made
    | some old =>
      refine Gateway.set_self_of_getElem? ?_
      rw [List.getElem?_map, made, same, Registry.queue, made]
      rfl
  simp only [forget, setQueue, queues]

theorem forget_eq_self {r : Registry σ} {caller : σ}
    (away : ∀ queue e, (caller, e) ∉ (r.queue queue).waiting) : r.forget caller = r := by
  have queues : r.queues.map (fun q => q.leave caller) = r.queues := by
    refine (List.map_congr_left fun q mem => ?_).trans (List.map_id _)
    obtain ⟨queue, made⟩ := List.mem_iff_getElem?.1 mem
    have named : r.queue queue = q := by rw [Registry.queue, made, Option.getD_some]
    exact Queue.leave_eq_self (named ▸ away queue)
  rw [forget, queues]

end Registry

namespace Gateway

/-! ## The snapshot -/

section Snapshot

variable {s : Settings} {g g' : Gateway}

/-- A change calls the registry once at most. -/
theorem call_of_change (c : Change g g') :
    g'.registry = g.registry ∨ ∃ call, g'.registry = (g.registry.call call).2 := by
  have withdraws : ∀ (id : DispatchId) (d : Dispatch), (g.withdraw id d).registry = g.registry ∨
      ∃ call, (g.withdraw id d).registry = (g.registry.call call).2 := by
    intro id d
    rcases registry_withdraw g id d with ⟨queue, left, -, eq⟩ | ⟨-, eq⟩
    · exact Or.inr ⟨.use _ _, eq⟩
    · exact Or.inl eq
  cases c with
  | enrolled e rest here greeting room => exact Or.inr ⟨.register _ _ _, rfl⟩
  | closed current here serving fresh report => exact Or.inr ⟨.deregister _ _ _, rfl⟩
  | offered origin live due pushed => exact Or.inr ⟨.use _ _, rfl⟩
  | retired here serving between notified => exact Or.inr ⟨.hear _, rfl⟩
  | took here serving reaching popped encoded =>
    exact Or.inr ⟨.use _ _, registry_letIn _ _⟩
  | skipped here serving reaching popped unwritable =>
    exact Or.inr ⟨.use _ _, registry_letIn _ _⟩
  | resolved here verdict => exact withdraws _ _
  | forsaken here live undecided => exact withdraws _ _
  | placed here placing among live pushed => exact Or.inr ⟨.use _ _, rfl⟩
  | joined here placing among others live full => exact Or.inr ⟨.use _ _, rfl⟩
  | movedOn here blocked shut => exact Or.inr ⟨.use _ _, rfl⟩
  | _ => exact Or.inl rfl

/-- In every state the registry says no more than one map of nodes to their places. -/
theorem exists_refines_of_attained (h : Attained s g) : ∃ d, g.registry.Refines d := by
  induction h with
  | refl => exact ⟨{}, Registry.refines_start s.queueCapacity⟩
  | tail _ c ih =>
    obtain ⟨d, refines⟩ := ih
    rcases call_of_change c with same | ⟨call, same⟩
    · exact ⟨d, same ▸ refines⟩
    · exact ⟨_, same ▸ (Registry.refines_call refines call).2⟩

/-- The candidates `cs` are the members of the group, each of them once and with its own queue. -/
structure Snapshot (r : Registry DispatchId) (group : String) (cs : List Candidate) : Prop where
  nodes : cs.map (·.node) = r.members group
  registered : ∀ c ∈ cs, ∃ entry, r.nodes.get? c.node = some entry ∧ entry.group = group ∧
    entry.queue = c.queue
  distinct : (cs.map (·.node)).Nodup
  queues : (cs.map (·.queue)).Nodup

theorem snapshot_of_attained (h : Attained s g) (group : String) :
    Snapshot g.registry group ((g.registry.candidates group).getD []) := by
  obtain ⟨d, refines⟩ := exists_refines_of_attained h
  cases seen : g.registry.candidates group with
  | none =>
    have nobody := (Registry.candidates_eq_none_iff refines.toCoherent group).1 seen
    have empty : g.registry.members group = [] := by
      refine List.eq_nil_iff_forall_not_mem.2 fun node mem => ?_
      obtain ⟨entry, registered, same⟩ :=
        (Registry.mem_members_iff refines.toCoherent group node).1 mem
      exact nobody node entry registered same
    exact ⟨empty.symm, by simp, by simp, by simp⟩
  | some found =>
    have registered : ∀ c ∈ found, ∃ entry, g.registry.nodes.get? c.node = some entry ∧
        entry.group = group ∧ entry.queue = c.queue := fun c mem =>
      Registry.entry_of_mem_candidates refines.toCoherent seen mem
    have nodes := refines.nodes_candidates seen
    have distinct : (found.map (·.node)).Nodup := nodes ▸ refines.nodup_members group
    refine ⟨nodes, registered, distinct, ?_⟩
    -- two candidates with one queue would be one node
    refine (List.Nodup.of_map _ distinct).map_on fun a among b among' same => ?_
    obtain ⟨p, first, -, own⟩ := registered a among
    obtain ⟨q, second, -, own'⟩ := registered b among'
    have node := refines.apart first second (by rw [own, own', same])
    cases a
    cases b
    simp_all

end Snapshot

/-! ## What a dispatch changes -/

/-- The slots and replies of others, and the registry but for the places in which the dispatch waits,
are the same as before. -/
structure Tidy (id : DispatchId) (x : Dispatch) (g g' : Gateway) : Prop where
  registry : g'.registry.forget id = g.registry.forget id
  slots : g'.replies.slots.filter (fun slot => slot.1 != x.request.correlationId) =
    g.replies.slots.filter fun slot => slot.1 != x.request.correlationId
  replies : g'.replies.replies.filter (fun reply => some reply.1 != x.claim.map (·.ticket)) =
    g.replies.replies.filter fun reply => some reply.1 != x.claim.map (·.ticket)

section Tidy

variable {s : Settings} {g g' : Gateway} {id : DispatchId} {x : Dispatch}

/-- Giving back its place in a queue changes nothing that is not the dispatch's own. -/
theorem forget_withdraw : (g.withdraw id x).registry.forget id = g.registry.forget id := by
  rcases registry_withdraw g id x with ⟨queue, left, -, eq⟩ | ⟨-, eq⟩
  · rw [eq]
    exact Registry.forget_setQueue (Queue.leave_leave _ _)
  · rw [eq]

/-- A dispatch that gives back its place in a queue leaves the slots alone. -/
theorem tidy_resolve (result : DispatchResult) : Tidy id x g (g.resolve id x result) :=
  ⟨forget_withdraw, rfl, rfl⟩

/-- Giving back its slot changes nothing that is not the dispatch's own. -/
theorem tidy_release (stamp : ∀ {c}, x.claim = some c → c.id = x.request.correlationId)
    (registry : g'.registry.forget id = g.registry.forget id)
    (replies : g'.replies = (g.release x).replies) : Tidy id x g g' where
  registry := registry
  slots := by
    cases claimed : x.claim with
    | none =>
      rw [replies, release, claimed]
    | some claim =>
      rw [replies, replies_release claimed, slots_drop, stamp claimed, List.filter_filter]
      simp only [Bool.and_self]
  replies := by
    cases claimed : x.claim with
    | none =>
      rw [replies, release, claimed]
    | some claim =>
      rw [replies, replies_release claimed, Correlation.Table.drop, List.filter_filter]
      refine List.filter_congr fun reply _ => ?_
      have same : (some reply.1 != some claim.ticket) = (reply.1 != claim.ticket) := rfl
      rw [Option.map_some, same, Bool.and_self]

/-- A dispatch that takes a move changes nothing but what is its own, unless a queue takes its
envelope. -/
theorem tidy_of_turn (stamp : ∀ {c}, x.claim = some c → c.id = x.request.correlationId) {m : Move}
    (turn : Turn g id x m g')
    (unplaced : acceptances id g'.journal = acceptances id g.journal) : Tidy id x g g' := by
  cases turn with
  | passed placing chosen shut => exact ⟨rfl, rfl, rfl⟩
  | placed placing chosen live pushed =>
    have placed := unplaced.symm.trans (acceptances_queued id _ x.request g.journal)
    exact absurd (congrArg List.length placed) (by simp)
  | joined placing chosen live full =>
    exact ⟨Registry.forget_setQueue (Queue.leave_join _ _ _), rfl, rfl⟩
  | movedOn blocked shut => exact ⟨Registry.forget_setQueue (Queue.leave_leave _ _), rfl, rfl⟩
  | exhausted placing => exact tidy_resolve _
  | replied awaiting seen => exact tidy_resolve _
  | abandoned awaiting seen => exact tidy_resolve _
  | lapsed waits due => exact tidy_resolve _
  | concluded certain => exact tidy_release stamp rfl rfl

/-- What a dispatch does, its caller going away included, changes nothing but what is its own, unless
a queue takes its envelope. -/
theorem tidy_of_act (attained : Attained s g) (here : g.dispatches[id]? = some x) {a : Action}
    (own : a.dispatch? = some id) (h : g.act? a = some g')
    (unplaced : acceptances id g'.journal = acceptances id g.journal) : Tidy id x g g' := by
  have stamp : ∀ {c}, x.claim = some c → c.id = x.request.correlationId :=
    ((posted_of_attained attained).known here).stamp
  cases a with
  | move m =>
    obtain ⟨d, there, turn⟩ := turn_of_move own h
    obtain rfl := Option.some.inj (there.symm.trans here)
    exact tidy_of_turn stamp turn unplaced
  | input i =>
    obtain rfl := Option.some.inj h
    cases i with
    | cancel other =>
      obtain rfl := Option.some.inj own
      rw [input]
      split
      · exact ⟨rfl, rfl, rfl⟩
      · rw [cancel, here, Option.bind_eq_bind, Option.bind_some]
        split
        · exact ⟨rfl, rfl, rfl⟩
        · exact tidy_release stamp forget_withdraw rfl
    | _ => exact absurd own (by simp [Action.dispatch?])

theorem registry_dispatch (g : Gateway) (group : String) (e : Envelope) (timeout : Nat) :
    (g.dispatch group e timeout).registry = g.registry := by
  have starts := starts_dispatch g group e timeout
  generalize g.dispatch group e timeout = g' at starts ⊢
  cases starts <;> rfl

/-- A dispatch opens its slot when it starts, unless its id is taken. -/
theorem table_of_opening {group : String} {request : Envelope}
    {claim : Option Correlation.Claim} {progress : Progress} {replies : Correlation.Table}
    (opening : Opening g group request claim progress replies) :
    replies.replies = g.replies.replies ∧
      ((∃ c, progress.result? = some (.error (.collision c))) →
        replies.slots = g.replies.slots) ∧
      ((∀ c, progress.result? ≠ some (.error (.collision c))) →
        replies.slots = g.replies.slots ++ [(request.correlationId, g.replies.nextTicket)]) := by
  have opens : ∀ {claim : Correlation.Claim} {replies : Correlation.Table},
      g.replies.open? request.correlationId = some (claim, replies) →
      replies.replies = g.replies.replies ∧
        replies.slots = g.replies.slots ++ [(request.correlationId, g.replies.nextTicket)] := by
    intro claim replies opened
    obtain ⟨-, -, -, rfl⟩ := Correlation.Table.open?_eq_some opened
    exact ⟨rfl, rfl⟩
  -- only a dispatch whose id was taken fails with a collision
  have told : ∀ {cause : DispatchError}, (∀ c, cause ≠ .collision c) →
      ¬ ∃ c, (Progress.resolved (.error cause)).result? = some (.error (.collision c)) := by
    rintro cause other ⟨c, same⟩
    exact other c (Except.error.inj (Option.some.inj same))
  cases opening with
  | collided taken => exact ⟨rfl, fun _ => rfl, fun other => absurd rfl (other _)⟩
  | tooLarge opened large =>
    obtain ⟨replies, slots⟩ := opens opened
    exact ⟨replies, fun taken => absurd taken (told (by simp)), fun _ => slots⟩
  | groupNotFound opened fits nobody =>
    obtain ⟨replies, slots⟩ := opens opened
    exact ⟨replies, fun taken => absurd taken (told (by simp)), fun _ => slots⟩
  | placing opened fits seen =>
    obtain ⟨replies, slots⟩ := opens opened
    exact ⟨replies, fun taken => absurd taken (by simp [Progress.result?]), fun _ => slots⟩

end Tidy

/-! ## What a dispatch leaves behind -/

section Over

variable {s : Settings} {g g' : Gateway} {id : DispatchId} {x : Dispatch}
  {claim : Correlation.Claim}

/-- No frame is handed to a dispatch that is over. -/
theorem Posted.unheard_of_over (p : Posted g) (here : g.dispatches[id]? = some x)
    (stopped : x.progress.isOpen = false) (claimed : x.claim = some claim) (c : CorrelationId) :
    g.replies.waiter? c ≠ some claim.ticket := by
  intro waits
  rw [p.slots, Option.bind_eq_some_iff] at waits
  obtain ⟨other, slot, named⟩ := waits
  obtain ⟨claim', claimed', ticket⟩ := Option.map_eq_some_iff.1 named
  -- tickets tell dispatches apart, and one that has a slot is open
  obtain rfl := p.apart claimed' ((claim?_of_here here).trans claimed) ticket
  obtain ⟨-, y, there, live, -⟩ := p.holds slot
  obtain rfl := Option.some.inj (there.symm.trans here)
  exact absurd (stopped.symm.trans live) (by simp)

theorem lookup_release (d : Dispatch) {ticket : Correlation.Ticket}
    (nothing : g.replies.replies.lookup ticket = none) :
    (g.release d).replies.replies.lookup ticket = none := by
  cases claimed : d.claim with
  | none =>
    simp only [release, claimed]
    exact nothing
  | some claim => rw [replies_release claimed, Correlation.Table.lookup_drop, nothing, ite_self]

/-- No reply comes to lie there for a dispatch that is over. -/
theorem lookup_of_change (posted : Posted g) (c : Change g g') (here : g.dispatches[id]? = some x)
    (stopped : x.progress.isOpen = false) (claimed : x.claim = some claim)
    (nothing : g.replies.replies.lookup claim.ticket = none) :
    g'.replies.replies.lookup claim.ticket = none := by
  have lets : ∀ (h : Gateway) (waiting : Option DispatchId) (queue : QueueId),
      (h.letIn waiting queue).replies = h.replies := by
    intro h waiting queue
    rcases letIn_cases h waiting queue with ⟨eq, -⟩ | ⟨caller, d, -, -, eq⟩ <;> rw [eq]
  cases c with
  | answered there serving read plain handed =>
    obtain ⟨-, waits, -⟩ := Correlation.Table.deliver_eq_delivered handed
    rw [Correlation.Table.lookup_deliver handed, nothing, Option.none_or, if_neg]
    rintro rfl
    exact posted.unheard_of_over here stopped claimed _ waits
  | begun group e timeout opened seen fits =>
    obtain ⟨-, -, -, rfl⟩ := Correlation.Table.open?_eq_some opened
    exact nothing
  | concluded there certain => exact lookup_release _ nothing
  | forsaken there live undecided => exact lookup_release _ nothing
  | took there serving reaching popped encoded =>
    rw [lets]
    exact nothing
  | skipped there serving reaching popped unwritable =>
    show (Gateway.replies (letIn _ _ _)).replies.lookup _ = _
    rw [lets]
    exact nothing
  | _ => exact nothing

theorem lookup_of_changes (attained : Attained s g) (run : Changes g g')
    (here : g.dispatches[id]? = some x) (stopped : x.progress.isOpen = false)
    (claimed : x.claim = some claim) (nothing : g.replies.replies.lookup claim.ticket = none) :
    g'.dispatches[id]? = some x ∧ g'.replies.replies.lookup claim.ticket = none := by
  induction run with
  | refl => exact ⟨here, nothing⟩
  | tail before c ih =>
    have there := attained.trans before
    exact ⟨over_of_change (ledger_of_attained there) c ih.1 stopped,
      lookup_of_change (posted_of_attained there) c ih.1 stopped claimed ih.2⟩

/-- An action leaves no reply lying there for a dispatch that is over. -/
theorem lookup_of_act (attained : Attained s g) {a : Action} (h : g.act? a = some g')
    (before : ∀ {y : Dispatch}, g.dispatches[id]? = some y → y.progress.isOpen = false →
      y.claim = some claim → g.replies.replies.lookup claim.ticket = none)
    (here : g'.dispatches[id]? = some x) (stopped : x.progress.isOpen = false)
    (claimed : x.claim = some claim) : g'.replies.replies.lookup claim.ticket = none := by
  cases ended_of_act h here stopped with
  | before there =>
    exact (lookup_of_changes attained (changes_of_act h) there stopped claimed
      (before there stopped claimed)).2
  | @now y progress there live same how replies =>
    subst same
    have mine : y.claim = some claim := claimed
    rw [replies, replies_release mine, Correlation.Table.lookup_drop, if_pos rfl]

theorem lookup_of_over (h : Reachable s g) (here : g.dispatches[id]? = some x)
    (stopped : x.progress.isOpen = false) (claimed : x.claim = some claim) :
    g.replies.replies.lookup claim.ticket = none := by
  induction h using Reachable.act_induction generalizing x with
  | start => exact absurd here (by simp [start])
  | step before after act ih =>
    exact lookup_of_act (attained_of_reachable before) act ih here stopped claimed

end Over

/-- A dispatch has left nothing behind. -/
structure Traceless (g : Gateway) (id : DispatchId) (x : Dispatch) : Prop where
  /-- No queue took its envelope. -/
  unaccepted : acceptances id g.journal = []
  /-- It waits for room in none. -/
  unlisted : g.registry.forget id = g.registry
  /-- No envelope on a queue has its correlation id, as long as there are ids left. -/
  unqueued : g.dispatches.length < 2 ^ 48 → ∀ queue, ∀ e ∈ (g.registry.queue queue).frames,
    e.correlationId ≠ x.request.correlationId
  /-- No slot is open under its correlation id, as long as there are ids left. -/
  unslotted : g.dispatches.length < 2 ^ 48 → ∀ slot ∈ g.replies.slots,
    slot.1 ≠ x.request.correlationId
  /-- No frame is handed to it. -/
  unheard : ∀ {claim}, x.claim = some claim → ∀ c, g.replies.waiter? c ≠ some claim.ticket
  /-- No reply lies there for it. -/
  unanswered : ∀ {claim}, x.claim = some claim → g.replies.replies.lookup claim.ticket = none

/-- A dispatch does not wait any more, its envelope is on no queue, and once it is over it has left
nothing behind. -/
structure Departing (g : Gateway) (id : DispatchId) : Prop where
  unaccepted : acceptances id g.journal = []
  settled : ∃ x, g.dispatches[id]? = some x ∧ x.progress.isSettled = true
  traceless : ∀ {x}, g.dispatches[id]? = some x → x.progress.isOpen = false → Traceless g id x

section Traceless

variable {s : Settings} {g later : Gateway} {id : DispatchId} {x : Dispatch}

theorem mem_acceptances_of_enqueued {queue : QueueId} {e : Envelope} {journal : List Event}
    (mem : (e, .dispatch id) ∈ enqueued queue journal) :
    (queue, e) ∈ acceptances id journal := by
  induction journal with
  | nil => exact absurd mem (by simp [enqueued])
  | cons event before ih =>
    have old : (e, .dispatch id) ∈ enqueued queue before →
        (queue, e) ∈ acceptances id (event :: before) := by
      intro mem
      obtain ⟨told, there, same⟩ := List.mem_filterMap.1 (ih mem)
      exact List.mem_filterMap.2 ⟨told, List.mem_cons_of_mem _ there, same⟩
    cases event with
    | queued queue' e' origin =>
      rw [enqueued] at mem
      split at mem
      · rename_i same
        subst same
        rcases List.mem_append.1 mem with earlier | latest
        · exact old earlier
        · obtain ⟨rfl, rfl⟩ := Prod.mk.inj (List.mem_singleton.1 latest)
          rw [acceptances_queued]
          exact List.mem_cons_self
      · exact old mem
    | _ => exact old mem

/-- An envelope that is on a queue under the id of a dispatch was put there by it. -/
theorem mem_acceptances_of_frame (attained : Attained s g) (few : g.dispatches.length < 2 ^ 48)
    (here : g.dispatches[id]? = some x) {queue : QueueId} {e : Envelope}
    (mem : e ∈ (g.registry.queue queue).frames)
    (named : e.correlationId = x.request.correlationId) :
    (queue, e) ∈ acceptances id g.journal := by
  have listed : e ∈ (enqueued queue g.journal).map (·.1) := by
    rw [(ledger_of_attained attained).balance]
    exact List.mem_append_right _ mem
  obtain ⟨⟨frame, origin⟩, accepted, rfl⟩ := List.mem_map.1 listed
  rcases enqueued_cases attained accepted with ⟨⟨other, rfl⟩, -⟩ | ⟨-, rfl⟩
  · obtain ⟨y, there, rfl, -⟩ := (routed_of_attained attained).queued accepted
    obtain rfl := correlationId_inj attained few there here named
    exact mem_acceptances_of_enqueued accepted
  · -- a keepalive has no id, and a dispatch has one
    obtain ⟨lt, -⟩ := List.getElem?_eq_some_iff.1 here
    rw [(issued_of_attained attained few).stamped here] at named
    exact absurd named.symm (Correlation.IdSource.nth_ne_noReply _ (by omega))

/-- A dispatch that is over and whose envelope no queue took has left nothing behind. -/
theorem traceless_of_over (h : Reachable s g) (here : g.dispatches[id]? = some x)
    (stopped : x.progress.isOpen = false) (unaccepted : acceptances id g.journal = []) :
    Traceless g id x := by
  have attained := attained_of_reachable h
  refine ⟨unaccepted, ?unlisted, ?unqueued, ?unslotted, ?unheard, ?unanswered⟩
  case unlisted =>
    refine Registry.forget_eq_self fun queue e mem => ?_
    obtain ⟨-, left, blocked⟩ := (ledger_of_attained attained).blocked_of_waiting mem here
    rw [blocked] at stopped
    exact absurd stopped (by simp [Progress.isOpen])
  case unqueued =>
    intro few queue e mem named
    have accepted := mem_acceptances_of_frame attained few here mem named
    rw [unaccepted] at accepted
    exact absurd accepted (by simp)
  case unslotted =>
    intro few slot mem named
    obtain ⟨other, y, there, same, live, -⟩ :=
      (mem_slots_iff attained few slot.1).1 (List.mem_map_of_mem mem)
    obtain rfl := correlationId_inj attained few there here (same.trans named)
    obtain rfl := Option.some.inj (there.symm.trans here)
    exact absurd (stopped.symm.trans live) (by simp)
  case unheard =>
    exact fun claimed => (posted_of_attained attained).unheard_of_over here stopped claimed
  case unanswered => exact fun claimed => lookup_of_over h here stopped claimed

/-- An action after which a dispatch does not wait any more puts its envelope on no queue. -/
theorem acceptances_of_settled (l : Ledger g) (here : g.dispatches[id]? = some x) {a : Action}
    (step : g.act? a = some later) {y : Dispatch} (after : later.dispatches[id]? = some y)
    (settled : y.progress.isSettled = true) :
    acceptances id later.journal = acceptances id g.journal := by
  obtain ⟨lt, -⟩ := List.getElem?_eq_some_iff.1 here
  cases bearing_of_act l here step with
  | turned turn =>
    cases turn with
    | placed placing chosen live pushed =>
      -- it waits for its reply then
      have awaiting := Option.some.inj (after.symm.trans (List.getElem?_set_self lt))
      rw [awaiting] at settled
      exact absurd settled (by simp [Progress.isSettled])
    | _ => rfl
  | forsaken undecided => rfl
  | served foreign blocked awaiting accepted =>
    obtain rfl := Option.some.inj (after.symm.trans awaiting)
    exact absurd settled (by simp [Progress.isSettled])
  | apart foreign apart => exact apart.acceptances

/-- No queue takes the envelope of a dispatch that does not wait any more. -/
theorem acceptances_of_leads (h : Reachable s g) (run : Leads g later)
    (here : g.dispatches[id]? = some x) (settled : x.progress.isSettled = true) :
    acceptances id later.journal = acceptances id g.journal := by
  induction run with
  | refl => rfl
  | @tail last later before step ih =>
    have reached := reachable_of_leads h before
    obtain ⟨y, there, -⟩ := settled_of_leads h before here settled
    obtain ⟨z, after, settled'⟩ := settled_of_leads h (before.tail step) here settled
    obtain ⟨a, act⟩ := step
    have ledger := ledger_of_attained (attained_of_reachable reached)
    exact (acceptances_of_settled ledger there act after settled').trans ih

/-- A dispatch that does not wait any more and whose envelope no queue took never leaves anything
behind. -/
theorem departing_of_leads (h : Reachable s g) (here : g.dispatches[id]? = some x)
    (settled : x.progress.isSettled = true) (unaccepted : acceptances id g.journal = [])
    (run : Leads g later) : Departing later id := by
  have none := (acceptances_of_leads h run here settled).trans unaccepted
  refine ⟨none, settled_of_leads h run here settled, fun there stopped => ?_⟩
  exact traceless_of_over (reachable_of_leads h run) there stopped none

end Traceless

/-! ## Placement -/

/-- What is true of a dispatch that began in `g` and saw the candidates `cs`, when these actions have
happened since. -/
structure Placement (g : Gateway) (group : String) (cs : List Candidate) (begun : Gateway)
    (actions : List Action) (later : Gateway) (id : DispatchId) (x : Dispatch) : Prop where
  /-- The candidates are the members that the group had. -/
  snapshot : Snapshot g.registry group cs
  /-- It tries every candidate once at most. -/
  once : ∃ left, (tried id begun actions ++ left).Perm cs
  /-- One queue takes its envelope at most, and once: that of the first candidate whose queue did not
  turn out closed. -/
  accepted : acceptances id later.journal = [] ∨
    ∃ before c, tried id begun actions = before ++ [c] ∧
      refusals id begun actions = before.map (·.queue) ∧
      acceptances id later.journal = [(c.queue, x.request)]
  /-- Its result is that it failed for want of a queue exactly if the queue of every candidate turned
  out closed. -/
  failed : (∃ named n, x.progress.result? = some (.error (.dispatchFailed named n))) ↔
    cs ≠ [] ∧ (refusals id begun actions).Perm (cs.map (·.queue)) ∧
      ∃ result, x.progress.result? = some result
  attempts : ∀ {named n}, x.progress.result? = some (.error (.dispatchFailed named n)) →
    named = group ∧ n = cs.length
  /-- If it fails, but not for want of time, it leaves nothing behind. -/
  traceless : ∀ {cause}, x.progress.result? = some (.error cause) → (∀ d, cause ≠ .timeout d) →
    ∀ {last}, Leads later last → Departing last id
  /-- If its result becomes certain while it looks or waits for room, or its caller goes away then, it
  leaves nothing behind. -/
  outwaited : x.progress.isPlacing = true → ∀ {a after y}, later.act? a = some after →
    after.dispatches[id]? = some y → y.progress.isSettled = true →
    ∀ {last}, Leads after last → Departing last id
  /-- Its start leaves the registry and the replies as they are, and opens its slot unless its id is
  taken. -/
  start : begun.registry = g.registry ∧ begun.replies.replies = g.replies.replies ∧
    ((∃ c, x.progress.result? = some (.error (.collision c))) →
      begun.replies.slots = g.replies.slots) ∧
    ((∀ c, x.progress.result? ≠ some (.error (.collision c))) →
      ∃ ticket, begun.replies.slots = g.replies.slots ++ [(x.request.correlationId, ticket)])
  /-- What it does later changes nothing but what is its own, unless a queue takes its envelope. -/
  tidy : ∀ {a after}, a.dispatch? = some id → later.act? a = some after →
    acceptances id after.journal = acceptances id later.journal → Tidy id x later after

section Begins

variable {s : Settings} {g : Gateway} {group : String} {request : Envelope}
  {claim : Option Correlation.Claim} {progress : Progress} {replies : Correlation.Table}

/-- A dispatch fails when it starts, or has candidates to try then. -/
theorem Opening.prompt_or_placing (opening : Opening g group request claim progress replies) :
    (∃ cause, progress.result? = some (.error cause) ∧ cause.isPrompt = true) ∨
      ∃ left, progress = .placing left ∧ g.registry.candidates group = some left := by
  cases opening with
  | collided taken => exact Or.inl ⟨_, rfl, rfl⟩
  | tooLarge opened large => exact Or.inl ⟨_, rfl, rfl⟩
  | groupNotFound opened fits nobody => exact Or.inl ⟨_, rfl, rfl⟩
  | placing opened fits seen => exact Or.inr ⟨_, rfl, seen⟩

/-- A dispatch that starts has tried nobody. -/
theorem Opening.course (opening : Opening g group request claim progress replies) (n : Nat) :
    Course ((g.registry.candidates group).getD []) group n request progress [] [] [] := by
  rcases opening.prompt_or_placing with ⟨cause, failed, shows⟩ | ⟨left, rfl, seen⟩
  · exact .prompt failed shows
  · rw [seen]
    exact .searching (List.Perm.refl _)

/-- No queue has the envelope of a dispatch that has not started. -/
theorem acceptances_of_unknown (attained : Attained s g) {id : DispatchId}
    (unknown : g.dispatches[id]? = none) : acceptances id g.journal = [] := by
  refine List.filterMap_eq_nil_iff.2 fun event mem => ?_
  have never := ((posted_of_attained attained).unknown unknown).2
  cases event with
  | queued queue e origin =>
    cases origin with
    | dispatch other =>
      refine if_neg ?_
      rintro rfl
      exact never ⟨queue, e, mem⟩
    | _ => rfl
  | _ => rfl

theorem acceptances_started {s : Settings} (h : Reachable s g) (group : String) (e : Envelope)
    (timeout : Nat) :
    acceptances g.dispatches.length (g.input (.dispatch group e timeout)).journal = [] :=
  (acceptances_dispatch g group e timeout).trans
    (acceptances_of_unknown (attained_of_reachable h) (List.getElem?_eq_none (Nat.le_refl _)))

end Begins

/-- A dispatch sees the members of its group once and tries each of them once at most, in any order,
whatever happens to their queues meanwhile. Its envelope, which has got a correlation id and is
unchanged otherwise, is taken by one queue at most, and once: that of the first member whose queue does
not turn out closed. The dispatch fails for want of a queue exactly if all of them turn out closed, and
tells how many it saw. If it fails so, or when it starts, or ends while it waits for room, its envelope
never is on a queue, and it changes nothing in the registry and nothing in the table of slots but its
own slot, which is gone in the end. -/
theorem placement {s : Settings} {g : Gateway} (h : Reachable s g) (group : String) (e : Envelope)
    (timeout : Nat) (actions : List Action) :
    ∃ x : Dispatch,
      (actions.foldl perform (g.input (.dispatch group e timeout))).dispatches[
        g.dispatches.length]? = some x ∧
      x.group = group ∧ x.request = e.stamped g.ids.next.1 ∧
      Placement g group ((g.registry.candidates group).getD [])
        (g.input (.dispatch group e timeout)) actions
        (actions.foldl perform (g.input (.dispatch group e timeout))) g.dispatches.length x := by
  obtain ⟨claim, attempts, progress, started, opening, -, counts⟩ :=
    exists_started g group e timeout
  have attained := attained_of_reachable h
  have reached : Reachable s (g.input (.dispatch group e timeout)) := .input _ h
  have first : Course ((g.registry.candidates group).getD []) group attempts (e.stamped g.ids.next.1)
      progress [] [] (acceptances g.dispatches.length (g.input (.dispatch group e timeout)).journal) :=
    acceptances_started h group e timeout ▸ opening.course attempts
  obtain ⟨progress', here, course⟩ := course_of_run actions reached started first
  rw [List.nil_append, List.nil_append] at course
  have run : Leads (g.input (.dispatch group e timeout))
      (actions.foldl perform (g.input (.dispatch group e timeout))) := leads_foldl_perform actions
  have later := reachable_of_leads reached run
  -- what fails at the start has failed for good, and nothing else ever fails for these causes
  have stays : ∀ {result}, progress.result? = some result → progress'.result? = some result := by
    intro result certain
    obtain ⟨x, there, certain'⟩ := certain_of_leads reached run started certain
    obtain rfl := Option.some.inj (here.symm.trans there)
    exact certain'
  have first' : ∀ {cause}, progress'.result? = some (.error cause) → cause.isPrompt = true →
      progress.result? = some (.error cause) := fun failed shows =>
    prompt_of_leads run started here failed shows
  obtain ⟨replies, collided, opened⟩ := table_of_opening opening
  refine ⟨_, here, rfl, rfl, ?_⟩
  constructor
  case snapshot => exact snapshot_of_attained attained group
  case once => exact course.exists_left
  case accepted => exact course.taken_cases
  case failed =>
    refine course.failed_iff fun empty => ?_
    rcases opening.prompt_or_placing with ⟨cause, failed, shows⟩ | ⟨left, -, seen⟩
    · exact ⟨cause, stays failed, shows⟩
    · rw [seen] at empty
      exact absurd empty (Registry.candidates_ne_nil seen)
  case attempts =>
    intro named n failed
    obtain ⟨rfl, rfl⟩ := course.failed_eq failed
    refine ⟨rfl, ?_⟩
    rcases opening.prompt_or_placing with ⟨cause, failed', shows⟩ | ⟨left, placing, seen⟩
    · obtain rfl := Except.error.inj (Option.some.inj (failed.symm.trans (stays failed')))
      exact absurd shows (by simp [DispatchError.isPrompt])
    · rw [seen]
      exact counts left placing
  case traceless =>
    intro cause failed timely last leads
    have none := course.taken_eq_nil (Or.inr ⟨cause, failed, timely⟩)
    exact departing_of_leads later here (Progress.isSettled_of_certain failed) none leads
  case outwaited =>
    intro placing a after y step there settled last leads
    have none := course.taken_eq_nil (Or.inl placing)
    have ledger := ledger_of_attained (attained_of_reachable later)
    exact departing_of_leads (reachable_of_act? later step) there settled
      ((acceptances_of_settled ledger here step there settled).trans none) leads
  case start =>
    refine ⟨registry_dispatch g group e timeout, replies, ?_, fun free => ⟨_, opened ?_⟩⟩
    · rintro ⟨c, taken⟩
      exact collided ⟨c, first' taken rfl⟩
    · exact fun c taken => free c (stays taken)
  case tidy =>
    exact fun own step unplaced => tidy_of_act (attained_of_reachable later) here own step unplaced

/-- A dispatch to the silent node has just begun. -/
def refusedStart : Gateway :=
  silentStart.input (.dispatch "default_group" { command := .getItem } 1000)

/-- The session of the node that it saw is told to end before the dispatch turns to the node. -/
def refusedRun : List Action :=
  reported (.dispatch 0) ++
    [.input .stopSessions, .move (.halt 0), .move (.place 0 0), .move (.exhaust 0)] ++ returned 0

/-- The one candidate refuses, the dispatch fails after one attempt and leaves nothing behind. -/
theorem placement_refusedRun :
    Reachable sample silentStart ∧
      ∃ x : Dispatch, (refusedRun.foldl perform refusedStart).dispatches[0]? = some x ∧
        x.progress = .done (.error (.dispatchFailed "default_group" 1)) ∧
        refusals 0 refusedStart refusedRun = [0] ∧
        Traceless (refusedRun.foldl perform refusedStart) 0 x := by
  have reached : Reachable sample silentStart := reachable_play _ _
  have first : silentStart.dispatches.length = 0 := by decide +kernel
  have seen : (silentStart.registry.candidates "default_group").getD [] =
      [⟨"default_node", 0⟩] := by
    decide +kernel
  have refused : refusals 0 refusedStart refusedRun = [0] := by decide +kernel
  have ended : ((refusedRun.foldl perform refusedStart).dispatches[0]?).map (fun x =>
      match x.progress with
      | .done _ => true
      | .placing _ | .blocked _ _ | .awaiting | .resolved _ | .cancelled => false) = some true := by
    decide +kernel
  obtain ⟨x, here, -, -, laws⟩ := placement reached "default_group" { command := .getItem } 1000
    refusedRun
  rw [first] at here
  rw [first, seen] at laws
  rw [show (refusedRun.foldl perform refusedStart).dispatches[0]? = some x from here,
    Option.map_some] at ended
  have done : ∃ result, x.progress = .done result := by
    cases progress : x.progress with
    | done result => exact ⟨result, rfl⟩
    | _ => exact absurd ended (by simp [progress])
  have all : (refusals 0 refusedStart refusedRun).Perm [0] := by rw [refused]
  obtain ⟨result, done⟩ := done
  have certain : x.progress.result? = some result := by rw [done]; rfl
  obtain ⟨named, n, failed⟩ := laws.failed.2 ⟨by simp, all, result, certain⟩
  obtain ⟨rfl, rfl⟩ := laws.attempts failed
  obtain rfl := Option.some.inj (certain.symm.trans failed)
  have departing := laws.traceless failed (by simp) .refl
  exact ⟨reached, x, here, done, refused, departing.traceless here (by rw [done]; rfl)⟩

end Gateway

end Switchboard
