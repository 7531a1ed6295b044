import Switchboard.Proofs.Abandonment
import Switchboard.Proofs.Deadline
import Switchboard.Proofs.Routing
import Switchboard.Proofs.Stall

/-!
# Dispatches that wait for a queue nobody drains

A dispatch that waits for room leaves its queue only when the queue is closed, and a queue is open as
long as any session that registered on it goes on. If the session that registered last on it ends
before an older one, then nobody drains the queue, and it is open (`Stranded`). In a quiescent gateway
this is the only way in which a dispatch waits for a queue that belongs to no registered node and to no
session in its own right (`registered_or_drained_iff`), and it happens
(`exists_blocked_on_stranded`). The dispatch then waits until it times out, its caller goes away, or
the older sessions end.
-/

set_option autoImplicit false

namespace Switchboard.Gateway

/-- A registered node has the queue. -/
def Registered (g : Gateway) (queue : QueueId) : Prop :=
  ∃ node entry, g.registry.nodes.get? node = some entry ∧ entry.queue = queue

/-- A session that registered on the queue goes on, and nobody registered on it afterwards. -/
def Drained (g : Gateway) (queue : QueueId) : Prop :=
  ∃ id first service, tenant? queue g.journal = some (id, first) ∧ g.service? id = some service

/-- The session that registered last on the queue is gone, and an older one goes on. -/
structure Stranded (g : Gateway) (queue : QueueId) : Prop where
  headless : ∃ id first, tenant? queue g.journal = some (id, first) ∧ g.service? id = none
  kept : ∃ id service, g.service? id = some service ∧ service.queue = queue

/-- No sender reaches for the queue. -/
def Unreached (g : Gateway) (queue : QueueId) : Prop :=
  ∀ {id service}, g.service? id = some service → service.queue = queue →
    service.sender ≠ .reaching

section Stranded

variable {s : Settings} {g g' later : Gateway} {queue : QueueId}

/-- A queue of a registered node is drained: the connection that owns the node registered last. -/
theorem Tenancy.drained_of_registered (t : Tenancy g) (registered : Registered g queue) :
    Drained g queue := by
  obtain ⟨node, entry, listed, rfl⟩ := registered
  obtain ⟨id, service, first, serves, -, -, -, latest⟩ := t.owned listed
  exact ⟨id, first, service, latest, serves⟩

theorem Stranded.not_drained (stranded : Stranded g queue) : ¬ Drained g queue := by
  rintro ⟨id, first, service, latest, serves⟩
  obtain ⟨id', first', latest', gone⟩ := stranded.headless
  obtain ⟨rfl, -⟩ := Prod.mk.inj (Option.some.inj (latest.symm.trans latest'))
  exact absurd (serves.symm.trans gone) (by simp)

/-- An open queue is drained, unless it is stranded. -/
theorem Tenancy.drained_or_stranded (t : Tenancy g) (opened : g.isOpen queue = true) :
    Drained g queue ∨ Stranded g queue := by
  rcases (isOpen_eq_true_iff t.coherent queue).1 opened with registered | ⟨id, service, serves, mine⟩
  · exact Or.inl (t.drained_of_registered registered)
  · obtain ⟨tenant, first, latest, -⟩ := t.seated serves
    rw [mine] at latest
    cases gone : g.service? tenant with
    | none => exact Or.inr ⟨⟨tenant, first, latest, gone⟩, id, service, serves, mine⟩
    | some theirs => exact Or.inl ⟨tenant, first, theirs, latest, gone⟩

theorem Stranded.abandoned (stranded : Stranded g queue) (t : Tenancy g) : Abandoned g queue := by
  obtain ⟨id, service, serves, mine⟩ := stranded.kept
  refine .of_entries t ?_ fun {node entry} listed same => ?_
  · rw [← mine]
    exact t.queueMade serves
  · exact stranded.not_drained (t.drained_of_registered ⟨node, entry, listed, same⟩)

/-- Nobody starts to reach for a stranded queue: a sender that looks was superseded. -/
theorem Stranded.unreached (stranded : Stranded g queue) (attained : Attained s g)
    (unreached : Unreached g queue) (run : Changes g g') : Unreached g' queue := by
  have a := stranded.abandoned (tenancy_of_attained attained)
  obtain ⟨id, first, latest, gone⟩ := stranded.headless
  obtain ⟨-, tenants, -⟩ := abandoned_of_changes attained a run
  have listed := registered_of_tenant g.journal latest
  intro other service serves mine reaching
  rcases reaching_of_changes run serves reaching with
    ⟨before, serves', same, reaching'⟩ | ⟨earlier, look, since⟩
  · exact unreached serves' (same.trans mine) reaching'
  · -- whoever looks is the one that registered last, and that one is gone
    obtain ⟨earlier', first', look', tenant, -⟩ :=
      poised_of_attained (attained.trans run) other service serves reaching
    obtain rfl := Option.some.inj (look.symm.trans look')
    have seen : earlier <:+ g'.journal := (List.suffix_cons _ _).trans (suffix_of_lastLook? look)
    have still := tenant_of_later (attained.trans run) List.suffix_rfl (tenants.trans latest) seen
      (since.subset listed)
    rw [mine] at tenant
    obtain ⟨rfl, -⟩ := Prod.mk.inj (Option.some.inj (tenant.symm.trans still))
    exact absurd (serves.symm.trans (gone_of_changes attained listed gone run)) (by simp)

/-- A stranded queue stays stranded as long as it is open, and nothing is taken from it. -/
theorem Stranded.of_changes (stranded : Stranded g queue) (attained : Attained s g)
    (unreached : Unreached g queue) (run : Changes g g') (opened : g'.isOpen queue = true) :
    Stranded g' queue ∧ dequeued queue g'.journal = dequeued queue g.journal := by
  have a := stranded.abandoned (tenancy_of_attained attained)
  obtain ⟨id, first, latest, gone⟩ := stranded.headless
  obtain ⟨a', tenants, -⟩ := abandoned_of_changes attained a run
  obtain ⟨news, all, takers⟩ := dequeued_of_abandoned attained a run latest
  have still := gone_of_changes attained (registered_of_tenant g.journal latest) gone run
  have none : news = [] := by
    cases news with
    | nil => rfl
    | cons taken rest =>
      obtain ⟨service, serves, mine, rfl | ⟨-, reaching⟩⟩ := takers (i := 0) rfl
      · exact absurd (serves.symm.trans gone) (by simp)
      · exact absurd reaching (unreached serves mine)
  rw [none, List.append_nil] at all
  refine ⟨⟨⟨id, first, tenants.trans latest, still⟩, ?_⟩, all⟩
  -- no registered node has the queue, so it is a session that keeps it open
  have t' := tenancy_of_attained (attained.trans run)
  rcases (isOpen_eq_true_iff t'.coherent queue).1 opened with ⟨node, entry, listed, same⟩ | serves
  · exact absurd same (a'.queue_ne t' listed)
  · exact serves

/-- Whoever waits for a stranded queue goes on waiting for it until it has a result or is cancelled. -/
theorem blocked_of_change (stranded : Stranded g queue) (attained : Attained s g)
    (unreached : Unreached g queue) (opened : g.isOpen queue = true) (c : Change g g')
    {id : DispatchId} {d : Dispatch} {left : List Candidate} (here : g.dispatches[id]? = some d)
    (blocked : d.progress = .blocked queue left) :
    ∃ d', g'.dispatches[id]? = some d' ∧
      (d'.progress = .blocked queue left ∨ d'.progress.isSettled = true) := by
  have keeps : g'.dispatches = g.dispatches →
      ∃ d', g'.dispatches[id]? = some d' ∧
        (d'.progress = .blocked queue left ∨ d'.progress.isSettled = true) := by
    intro same
    exact ⟨d, by rw [same, here], Or.inl blocked⟩
  have sets : ∀ {other : DispatchId} {old : Dispatch} {progress : Progress},
      g'.dispatches = g.dispatches.set other { old with progress } →
      (other = id → old = d → progress.isSettled = true) →
      g.dispatches[other]? = some old →
      ∃ d', g'.dispatches[id]? = some d' ∧
        (d'.progress = .blocked queue left ∨ d'.progress.isSettled = true) := by
    intro other old progress after stopped there
    obtain ⟨lt, -⟩ := List.getElem?_eq_some_iff.1 there
    rw [after, List.getElem?_set]
    by_cases same : other = id
    · subst same
      obtain rfl := Option.some.inj (there.symm.trans here)
      rw [if_pos rfl, if_pos lt]
      exact ⟨_, rfl, Or.inr (stopped rfl rfl)⟩
    · rw [if_neg same]
      exact ⟨d, here, Or.inl blocked⟩
  have stays : ∀ {x : Dispatch}, g'.dispatches = g.dispatches ++ [x] →
      ∃ d', g'.dispatches[id]? = some d' ∧
        (d'.progress = .blocked queue left ∨ d'.progress.isSettled = true) := by
    intro x after
    rw [after, List.getElem?_append_left (List.getElem?_eq_some_iff.1 here).1]
    exact ⟨d, here, Or.inl blocked⟩
  -- a dispatch that tries candidates does not wait
  have tries : ∀ {old : Dispatch} {others : List Candidate} {progress : Progress},
      old.progress = .placing others → old = d → progress.isSettled = true := by
    rintro old others progress placing rfl
    exact absurd (placing.symm.trans blocked) (by simp)
  -- room comes free only on queues from which somebody takes
  have lets : ∀ {h : Gateway} {taker : SessionId} {service : Service}
      {taken : Queue.Taken DispatchId}, g.service? taker = some service →
      service.sender = .reaching → (g.registry.queue service.queue).pop? = some taken →
      g'.dispatches = (h.letIn taken.served service.queue).dispatches →
      h.dispatches = g.dispatches →
      ∃ d', g'.dispatches[id]? = some d' ∧
        (d'.progress = .blocked queue left ∨ d'.progress.isSettled = true) := by
    intro h taker service taken serves reaching popped after same
    rcases letIn_cases h taken.served service.queue with ⟨eq, -⟩ | ⟨caller, x, served, there, eq⟩
    · exact keeps (by rw [after, eq, same])
    · rw [same] at there
      refine sets (by rw [after, eq, same]) ?_ there
      · rintro rfl rfl
        obtain ⟨left', waits⟩ := (ledger_of_attained attained).blocked_of_served popped served there
        obtain ⟨rfl, -⟩ := Progress.blocked.inj (blocked.symm.trans waits)
        exact absurd reaching (unreached serves rfl)
  cases c with
  | took there serving reaching popped encoded =>
    exact lets (service?_eq_some.2 ⟨_, there, serving⟩) reaching popped rfl rfl
  | skipped there serving reaching popped unwritable =>
    exact lets (service?_eq_some.2 ⟨_, there, serving⟩) reaching popped rfl rfl
  | begun group e timeout opened seen => exact stays rfl
  | collided group e timeout taken => exact stays rfl
  | resolved there verdict => exact sets rfl (fun _ _ => rfl) there
  | concluded there certain => exact sets rfl (fun _ _ => rfl) there
  | forsaken there live undecided => exact sets rfl (fun _ _ => rfl) there
  | placed there placing among live pushed => exact sets rfl (fun _ => tries placing) there
  | joined there placing among others live full => exact sets rfl (fun _ => tries placing) there
  | passed there placing among others shut => exact sets rfl (fun _ => tries placing) there
  | movedOn there waits shut =>
    refine sets rfl (fun _ => ?_) there
    rintro rfl
    obtain ⟨rfl, -⟩ := Progress.blocked.inj (blocked.symm.trans waits)
    exact absurd (opened.symm.trans shut) (by simp)
  | _ => exact keeps rfl

theorem blocked_of_changes (stranded : Stranded g queue) (attained : Attained s g)
    (unreached : Unreached g queue) (run : Changes g g') (opened : g'.isOpen queue = true)
    {id : DispatchId} {d : Dispatch} {left : List Candidate} (here : g.dispatches[id]? = some d)
    (blocked : d.progress = .blocked queue left) :
    ∃ d', g'.dispatches[id]? = some d' ∧
      (d'.progress = .blocked queue left ∨ d'.progress.isSettled = true) := by
  have a := stranded.abandoned (tenancy_of_attained attained)
  induction run with
  | refl => exact ⟨d, here, Or.inl blocked⟩
  | @tail h g' before c ih =>
    have attained' := attained.trans before
    -- the queue was open all the time
    obtain ⟨a', -⟩ := abandoned_of_changes attained a before
    have opened' := isOpen_of_abandoned attained' a' (.single c) opened
    obtain ⟨d', here', waits | settled⟩ := ih opened'
    · obtain ⟨stranded', -⟩ := stranded.of_changes attained unreached before opened'
      exact blocked_of_change stranded' attained' (stranded.unreached attained unreached before)
        opened' c here' waits
    · obtain ⟨d'', here'', settled'⟩ :=
        settled_of_change (ledger_of_attained attained') c here' settled
      exact ⟨d'', here'', Or.inr settled'⟩

/-! ## Quiescent gateways -/

theorem Quiescent.unreached (quiet : Quiescent g) (queue : QueueId) : Unreached g queue := by
  intro id service serves _
  obtain ⟨t, here, serving⟩ := service?_eq_some.1 serves
  exact quiet.not_reaching here serving

/-- A dispatch waits only for open queues. -/
theorem Quiescent.isOpen_of_blocked (quiet : Quiescent g) {id : DispatchId} {d : Dispatch}
    {left : List Candidate} (here : g.dispatches[id]? = some d)
    (blocked : d.progress = .blocked queue left) : g.isOpen queue = true := by
  have move : g.moveOn id = none := quiet.step? (.moveOn id)
  by_contra shut
  simp [moveOn, here, blocked, shut] at move

/-- A superseded session has let go of its queue, or is stalled in a frame. -/
theorem Quiescent.superseded (quiet : Quiescent g) (reached : Reachable s g) {id : SessionId}
    {service : Service} (serves : g.service? id = some service) {tenant : SessionId}
    {first : Service} (latest : tenant? service.queue g.journal = some (tenant, first))
    (apart : tenant ≠ id) : service.sender = .retired ∨ Stalled g id service.queue := by
  obtain ⟨t, here, serving⟩ := service?_eq_some.1 serves
  obtain ⟨tenant', first', latest', -, superseded⟩ :=
    (tenancy_of_attained (attained_of_reachable reached)).seated serves
  obtain ⟨rfl, -⟩ := Prod.mk.inj (Option.some.inj (latest.symm.trans latest'))
  -- between two frames it would have been told to
  have told : service.sender = .waiting ∨ service.sender = .idle → service.sender = .retired := by
    intro between
    refine (superseded apart).resolve_right fun told => ?_
    rw [quiet.not_notified here serving between] at told
    exact absurd told (by simp)
  cases sender : service.sender with
  | waiting => exact Or.inl (sender.symm.trans (told (Or.inl sender)))
  | idle => exact Or.inl (sender.symm.trans (told (Or.inr sender)))
  | reaching => exact absurd sender (quiet.not_reaching here serving)
  | writing rest => exact Or.inr (quiet.stalled_of_writing reached here serving sender)
  | retired => exact Or.inl rfl

end Stranded

/-- In a quiescent gateway a dispatch that waits for room waits for the queue of a registered node, or
of a session that goes on and was not superseded and holds the queue unless an older session is
stalled in a frame, except if the queue is stranded. The sessions that keep a stranded queue open have
let go of it or are stalled in a frame; as long as one of them goes on the queue stays stranded,
nothing is taken from it, and the dispatch waits until it has a result or is cancelled. -/
theorem registered_or_drained_iff {s : Settings} {g : Gateway} (reached : Reachable s g)
    (quiet : Quiescent g) {id : DispatchId} {d : Dispatch} {queue : QueueId} {left : List Candidate}
    (here : g.dispatches[id]? = some d) (blocked : d.progress = .blocked queue left) :
    (Registered g queue ∨ Drained g queue ↔ ¬ Stranded g queue) ∧
      (∀ {owner first service}, tenant? queue g.journal = some (owner, first) →
        g.service? owner = some service → service.queue = queue ∧
          (service.sender.holds = true ↔ ¬ ∃ other ≠ owner, Stalled g other queue)) ∧
      (Stranded g queue →
        (∀ {other service}, g.service? other = some service → service.queue = queue →
          service.sender = .retired ∨ Stalled g other queue) ∧
        ∀ {later}, Leads g later → later.isOpen queue = true →
          Stranded later queue ∧ dequeued queue later.journal = dequeued queue g.journal ∧
            ∃ d', later.dispatches[id]? = some d' ∧
              (d'.progress = .blocked queue left ∨ d'.progress.isSettled = true)) := by
  have attained := attained_of_reachable reached
  have t := tenancy_of_attained attained
  have opened := quiet.isOpen_of_blocked here blocked
  refine ⟨⟨?_, ?_⟩, ?_, fun stranded => ⟨?_, fun {later} run opened' => ?_⟩⟩
  · rintro (registered | drained) stranded
    · exact stranded.not_drained (t.drained_of_registered registered)
    · exact stranded.not_drained drained
  · intro attended
    exact Or.inr ((t.drained_or_stranded opened).resolve_right attended)
  · intro owner first service latest serves
    obtain rfl := queue_of_tenant_service attained serves latest
    exact ⟨rfl, quiet.holds_iff reached serves latest⟩
  · intro other service serves mine
    obtain ⟨tenant, first, latest, gone⟩ := stranded.headless
    subst mine
    refine quiet.superseded reached serves latest ?_
    rintro rfl
    exact absurd (serves.symm.trans gone) (by simp)
  · have run := changes_of_leads run
    have unreached : Unreached g queue := quiet.unreached queue
    obtain ⟨stranded', same⟩ := stranded.of_changes attained unreached run opened'
    exact ⟨stranded', same, blocked_of_changes stranded attained unreached run opened' here blocked⟩

/-- Queues with room for one envelope. -/
def narrow : Settings := { sample with queueCapacity := 1 }

/-- A worker connects again and reads nothing on the new connection. Of three dispatches one is being
written, one is queued, and one waits for room when the worker closes the new connection. -/
def strandedRun : List Action :=
  join 0 100 keepaliveFrame ++ [.move (.receive 0)] ++
    join 1 0 keepaliveFrame ++ [.move (.receive 1), .move (.retire 0), .move (.acquire 1)] ++
    ask 0 "default_group" { command := .getItem } 1000 ++ [.move (.place 0 0)] ++ fetch 1 ++
    ask 1 "default_group" { command := .getItem } 1000 ++ [.move (.place 1 0)] ++
    ask 2 "default_group" { command := .getItem } 1000 ++ [.move (.place 2 0)] ++
    [.input (.closeWrite 1), .move (.receive 1)] ++ reported (.session 1)

theorem quiescent_strandedRun : Quiescent (play narrow strandedRun) :=
  quiescent_iff_advance?.2 (by decide +kernel)

/-- The first connection goes on after the second, which registered last on the queue. -/
theorem stranded_strandedRun : Stranded (play narrow strandedRun) 0 := by
  have latest : (tenant? 0 (play narrow strandedRun).journal).map (·.1) = some 1 := by
    decide +kernel
  have gone : (play narrow strandedRun).service? 1 = none := by decide +kernel
  have kept : ((play narrow strandedRun).service? 0).map (·.queue) = some 0 := by decide +kernel
  obtain ⟨⟨tenant, first⟩, latest, rfl⟩ := Option.map_eq_some_iff.1 latest
  obtain ⟨service, serves, mine⟩ := Option.map_eq_some_iff.1 kept
  exact ⟨⟨_, first, latest, gone⟩, 0, service, serves, mine⟩

theorem blocked_strandedRun :
    ∃ d, (play narrow strandedRun).dispatches[2]? = some d ∧ d.progress = .blocked 0 [] := by
  have third : ((play narrow strandedRun).dispatches[2]?).map (fun d =>
      (waits (play narrow strandedRun) d, d.progress.targets)) = some (true, [0]) := by
    decide +kernel
  obtain ⟨d, here, stays⟩ := Option.map_eq_some_iff.1 third
  obtain ⟨waiting, targets⟩ := Prod.mk.inj stays
  refine ⟨d, here, ?_⟩
  -- a dispatch that waits is blocked or awaits its reply, and only the first still has targets
  cases progress : d.progress with
  | blocked queue left => simpa [progress, Progress.targets] using targets
  | placing left => simp [waits, progress] at waiting
  | _ => simp [progress, Progress.targets] at targets

/-- The third dispatch waits for a queue from which nothing is ever taken. -/
theorem registered_or_drained_iff_strandedRun :
    Reachable narrow (play narrow strandedRun) ∧ Quiescent (play narrow strandedRun) ∧
      ∃ d, (play narrow strandedRun).dispatches[2]? = some d ∧ d.progress = .blocked 0 [] ∧
        ¬ (Registered (play narrow strandedRun) 0 ∨ Drained (play narrow strandedRun) 0) ∧
        ∀ {later}, Leads (play narrow strandedRun) later → later.isOpen 0 = true →
          dequeued 0 later.journal = dequeued 0 (play narrow strandedRun).journal := by
  have reached := reachable_play narrow strandedRun
  obtain ⟨d, here, blocked⟩ := blocked_strandedRun
  obtain ⟨iff, -, stays⟩ := registered_or_drained_iff reached quiescent_strandedRun here blocked
  obtain ⟨-, later⟩ := stays stranded_strandedRun
  refine ⟨reached, quiescent_strandedRun, d, here, blocked, ?_, fun run opened => ?_⟩
  · exact fun attended => iff.1 attended stranded_strandedRun
  · exact (later run opened).2.1

/-- In a quiescent gateway a dispatch can wait for a queue that neither a registered node has nor a
session that was not superseded. -/
theorem exists_blocked_on_stranded :
    ¬ ∀ {s : Settings} {g : Gateway}, Reachable s g → Quiescent g →
      ∀ {id : DispatchId} {d : Dispatch} {queue : QueueId} {left : List Candidate},
        g.dispatches[id]? = some d → d.progress = .blocked queue left →
          Registered g queue ∨ Drained g queue := by
  intro claim
  obtain ⟨d, here, blocked⟩ := blocked_strandedRun
  have t := tenancy_of_attained (attained_of_reachable (reachable_play narrow strandedRun))
  rcases claim (reachable_play narrow strandedRun) quiescent_strandedRun here blocked with
    registered | drained
  · exact stranded_strandedRun.not_drained (t.drained_of_registered registered)
  · exact stranded_strandedRun.not_drained drained

end Switchboard.Gateway
