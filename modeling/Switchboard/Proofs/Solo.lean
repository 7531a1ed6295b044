import Switchboard.Proofs.Change

/-!
# What a session does by itself

The latest registration of every node (`registrar?`), and what happens without changing it
(`Uneventful`). Once a session got its first frame its moves leave all other sessions alone, register
nobody and settle no dispatch (`Solo`).

Main result: `solo_of_move`.
-/

set_option autoImplicit false

namespace Switchboard.Gateway

/-- The latest registration of a node that a journal tells of. -/
def registrar? (node : String) : List Event → Option (SessionId × Service)
  | [] => none
  | .registered id service :: before =>
    if service.identity.node = node then some (id, service) else registrar? node before
  | _ :: before => registrar? node before

/-- What happens tells of no registration and no closing. -/
structure Uneventful (journal journal' : List Event) : Prop where
  registrars : ∀ node, registrar? node journal' = registrar? node journal
  registered : ∀ {id service}, .registered id service ∈ journal' ↔
    .registered id service ∈ journal
  closed : ∀ {id current}, .closed id current ∈ journal' ↔ .closed id current ∈ journal

section Journal

variable {node : String} {journal : List Event} {id : SessionId} {service : Service}

/-- Who registered a node last did so under its name. -/
theorem registered_of_registrar? (h : registrar? node journal = some (id, service)) :
    .registered id service ∈ journal ∧ service.identity.node = node := by
  induction journal with
  | nil => exact absurd h (by simp [registrar?])
  | cons event before ih =>
    cases event with
    | registered other first =>
      rw [registrar?] at h
      split at h
      · rename_i name
        obtain ⟨rfl, rfl⟩ := Prod.mk.inj (Option.some.inj h)
        exact ⟨List.mem_cons_self, name⟩
      · obtain ⟨mem, name⟩ := ih h
        exact ⟨List.mem_cons_of_mem _ mem, name⟩
    | _ =>
      obtain ⟨mem, name⟩ := ih h
      exact ⟨List.mem_cons_of_mem _ mem, name⟩

theorem Uneventful.refl (journal : List Event) : Uneventful journal journal :=
  ⟨fun _ => rfl, Iff.rfl, Iff.rfl⟩

/-- What neither registers nor closes is no news about who has a node. -/
theorem Uneventful.cons (event : Event)
    (registers : ∀ id service, event ≠ .registered id service)
    (closes : ∀ id current, event ≠ .closed id current) :
    Uneventful journal (event :: journal) where
  registrars node := by
    cases event with
    | registered id service => exact absurd rfl (registers id service)
    | _ => rfl
  registered {id service} := by
    rw [List.mem_cons, or_iff_right (registers id service).symm]
  closed {id current} := by
    rw [List.mem_cons, or_iff_right (closes id current).symm]

theorem Uneventful.trans {first second third : List Event} (a : Uneventful first second)
    (b : Uneventful second third) : Uneventful first third :=
  ⟨fun node => (b.registrars node).trans (a.registrars node), b.registered.trans a.registered,
    b.closed.trans a.closed⟩

theorem uneventful_letIn (g : Gateway) (waiting : Option DispatchId) (queue : QueueId) :
    Uneventful g.journal (g.letIn waiting queue).journal := by
  rcases letIn_cases g waiting queue with ⟨eq, -⟩ | ⟨caller, d, -, -, eq⟩
  · rw [eq]
    exact .refl _
  · rw [eq]
    exact .cons _ (by simp) (by simp)

end Journal

/-! ## Moves of a session -/

/-- Only this session does anything, and it neither registers nor brings a dispatch to its result or
its end. -/
structure Solo (old : SessionId) (g g' : Gateway) : Prop where
  others : ∀ {id}, id ≠ old → g'.sessions[id]? = g.sessions[id]?
  registrars : ∀ node, registrar? node g'.journal = registrar? node g.journal
  endings : ∀ {id : DispatchId} {x}, g'.dispatches[id]? = some x → x.progress.isSettled = true →
    g.dispatches[id]? = some x

section Solo

variable {g g' g'' : Gateway} {old : SessionId}

theorem Solo.trans (a : Solo old g g') (b : Solo old g' g'') : Solo old g g'' where
  others other := (b.others other).trans (a.others other)
  registrars node := (b.registrars node).trans (a.registrars node)
  endings here settled := a.endings (b.endings here settled) settled

/-- A session changes itself only, and what happens meanwhile is no registration. -/
theorem Solo.of_set {t : Session} (sessions : g'.sessions = g.sessions.set old t)
    (dispatches : g'.dispatches = g.dispatches)
    (registrars : ∀ node, registrar? node g'.journal = registrar? node g.journal) :
    Solo old g g' where
  others other := by rw [sessions, List.getElem?_set_ne (Ne.symm other)]
  registrars := registrars
  endings here _ := by rwa [dispatches] at here

theorem Solo.of_sessions (sessions : g'.sessions = g.sessions)
    (dispatches : g'.dispatches = g.dispatches)
    (registrars : ∀ node, registrar? node g'.journal = registrar? node g.journal) :
    Solo old g g' where
  others _ := by rw [sessions]
  registrars := registrars
  endings here _ := by rwa [dispatches] at here

/-- Letting a dispatch in settles nothing. -/
theorem solo_letIn (waiting : Option DispatchId) (queue : QueueId) :
    Solo old g (g.letIn waiting queue) := by
  refine ⟨fun _ => by rw [sessions_letIn], (uneventful_letIn g _ _).registrars, ?_⟩
  intro id x here settled
  rcases letIn_cases g waiting queue with ⟨eq, -⟩ | ⟨caller, d, -, -, eq⟩
  · rwa [eq] at here
  · rw [eq] at here
    rcases getElem?_set_cases here with ⟨-, rfl⟩ | ⟨-, same⟩
    · exact absurd settled (by simp [Progress.isSettled])
    · exact same

theorem solo_deregister (id : SessionId) (service : Service) :
    Solo old g (g.deregister id service) := by
  rcases deregister_shape (g := g) id service with
    ⟨current, metrics, -, -, eq⟩ | ⟨members, q, -, -, eq⟩
  · rw [eq]
    exact .of_sessions rfl rfl fun _ => rfl
  · rw [eq]
    exact .of_sessions rfl rfl fun _ => rfl

theorem solo_close (id : SessionId) (service : Service) : Solo old g (g.close id service) := by
  rw [close]
  split
  · exact .of_sessions rfl rfl fun _ => rfl
  · exact solo_deregister id service

theorem solo_finish (s : Session) (service : Service) (reason : SessionError) :
    Solo old g (g.finish old s service reason) := by
  have closed : Solo old g (g.close old service) := solo_close old service
  rw [finish]
  generalize g.close old service = h at closed
  exact closed.trans (.of_set rfl rfl fun _ => rfl)

theorem solo_dismiss (s : Session) (reason : SessionError) : Solo old g (g.dismiss old s reason) :=
  .of_set rfl rfl fun _ => rfl

theorem solo_handle (s : Session) (service : Service) (e : Envelope) :
    Solo old g (g.handle old s service e) := by
  have read : Solo old g (g.record (.received old e)) := .of_sessions rfl rfl fun _ => rfl
  refine read.trans ?_
  rcases handle_cases g old s service e with
    ⟨-, eq⟩ | ⟨ticket, replies, -, -, eq⟩ | ⟨replies, -, -, eq⟩ | ⟨replies, -, -, eq⟩ <;> rw [eq]
  · exact (solo_close old service).trans (.of_set rfl rfl fun _ => rfl)
  all_goals exact .of_set rfl rfl fun _ => rfl

theorem solo_afterTaking (service : Service) (taken : Queue.Taken DispatchId) :
    Solo old g (g.afterTaking old service taken) := by
  have popped : Solo old g ({ g with
      registry := g.registry.setQueue service.queue taken.queue }.record
        (.taken old service.queue taken.frame)) := .of_sessions rfl rfl fun _ => rfl
  -- whoever waits for the room is let in after that
  exact popped.trans (solo_letIn taken.served service.queue)

/-- A session that got its first frame does nothing to other sessions and registers no more. -/
theorem solo_of_deed {m : Move} (d : Deed g old m g') (later : m ≠ .greet old) :
    Solo old g g' := by
  cases d with
  | dismissed reason how here greeting => exact solo_dismiss _ _
  | enrolled e rest here greeting room => exact absurd rfl later
  | broke here greeting => exact absurd rfl later
  | finished reason how here serving => exact solo_finish _ _ _
  | handled here serving read => exact solo_handle _ _ _
  | acquired here serving waiting free => exact .of_set rfl rfl fun _ => rfl
  | retired here serving between notified => exact .of_set rfl rfl fun _ => rfl
  | looked here serving idle current => exact .of_set rfl rfl fun _ => rfl
  | missed here serving reaching empty => exact .of_set rfl rfl fun _ => rfl
  | took here serving reaching first encoded =>
    exact (solo_afterTaking _ _).trans (.of_set rfl rfl fun _ => rfl)
  | skipped here serving reaching first unwritable =>
    exact (solo_afterTaking _ _).trans (.of_set rfl rfl fun _ => rfl)
  | wrote here serving writing whole pos room le => exact .of_set rfl rfl fun _ => rfl

theorem solo_of_move {m : Move} (mem : m ∈ sessionMoves old) (later : m ≠ .greet old)
    (h : g.move? m = some g') : Solo old g g' :=
  solo_of_deed (deed_of_move mem h) later

end Solo

end Switchboard.Gateway
