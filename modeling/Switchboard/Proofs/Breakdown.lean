import Switchboard.Proofs.Deadline
import Switchboard.Proofs.Occurrence
import Switchboard.Proofs.Restart
import Switchboard.Proofs.Validity

/-!
# The numbers of a valid configuration

Each number of a configuration goes to a consumer of its own: the capacity to the queues that are made
for new nodes, the interval to the heartbeats, the other times to deadlines. A valid configuration has
no zero among its numbers, so a heartbeat beats, and all times fit the clock as long as the clock
itself does not run out. Nothing bounds the capacity from above, and a queue of 2^61 places cannot be
made: with such a capacity every session breaks down that gets its first frame, and no node ever
comes.

Main result: `valid_numbers`.
-/

set_option autoImplicit false

namespace Switchboard

/-- A time in milliseconds is an instant if its seconds fit in a signed word of 64 bits. -/
def isInstant (millis : Nat) : Bool := millis / 1000 < 2 ^ 63

/-- A number of milliseconds from now is an instant, unless the clock has almost run out. -/
theorem isInstant_add {clock : Nat} (early : clock + 2 ^ 64 ≤ 1000 * 2 ^ 63) (millis : UInt64) :
    isInstant (clock + millis.toNat) = true := by
  have bounded : millis.toNat < 2 ^ 64 := millis.toNat_lt
  have within : clock + millis.toNat < 2 ^ 63 * 1000 := by omega
  exact decide_eq_true (Nat.div_lt_of_lt_mul (by omega))

namespace Config

variable {c : Config}

/-- No number of a valid configuration is zero. -/
theorem ne_zero_of_validate (valid : c.validate = .ok ()) :
    c.queueCapacity ≠ 0 ∧ c.heartbeatIntervalMs ≠ 0 ∧ c.handshakeTimeoutMs ≠ 0 ∧
      c.maxFrameBytes ≠ 0 ∧ ∀ class', c.timeouts.millis class' ≠ 0 := by
  have nonzero := (validate_eq_ok_iff.1 valid).nonzero
  simp only [numbers, List.forall_mem_cons] at nonzero
  obtain ⟨capacity, interval, handshake, frame, standard, bulk, transfer, -⟩ := nonzero
  refine ⟨capacity, interval, handshake, frame, fun class' => ?_⟩
  cases class' with
  | standard => exact standard
  | bulk => exact bulk
  | transfer => exact transfer

/-- A queue of the capacity of a valid configuration can be made exactly if it has less than 2^61
places. -/
theorem isCapacity_iff (valid : c.validate = .ok ()) :
    Queue.isCapacity c.settings.queueCapacity = true ↔ c.queueCapacity.toNat < 2 ^ 61 := by
  have positive : 1 ≤ c.queueCapacity.toNat := by
    have nonzero := (ne_zero_of_validate valid).1
    by_contra zero
    exact nonzero (UInt64.toNat_inj.1 (Nat.lt_one_iff.1 (Nat.lt_of_not_le zero)))
  rw [Queue.isCapacity, settings, decide_eq_true positive, Bool.true_and]
  exact decide_eq_true_iff

end Config

namespace Gateway

variable {s : Settings} {g g' : Gateway} {id : SessionId}

/-! ## Where a queue can be made, and where not -/

/-- Where no queue can be made no node comes. -/
theorem nodes_eq_nil_of_attained (none : Queue.isCapacity s.queueCapacity = false)
    (attained : Attained s g) : g.registry.nodes = [] := by
  induction attained with
  | refl => rfl
  | @tail g g' before c ih =>
    cases reseating_of_change c with
    | joins e room registry journal =>
      rw [Registry.canRegister, ih, capacity_of_attained before, none] at room
      exact absurd room (by simp)
    | @leaves id service current registry journal =>
      rcases Registry.deregister_cases g.registry service.identity.group service.identity.node
        service.key with ⟨entry, owned, -⟩ | ⟨-, eq⟩
      · rw [ih] at owned
        exact absurd owned (by simp)
      · rw [registry, eq]
        exact ih
    | stay nodes made tenants registered => exact nodes.trans ih

/-- Every node can be registered, or none. -/
theorem canRegister_eq (attained : Attained s g) (node : String) :
    g.registry.canRegister node = Queue.isCapacity s.queueCapacity := by
  rw [Registry.canRegister, capacity_of_attained attained]
  cases room : Queue.isCapacity s.queueCapacity with
  | true => exact Bool.or_true _
  | false =>
    rw [nodes_eq_nil_of_attained room attained]
    rfl

/-- A session that gets its first frame registers or breaks down. -/
theorem greet_of_frame (attained : Attained s g) {t : Session} {deadline : Nat} {e : Envelope}
    {rest : List UInt8} (here : g.sessions[id]? = some t) (greeting : t.phase = .greeting deadline)
    (first : Wire.Frame.next s.sessionLimit t.inbound t.inboundTail = .frame e rest) :
    g.greet id = some (if Queue.isCapacity s.queueCapacity = true then g.enroll id t e rest
      else g.breakDown id t) := by
  rw [greet, greeting?_eq_some.2 ⟨here, greeting⟩, settings_of_attained attained]
  simp only [Option.bind_eq_bind, Option.bind_some, first, welcome, canRegister_eq attained]

/-! ## Sessions that break down -/

/-- No session broke down. -/
def Whole (g : Gateway) : Prop := ∀ t ∈ g.sessions, t.phase ≠ .brokenDown

theorem Whole.set (w : Whole g) {t : Session} (sessions : g'.sessions = g.sessions.set id t)
    (phase : t.phase ≠ .brokenDown) : Whole g' := by
  intro u mem
  rw [sessions] at mem
  rcases List.mem_or_eq_of_mem_set mem with old | rfl
  · exact w u old
  · exact phase

theorem Whole.congr (w : Whole g) (sessions : g'.sessions = g.sessions) : Whole g' := by
  rw [Whole, sessions]
  exact w

/-- The session is where it was, and every other session as well. -/
theorem sessions_close (service : Service) : (g.close id service).sessions = g.sessions := by
  unfold close
  split
  · rfl
  · exact sessions_deregister id service

theorem sessions_finish (t : Session) (service : Service) (reason : SessionError) :
    (g.finish id t service reason).sessions = g.sessions.set id { t with phase := .ended reason } := by
  show (g.close id service).sessions.set _ _ = _
  rw [sessions_close]

theorem sessions_afterTaking (service : Service) (taken : Queue.Taken DispatchId) :
    (g.afterTaking id service taken).sessions = g.sessions :=
  sessions_letIn _ _

theorem sessions_dispatch (group : String) (e : Envelope) (timeout : Nat) :
    (g.dispatch group e timeout).sessions = g.sessions := by
  have starts := starts_dispatch g group e timeout
  generalize g.dispatch group e timeout = g' at starts ⊢
  cases starts <;> rfl

/-- A session that has its first frame behind it does not break down. -/
theorem whole_of_deed (w : Whole g) {m : Move} (deed : Deed g id m g') (later : m ≠ .greet id) :
    Whole g' := by
  cases deed with
  | dismissed reason how here greeting => exact w.set rfl (by simp)
  | enrolled e rest here greeting room => exact w.set rfl (by simp)
  | broke here greeting => exact absurd rfl later
  | finished reason how here serving => exact w.set (sessions_finish _ _ _) (by simp)
  | @handled t service e inbound here serving read =>
    cases control : e.command.isControl with
    | true => exact w.set (handle_of_control g id { t with inbound } service control).1 (by simp)
    | false => exact w.set (handle_of_plain g id { t with inbound } _ control).1 (by simp)
  | acquired here serving waiting free => exact w.set rfl (by simp)
  | retired here serving between notified => exact w.set rfl (by simp)
  | looked here serving idle current => exact w.set rfl (by simp)
  | missed here serving reaching empty => exact w.set rfl (by simp)
  | @took t service taken bytes here serving reaching first encoded =>
    have after : Whole (g.afterTaking id service taken) := w.congr (sessions_afterTaking _ _)
    exact after.set rfl (by simp)
  | @skipped t service taken cause here serving reaching first unwritable =>
    have after : Whole (g.afterTaking id service taken) := w.congr (sessions_afterTaking _ _)
    exact after.set rfl (by simp)
  | wrote here serving writing whole pos room le => exact w.set rfl (by simp)

/-- Where queues can be made, a session that gets its first frame registers. -/
theorem whole_greet (room : Queue.isCapacity s.queueCapacity = true) (attained : Attained s g)
    (w : Whole g) (h : g.greet id = some g') : Whole g' := by
  obtain ⟨⟨t, deadline⟩, -, h⟩ := Option.bind_eq_some_iff.1 h
  dsimp only at h
  split at h
  · exact absurd h (by simp)
  · obtain rfl := Option.some.inj h
    exact w.set rfl (by simp)
  · obtain rfl := Option.some.inj h
    exact w.set rfl (by simp)
  · obtain rfl := Option.some.inj h
    rw [welcome, canRegister_eq attained, if_pos room]
    exact w.set rfl (by simp)

theorem sessions_of_turn {other : DispatchId} {d : Dispatch} {m : Move}
    (turn : Turn g other d m g') : g'.sessions = g.sessions := by
  cases turn <;> rfl

/-- What is not the first frame of a session breaks none down. -/
theorem whole_of_occurs (w : Whole g) {a : Action} (occurs : Occurs g a g')
    (later : ∀ id, a ≠ .move (.greet id)) : Whole g' := by
  cases occurs with
  | @deed _ id m _ how mem free deed =>
    refine whole_of_deed w deed ?_
    rcases how with rfl | ⟨-, rfl⟩
    · exact fun first => later id (by rw [first])
    · simp
  | turn here free turn => exact w.congr (sessions_of_turn turn)
  | tallies due => exact w.congr rfl
  | publishes due => exact w.congr rfl
  | beats id =>
    obtain ⟨registry, metrics, news, shape, -⟩ := beatAll_shape (g := g) id
    exact w.congr (by rw [shape])
  | stops id => exact w.congr rfl
  | starts group e timeout => exact w.congr (sessions_dispatch group e timeout)
  | forsakes here free waits => exact w.congr rfl
  | connects greeting =>
    intro t mem
    rcases List.mem_append.1 mem with old | new
    · exact w t old
    · rw [List.mem_singleton.1 new, greeting]
      simp
  | streams own here phase =>
    refine w.set rfl ?_
    rw [phase]
    exact w _ (List.mem_of_getElem? here)
  | around => exact w.congr rfl

/-- Where queues can be made no session breaks down. -/
theorem whole_of_reachable (room : Queue.isCapacity s.queueCapacity = true) (h : Reachable s g) :
    Whole g := by
  induction h with
  | start => exact fun t mem => absurd mem List.not_mem_nil
  | input i _ ih => exact whole_of_occurs ih (occurs_input _ i) (by simp)
  | move m before moved ih =>
    by_cases first : ∃ id, m = .greet id
    · obtain ⟨id, rfl⟩ := first
      exact whole_greet room (attained_of_reachable before) ih (step?_of_move? moved)
    · refine whole_of_occurs ih (occurs_move moved) fun id same => first ⟨id, ?_⟩
      exact Action.move.inj same

/-- Of the numbers of a valid configuration only the capacity can be one that its consumer does not
take. A node can be registered exactly if the capacity is below 2^61: then a session that gets its
first frame registers and no session ever breaks down, and otherwise it breaks down and no node is ever
registered. A heartbeat that is started beats, and its beats, the deadline of a new stream and the
deadline of a call of any class are instants, as long as the clock does not run out within 2^64
milliseconds. -/
theorem valid_numbers {c : Config} (valid : c.validate = .ok ()) {g : Gateway}
    (h : Reachable c.settings g) :
    (∀ node, g.registry.canRegister node = true ↔ c.queueCapacity.toNat < 2 ^ 61) ∧
    (∀ {id : SessionId} {t : Session} {deadline : Nat} {e : Envelope} {rest : List UInt8},
      g.sessions[id]? = some t → t.phase = .greeting deadline →
      Wire.Frame.next c.maxFrameBytes.toNat t.inbound t.inboundTail = .frame e rest →
      g.greet id = some (if c.queueCapacity.toNat < 2 ^ 61 then g.enroll id t e rest
        else g.breakDown id t)) ∧
    (c.queueCapacity.toNat < 2 ^ 61 → ∀ t ∈ g.sessions, t.phase ≠ .brokenDown) ∧
    (2 ^ 61 ≤ c.queueCapacity.toNat → g.registry.nodes = []) ∧
    (∃ b : Heartbeat, b.pulse = .beating ∧ b.next = g.clock + c.heartbeatIntervalMs.toNat ∧
      (g.input (.startHeartbeat c.heartbeatIntervalMs.toNat)).heartbeats = g.heartbeats ++ [b]) ∧
    (g.clock + 2 ^ 64 ≤ 1000 * 2 ^ 63 →
      isInstant (g.clock + c.heartbeatIntervalMs.toNat) = true ∧
      (∀ buffer, ∃ (t : Session) (deadline : Nat),
        (g.input (.connect buffer)).sessions = g.sessions ++ [t] ∧
        t.phase = .greeting deadline ∧ isInstant deadline = true) ∧
      ∀ (command : Command) (group : String) (e : Envelope), ∃ x,
        (g.input (.dispatch group e (c.timeouts.millis command.timeoutClass).toNat)).dispatches =
          g.dispatches ++ [x] ∧ isInstant x.deadline = true) := by
  have attained := attained_of_reachable h
  have room := Config.isCapacity_iff valid
  refine ⟨fun node => ?_, fun {id t deadline e rest} here greeting first => ?_,
    fun small => whole_of_reachable (room.2 small) h, fun large => ?_, ?_,
    fun early => ⟨isInstant_add early _, fun buffer => ⟨_, _, rfl, rfl, ?_⟩,
      fun command group e => ?_⟩⟩
  · rw [canRegister_eq attained]
    exact room
  · rw [greet_of_frame attained here greeting first]
    simp only [room]
  · refine nodes_eq_nil_of_attained (Bool.eq_false_iff.2 fun made => ?_) attained
    exact Nat.not_lt_of_le large (room.1 made)
  · have positive : c.heartbeatIntervalMs.toNat ≠ 0 := fun zero =>
      (Config.ne_zero_of_validate valid).2.1 (UInt64.toNat_inj.1 zero)
    refine ⟨_, ?_, rfl, rfl⟩
    exact if_neg positive
  · rw [settings_of_attained attained]
    exact isInstant_add early _
  · obtain ⟨claim, attempts, progress, dispatches, -⟩ := dispatch_opening g group e
      (c.timeouts.millis command.timeoutClass).toNat
    exact ⟨_, dispatches, isInstant_add early _⟩

/-- With the default configuration the first worker registers, and its session goes on. -/
theorem valid_numbers_default :
    ({} : Config).validate = .ok () ∧
      Reachable ({} : Config).settings (play ({} : Config).settings (join 0 100 keepaliveFrame)) ∧
      ∀ t ∈ (play ({} : Config).settings (join 0 100 keepaliveFrame)).sessions,
        t.phase ≠ .brokenDown := by
  have valid : ({} : Config).validate = .ok () := by decide
  have reached := reachable_play ({} : Config).settings (join 0 100 keepaliveFrame)
  obtain ⟨-, -, whole, -⟩ := valid_numbers valid reached
  exact ⟨valid, reached, whole (by decide)⟩

/-- A valid configuration with queues that cannot be made. -/
def boundless : Config := { queueCapacity := 2305843009213693952 }

/-- A valid configuration does not keep the session of the first worker from breaking down. -/
theorem exists_breakdown_of_valid :
    ¬ ∀ {c : Config}, c.validate = .ok () → ∀ {g : Gateway}, Reachable c.settings g →
      ∀ t ∈ g.sessions, t.phase ≠ .brokenDown := by
  intro claim
  have whole := claim (c := boundless) (by decide)
    (reachable_play boundless.settings (join 0 100 keepaliveFrame))
  have broken : ∃ t ∈ (play boundless.settings (join 0 100 keepaliveFrame)).sessions,
      t.phase = .brokenDown := by
    decide +kernel
  obtain ⟨t, mem, phase⟩ := broken
  exact whole t mem phase

end Gateway

end Switchboard
