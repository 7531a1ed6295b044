import Switchboard.Proofs.Delivery

/-!
# Sessions that wait for one another

A session that took a node over gets the queue of the node when the sender before it lets go of it,
which it does at once unless it is in the middle of a frame. If the worker of the older connection
has stopped reading, that frame is never written out (`Stalled`), and the new session waits, with
room on its own stream. `receiver_held_iff` says that in a quiescent gateway this is the only way in
which the owner of a node can be without the queue, and `exists_owner_without_receiver` that it
happens.
-/

set_option autoImplicit false

namespace Switchboard.Gateway

/-- A session is in the middle of a frame, and its stream takes no more bytes. -/
def Stalled (g : Gateway) (id : SessionId) (queue : QueueId) : Prop :=
  ∃ s service rest, g.sessions[id]? = some s ∧ s.phase = .serving service ∧
    service.queue = queue ∧ service.sender = .writing rest ∧ rest ≠ [] ∧
    s.outbound.broken = false ∧ s.outbound.room = 0

section Quiescent

variable {s : Settings} {g : Gateway} {id : SessionId} {t : Session} {service : Service}

/-- A sender waits only for a queue that another session holds. -/
theorem Quiescent.held_of_waiting (quiet : Quiescent g) (here : g.sessions[id]? = some t)
    (serving : t.phase = .serving service) (waiting : service.sender = .waiting) :
    g.held service.queue = true := by
  by_contra free
  have move : g.acquire id = none := quiet.step? (.acquire id)
  rw [acquire, serving?_eq_some.2 ⟨here, serving⟩] at move
  simp [waiting, free] at move

/-- A superseded sender is not between two frames. -/
theorem Quiescent.not_notified (quiet : Quiescent g) (here : g.sessions[id]? = some t)
    (serving : t.phase = .serving service)
    (between : service.sender = .waiting ∨ service.sender = .idle) :
    g.registry.notified service.signal = false := by
  by_contra told
  have move : g.retire id = none := quiet.step? (.retire id)
  rw [retire, serving?_eq_some.2 ⟨here, serving⟩] at move
  simp [between, told] at move

/-- A sender that is not superseded takes what is on its queue. -/
theorem Quiescent.frames_eq_nil (quiet : Quiescent g) (here : g.sessions[id]? = some t)
    (serving : t.phase = .serving service) (idle : service.sender = .idle) :
    (g.registry.queue service.queue).frames = [] := by
  have current := quiet.not_notified here serving (Or.inr idle)
  have serves := serving?_eq_some.2 ⟨here, serving⟩
  have move := quiet.step? (.reach id)
  simpa [Gateway.step?, hasNext, reach, serves, idle, current] using move

/-- A sender in the middle of a frame is stalled. -/
theorem Quiescent.stalled_of_writing (quiet : Quiescent g) (reached : Reachable s g)
    (here : g.sessions[id]? = some t) (serving : t.phase = .serving service) {rest : List UInt8}
    (writing : service.sender = .writing rest) : Stalled g id service.queue := by
  have step := (carrying_of_attained (attained_of_reachable reached)).known here
  rw [serving] at step
  obtain ⟨-, -, -, more, -, -⟩ := step.1 rest writing
  have move : g.write id = none := quiet.step? (.write id)
  rw [write, serving?_eq_some.2 ⟨here, serving⟩] at move
  simp only [Option.bind_eq_bind, Option.bind_some, writing] at move
  split at move
  · exact absurd move (by simp)
  · rename_i whole
    split at move
    · rename_i none
      refine ⟨t, service, rest, here, serving, rfl, writing, more, Bool.eq_false_iff.2 whole, ?_⟩
      have length : rest.length ≠ 0 := fun zero => more (List.length_eq_zero_iff.1 zero)
      omega
    · exact absurd move (by simp)

/-- The tenant of a queue waits for it only while an older session is stalled in a frame. -/
theorem Quiescent.exists_stalled (quiet : Quiescent g) (reached : Reachable s g)
    (here : g.sessions[id]? = some t) (serving : t.phase = .serving service)
    (waiting : service.sender = .waiting) {registered : Service}
    (latest : tenant? service.queue g.journal = some (id, registered)) :
    ∃ other ≠ id, Stalled g other service.queue := by
  have tenancy := tenancy_of_attained (attained_of_reachable reached)
  obtain ⟨other, service', serves', queue, holds⟩ :=
    (held_eq_true_iff _).1 (quiet.held_of_waiting here serving waiting)
  obtain ⟨t', here', serving'⟩ := service?_eq_some.1 serves'
  have apart : other ≠ id := by
    rintro rfl
    obtain rfl := Option.some.inj ((service?_eq_some.2 ⟨t, here, serving⟩).symm.trans serves')
    rw [waiting] at holds
    exact absurd holds (by simp [Sender.holds])
  refine ⟨other, apart, ?_⟩
  cases sender : service'.sender with
  | writing rest =>
    have stalled := quiet.stalled_of_writing reached here' serving' sender
    rwa [queue] at stalled
  | reaching => exact absurd sender (quiet.not_reaching here' serving')
  | idle =>
    -- a superseded session was told so, and between two frames it would have let go of the queue
    obtain ⟨tenant, first, latest', -, superseded⟩ := tenancy.seated serves'
    rw [queue] at latest'
    obtain ⟨rfl, -⟩ := Prod.mk.inj (Option.some.inj (latest.symm.trans latest'))
    rcases superseded apart.symm with retired | told
    · exact absurd (sender.symm.trans retired) (by simp)
    · rw [quiet.not_notified here' serving' (Or.inr sender)] at told
      exact absurd told (by simp)
  | waiting =>
    rw [sender] at holds
    exact absurd holds (by simp [Sender.holds])
  | retired =>
    rw [sender] at holds
    exact absurd holds (by simp [Sender.holds])

/-- The tenant of a queue holds it unless an older session is stalled in a frame. -/
theorem Quiescent.holds_iff (quiet : Quiescent g) (reached : Reachable s g)
    (serves : g.service? id = some service) {registered : Service}
    (latest : tenant? service.queue g.journal = some (id, registered)) :
    service.sender.holds = true ↔ ¬ ∃ other ≠ id, Stalled g other service.queue := by
  have attained := attained_of_reachable reached
  obtain ⟨t, here, serving⟩ := service?_eq_some.1 serves
  constructor
  · rintro holds ⟨other, apart, t', service', rest, here', serving', queue, writing, -⟩
    have serves' := service?_eq_some.2 ⟨t', here', serving'⟩
    exact apart (exclusive_of_attained attained serves' serves queue (by rw [writing]; rfl) holds)
  · intro free
    cases sender : service.sender with
    | idle => rfl
    | reaching => rfl
    | writing rest => rfl
    | waiting => exact absurd (quiet.exists_stalled reached here serving sender latest) free
    | retired =>
      -- the tenant is never told to retire
      obtain ⟨tenant, first, latest', mine, -⟩ := (tenancy_of_attained attained).seated serves
      obtain ⟨rfl, -⟩ := Prod.mk.inj (Option.some.inj (latest.symm.trans latest'))
      exact absurd sender (mine rfl).2.1

/-- A session that holds its queue has taken everything from it, or is stalled in a frame. -/
theorem Quiescent.frames_or_stalled (quiet : Quiescent g) (reached : Reachable s g)
    (serves : g.service? id = some service) (holds : service.sender.holds = true) :
    (g.registry.queue service.queue).frames = [] ∨ Stalled g id service.queue := by
  obtain ⟨t, here, serving⟩ := service?_eq_some.1 serves
  cases sender : service.sender with
  | idle => exact Or.inl (quiet.frames_eq_nil here serving sender)
  | reaching => exact absurd sender (quiet.not_reaching here serving)
  | writing rest => exact Or.inr (quiet.stalled_of_writing reached here serving sender)
  | waiting => exact absurd holds (by simp [sender, Sender.holds])
  | retired => exact absurd holds (by simp [sender, Sender.holds])

/-- Where something is left on a queue, its tenant is stalled in a frame, or an older session is. -/
theorem Quiescent.stalled_iff (quiet : Quiescent g) (reached : Reachable s g)
    (serves : g.service? id = some service) {registered : Service}
    (latest : tenant? service.queue g.journal = some (id, registered))
    (left : (g.registry.queue service.queue).frames ≠ []) :
    Stalled g id service.queue ↔ ¬ ∃ other ≠ id, Stalled g other service.queue := by
  rw [← quiet.holds_iff reached serves latest]
  constructor
  · rintro ⟨t, theirs, rest, here, serving, -, writing, -⟩
    obtain rfl := Option.some.inj (serves.symm.trans (service?_eq_some.2 ⟨t, here, serving⟩))
    rw [writing]
    rfl
  · exact fun holds => (quiet.frames_or_stalled reached serves holds).resolve_left left

end Quiescent

/-- In a quiescent gateway the session that owns a node holds the receiver of the node's queue unless
an older session of that queue is stalled in the middle of a frame; while it holds the receiver,
envelopes wait only for its own stream. -/
theorem receiver_held_iff {s : Settings} {g : Gateway} (reached : Reachable s g)
    (quiet : Quiescent g) {node : String} {entry : Entry}
    (owned : g.registry.nodes.get? node = some entry) :
    ∃ id service, g.service? id = some service ∧ service.key = entry.key ∧
      service.queue = entry.queue ∧
      (∀ {id' service'}, g.service? id' = some service' → service'.key = entry.key → id' = id) ∧
      (service.sender.holds = true ↔ ¬ ∃ other ≠ id, Stalled g other entry.queue) ∧
      (service.sender.holds = true → (g.registry.queue entry.queue).frames ≠ [] →
        Stalled g id entry.queue) := by
  have tenancy := tenancy_of_attained (attained_of_reachable reached)
  obtain ⟨id, service, registered, serves, -, -, rfl, latest⟩ := tenancy.owned owned
  refine ⟨id, service, serves, rfl, rfl, fun serves' same => ?_, ?_, fun holds waits => ?_⟩
  · exact tenancy.keysApart serves' serves same
  · -- the owner of a node is the tenant of its queue
    exact quiet.holds_iff reached serves latest
  · exact (quiet.frames_or_stalled reached serves holds).resolve_left waits

/-- A worker with room for four bytes stops reading in the middle of a frame and connects again;
then another envelope is queued. -/
def stallRun : List Action :=
  join 0 4 keepaliveFrame ++ [.move (.receive 0)] ++
    ask 0 "default_group" { command := .getItem } 1000 ++ [.move (.place 0 0)] ++ fetch 0 ++
    [.move (.write 0)] ++ join 1 100 keepaliveFrame ++ [.move (.receive 1)] ++
    ask 1 "default_group" { command := .getItem } 1000 ++ [.move (.place 1 0)]

/-- The entry of the node after `stallRun`: the second connection owns it. -/
def stalledEntry : Entry := ⟨"default_group", "default_conn-2", 0, 1⟩

/-- After `stallRun` the second connection is without the queue, and so `Stalled` is what happened. -/
theorem receiver_held_iff_stall :
    Reachable sample (play sample stallRun) ∧ Quiescent (play sample stallRun) ∧
      (play sample stallRun).registry.nodes.get? "default_node" = some stalledEntry ∧
      ∃ id service, (play sample stallRun).service? id = some service ∧
        service.key = stalledEntry.key ∧
        (service.sender.holds = true ↔ ¬ ∃ other ≠ id, Stalled (play sample stallRun) other 0) := by
  have reached := reachable_play sample stallRun
  have quiet : Quiescent (play sample stallRun) :=
    quiescent_iff_advance?.2 (by decide +kernel)
  have owned : (play sample stallRun).registry.nodes.get? "default_node" = some stalledEntry := by
    decide +kernel
  obtain ⟨id, service, serves, key, -, -, iff, -⟩ := receiver_held_iff reached quiet owned
  exact ⟨reached, quiet, owned, id, service, serves, key, iff⟩

/-- In a quiescent gateway the session that owns a node can be without the node's queue. -/
theorem exists_owner_without_receiver :
    ¬ ∀ {s : Settings} {g : Gateway}, Reachable s g → Quiescent g →
      ∀ {node : String} {entry : Entry}, g.registry.nodes.get? node = some entry →
        ∃ id service, g.service? id = some service ∧ service.key = entry.key ∧
          service.sender.holds = true := by
  intro claim
  have reached := reachable_play sample stallRun
  have quiet : Quiescent (play sample stallRun) :=
    quiescent_iff_advance?.2 (by decide +kernel)
  have owned : (play sample stallRun).registry.nodes.get? "default_node" = some stalledEntry := by
    decide +kernel
  obtain ⟨id, service, serves, key, holds⟩ := claim reached quiet owned
  have second : ((play sample stallRun).service? 1).map (fun p => (p.key, p.sender)) =
      some (stalledEntry.key, .waiting) := by
    decide +kernel
  obtain ⟨other, serves', same⟩ := Option.map_eq_some_iff.1 second
  obtain ⟨key', waiting⟩ := Prod.mk.inj same
  have tenancy := tenancy_of_attained (attained_of_reachable reached)
  obtain rfl := tenancy.keysApart serves serves' (key.trans key'.symm)
  obtain rfl := Option.some.inj (serves.symm.trans serves')
  rw [waiting] at holds
  exact absurd holds (by simp [Sender.holds])

end Switchboard.Gateway
