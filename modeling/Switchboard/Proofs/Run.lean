import Mathlib.Tactic.ByContra
import Switchboard.Proofs.Change

/-!
# Playing runs, and quiescence

A run can be given as a list of actions and played (`Gateway.play`), and whether a gateway is
quiescent can be told from the moves that `Gateway.settle` tries (`quiescent_iff_advance?`): where
none of them can be taken, no move at all can.
-/

set_option autoImplicit false

namespace Switchboard.Gateway

/-- The gateway after an action. One that cannot happen does nothing. -/
def perform (g : Gateway) (a : Action) : Gateway := (g.act? a).getD g

/-- The gateway after these actions, from the start. -/
def play (s : Settings) (actions : List Action) : Gateway := actions.foldl perform (.start s)

/-- Some settings to play runs with. -/
def sample : Settings :=
  { queueCapacity := 4
    gatewayNumber := 1
    dispatchLimit := 1000
    sessionLimit := 1000
    handshakeMillis := 1000 }

/-- A keepalive on its way: a worker that opens its stream with it has the default identity. -/
def keepaliveFrame : List UInt8 := [0, 0, 0, 8, 1, 50, 0, 0, 0, 0, 0, 0]

/-- A `Register` on its way, for the node `b` under the default group. -/
def secondFrame : List UInt8 :=
  [0, 0, 0, 25, 1, 49, 0, 0, 0, 17] ++ "\x7b\"client_id\":\"b\"\x7d".toUTF8.toList ++ [0, 0]

/-- A control signal on its way. -/
def restartFrame : List UInt8 := [0, 0, 0, 8, 1, 51, 0, 0, 0, 0, 0, 0]

/-- A gauge that is to be set is set. -/
def reported (reporter : Reporter) : List Action :=
  [.move (.tally reporter), .move (.publish reporter)]

/-- A worker connects, says who it is with these bytes, and gets the receiver of its node's queue
unless another connection has it. -/
def join (id : SessionId) (buffer : Nat) (hello : List UInt8) : List Action :=
  [.input (.connect buffer), .input (.send id hello), .move (.greet id)] ++
    reported (.session id) ++ [.move (.acquire id)]

/-- A caller sends an envelope, and the gauge shows its slot. -/
def ask (id : DispatchId) (group : String) (e : Envelope) (timeout : Nat) : List Action :=
  .input (.dispatch group e timeout) :: reported (.dispatch id)

/-- A dispatch whose result is certain returns, and the gauge follows. -/
def returned (id : DispatchId) : List Action :=
  .move (.conclude id) :: reported (.dispatch id)

/-- A session takes the next envelope of its queue. -/
def fetch (id : SessionId) : List Action := [.move (.reach id), .move (.take id)]

section Run

variable {s : Settings} {g g' : Gateway}

theorem reachable_of_act? {a : Action} (h : Reachable s g) (step : g.act? a = some g') :
    Reachable s g' := by
  cases a with
  | input i =>
    obtain rfl := Option.some.inj step
    exact .input i h
  | move m => exact .move m h step

theorem reachable_perform (h : Reachable s g) (a : Action) : Reachable s (g.perform a) := by
  unfold perform
  cases step : g.act? a with
  | none => exact h
  | some g' => exact reachable_of_act? h step

/-- What is played is a run. -/
theorem reachable_play (s : Settings) (actions : List Action) : Reachable s (play s actions) := by
  have from' : ∀ (actions : List Action) {g : Gateway}, Reachable s g →
      Reachable s (actions.foldl perform g) := by
    intro actions
    induction actions with
    | nil => exact fun h => h
    | cons a rest ih => exact fun h => ih (reachable_perform h a)
  exact from' actions .start

/-! ## Quiescence -/

/-- A session that can greet, or serves, goes on. -/
theorem mem_moves_of_session {id : SessionId} {m : Move} (mem : m ∈ sessionMoves id)
    (live : (g.sessions[id]?).any (·.isLive) = true) : m ∈ g.moves := by
  have lt : id < g.sessions.length := by
    by_contra beyond
    rw [List.getElem?_eq_none (Nat.le_of_not_lt beyond)] at live
    exact absurd live (by simp)
  unfold moves
  refine List.mem_append_left _ (List.mem_append_left _ (List.mem_append_right _ ?_))
  exact List.mem_flatMap.2 ⟨id, List.mem_filter.2 ⟨List.mem_range.2 lt, live⟩, mem⟩

theorem mem_moves_of_dispatch {id : DispatchId} {d : Dispatch} {m : Move}
    (mem : m ∈ dispatchMoves id) (here : g.dispatches[id]? = some d)
    (live : d.progress.isOpen = true) : m ∈ g.moves := by
  obtain ⟨lt, -⟩ := List.getElem?_eq_some_iff.1 here
  unfold moves
  refine List.mem_append_left _ (List.mem_append_right _ ?_)
  refine List.mem_flatMap.2 ⟨id, List.mem_filter.2 ⟨List.mem_range.2 lt, ?_⟩, mem⟩
  simp [here, live]

theorem mem_moves_of_heartbeat {id : HeartbeatId} {b : Heartbeat} {m : Move}
    (mem : m ∈ heartbeatMoves id) (here : g.heartbeats[id]? = some b)
    (beating : b.pulse = .beating) : m ∈ g.moves := by
  obtain ⟨lt, -⟩ := List.getElem?_eq_some_iff.1 here
  unfold moves
  refine List.mem_append_right _ ?_
  refine List.mem_flatMap.2 ⟨id, List.mem_filter.2 ⟨List.mem_range.2 lt, ?_⟩, mem⟩
  simp [here, beating]

/-- Whoever is to set a gauge is among those whose moves are tried. -/
theorem mem_moves_of_report {r : Reporter} {number : Option Nat} {m : Move}
    (mem : m ∈ reportMoves r) (due : g.reports.get? r = some number) : m ∈ g.moves := by
  unfold moves
  refine List.mem_append_left _ (List.mem_append_left _ (List.mem_append_left _
    (List.mem_append_left _ ?_)))
  exact List.mem_flatMap.2
    ⟨r, List.mem_map.2 ⟨_, Assoc.mem_of_get?_eq_some due, rfl⟩, mem⟩

/-- Only a heartbeat that beats takes a move. -/
theorem exists_beating_of_step? {id : HeartbeatId} {m : Move} (mem : m ∈ heartbeatMoves id)
    (step : g.step? m = some g') : ∃ b, g.heartbeats[id]? = some b ∧ b.pulse = .beating := by
  simp only [heartbeatMoves, List.mem_cons, List.not_mem_nil, or_false] at mem
  rcases mem with rfl | rfl
  all_goals
    obtain ⟨b, here, step⟩ := Option.bind_eq_some_iff.1 step
    split at step
    · rename_i due
      exact ⟨b, here, due.1⟩
    · exact absurd step (by simp)

/-- A dispatch that has candidates left can try the first. -/
theorem place_zero {id : DispatchId} {d : Dispatch} {c : Candidate} {left : List Candidate}
    (here : g.dispatches[id]? = some d) (placing : d.progress = .placing (c :: left)) :
    ∃ g', g.place id 0 = some g' := by
  unfold place
  simp only [here, placing, Option.bind_eq_bind, Option.bind_some, List.getElem?_cons_zero]
  split
  · split <;> exact ⟨_, rfl⟩
  · exact ⟨_, rfl⟩

/-- A gateway that can take a move can take one of those that settling tries. -/
theorem exists_mem_moves {m : Move} (h : g.move? m = some g') :
    ∃ m ∈ g.moves, ∃ g'', g.move? m = some g'' := by
  obtain ⟨free, step⟩ := move?_eq_some.1 h
  have session : ∀ id : SessionId, m ∈ sessionMoves id → ∃ m ∈ g.moves, ∃ g'', g.move? m = some g'' :=
    fun _ mem => ⟨m, mem_moves_of_session mem (deed_of_step? mem step).isLive, g', h⟩
  have dispatch : ∀ id : DispatchId, m ∈ dispatchMoves id →
      ∃ m ∈ g.moves, ∃ g'', g.move? m = some g'' := by
    intro id mem
    obtain ⟨d, here, turn⟩ := turn_of_step? (dispatch?_of_mem mem) step
    exact ⟨m, mem_moves_of_dispatch mem here turn.isOpen, g', h⟩
  have heartbeat : ∀ id : HeartbeatId, m ∈ heartbeatMoves id →
      ∃ m ∈ g.moves, ∃ g'', g.move? m = some g'' := by
    intro id mem
    obtain ⟨b, here, beating⟩ := exists_beating_of_step? mem step
    exact ⟨m, mem_moves_of_heartbeat mem here beating, g', h⟩
  cases m with
  | greet id => exact session id (by simp [sessionMoves])
  | giveUp id => exact session id (by simp [sessionMoves])
  | halt id => exact session id (by simp [sessionMoves])
  | receive id => exact session id (by simp [sessionMoves])
  | acquire id => exact session id (by simp [sessionMoves])
  | retire id => exact session id (by simp [sessionMoves])
  | reach id => exact session id (by simp [sessionMoves])
  | take id => exact session id (by simp [sessionMoves])
  | write id => exact session id (by simp [sessionMoves])
  | place id choice =>
    obtain ⟨d, here, turn⟩ := turn_of_place step
    -- settling tries the first candidate only, whichever one this move took
    have first : ∀ {left c}, d.progress = .placing left → left[choice]? = some c →
        ∃ g', g.move? (.place id 0) = some g' := by
      intro left c placing among
      cases left with
      | nil => exact absurd among (by simp)
      | cons first rest =>
        obtain ⟨g'', placed⟩ := place_zero here placing
        exact ⟨g'', move?_eq_some.2 ⟨free, placed⟩⟩
    refine ⟨.place id 0, mem_moves_of_dispatch (by simp [dispatchMoves]) here turn.isOpen, ?_⟩
    cases turn with
    | passed placing chosen shut => exact first placing chosen
    | placed placing chosen live pushed => exact first placing chosen
    | joined placing chosen live full => exact first placing chosen
  | exhaust id => exact dispatch id (by simp [dispatchMoves])
  | moveOn id => exact dispatch id (by simp [dispatchMoves])
  | collect id => exact dispatch id (by simp [dispatchMoves])
  | expire id => exact dispatch id (by simp [dispatchMoves])
  | conclude id => exact dispatch id (by simp [dispatchMoves])
  | beat id => exact heartbeat id (by simp [heartbeatMoves])
  | stopBeat id => exact heartbeat id (by simp [heartbeatMoves])
  | tally r =>
    obtain ⟨due, -⟩ := tally_eq_some step
    exact ⟨_, mem_moves_of_report (by simp [reportMoves]) due, _, h⟩
  | publish r =>
    obtain ⟨number, due, -⟩ := publish_eq_some step
    exact ⟨_, mem_moves_of_report (by simp [reportMoves]) due, _, h⟩

/-- Where none of the moves that settling tries can be taken, no move can. -/
theorem quiescent_iff_advance? : Quiescent g ↔ g.advance? = none := by
  unfold advance?
  rw [List.findSome?_eq_none_iff]
  constructor
  · exact fun quiet m _ => quiet m
  · intro none m
    by_contra taken
    obtain ⟨g', h⟩ := Option.ne_none_iff_exists'.1 taken
    obtain ⟨m', mem, g'', h'⟩ := exists_mem_moves h
    rw [none m' mem] at h'
    exact absurd h' (by simp)

end Run

end Switchboard.Gateway
