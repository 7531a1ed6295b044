import Switchboard.Proofs.Reporting
import Switchboard.Proofs.Stranding

/-!
# Shutdown

Once a gateway has been told to shut down it stays so, and a session that still goes on can always
end at once. So where nothing moves nobody serves any more (`Deserted`): no node is registered,
because a registered node belongs to a session that serves it, and no queue is open. A new dispatch
finds no node, and those that are open can only wait for their replies. A gateway that was told to
shut down comes to such a state by its own moves (`exists_settles_of_stopping`), each of which takes
something from what is left to do (`burden`).

Main result: `shutdown_empties`.
-/

set_option autoImplicit false

namespace Switchboard

/-! ## What is left to do -/

section Total

variable {α : Type} (amount : α → Nat) {items : List α}

/-- An item that is replaced changes the total by its own amount. -/
theorem total_set_add {i : Nat} {a : α} (here : items[i]? = some a) (b : α) :
    total amount (items.set i b) + amount a = total amount items + amount b := by
  induction items generalizing i with
  | nil => exact absurd here (by simp)
  | cons item rest ih =>
    cases i with
    | zero =>
      obtain rfl := Option.some.inj here
      rw [List.set_cons_zero, total_cons, total_cons]
      omega
    | succ i =>
      have same := ih here
      rw [List.set_cons_succ, total_cons, total_cons]
      omega

/-- An item that is replaced by a smaller one makes the total smaller. -/
theorem total_set_lt {i : Nat} {a b : α} (here : items[i]? = some a) (less : amount b < amount a) :
    total amount (items.set i b) < total amount items := by
  have same := total_set_add amount here b
  omega

section Assoc

variable {κ ν : Type} [DecidableEq κ] {weight : κ × ν → Nat} {m : Assoc κ ν} {key : κ} {old new : ν}

/-- A new value makes the total larger by itself at most. -/
theorem total_insert_le : total weight (m.insert key new) ≤ total weight m + weight (key, new) := by
  induction m with
  | nil => simp [Assoc.insert]
  | cons p rest ih =>
    obtain ⟨k, v⟩ := p
    rw [Assoc.insert]
    split
    · rw [total_cons, total_cons]
      omega
    · rw [total_cons, total_cons]
      omega

/-- A value that replaces a larger one makes the total smaller. -/
theorem total_insert_lt (there : m.get? key = some old)
    (less : weight (key, new) < weight (key, old)) :
    total weight (m.insert key new) < total weight m := by
  induction m with
  | nil => exact absurd there (by simp)
  | cons p rest ih =>
    obtain ⟨k, v⟩ := p
    rw [Assoc.get?] at there
    rw [Assoc.insert]
    split at there
    · rename_i same
      obtain rfl := Option.some.inj there
      rw [if_pos same, total_cons, total_cons, same]
      omega
    · rename_i other
      have fewer := ih there
      rw [if_neg other, total_cons, total_cons]
      omega

theorem total_filter_le (keep : α → Bool) : total amount (items.filter keep) ≤ total amount items := by
  induction items with
  | nil => exact Nat.le_refl _
  | cons item rest ih =>
    rw [List.filter_cons]
    split
    · rw [total_cons, total_cons]
      omega
    · rw [total_cons]
      omega

/-- The total is smaller without a value that counts. -/
theorem total_erase_lt (there : m.get? key = some old) (counts : 0 < weight (key, old)) :
    total weight (m.erase key) < total weight m := by
  induction m with
  | nil => exact absurd there (by simp)
  | cons p rest ih =>
    obtain ⟨k, v⟩ := p
    rw [Assoc.get?] at there
    rw [Assoc.erase, List.filter_cons]
    split at there
    · rename_i same
      obtain rfl := Option.some.inj there
      have fewer : total weight (rest.filter fun p => !decide (p.1 = key)) ≤ total weight rest :=
        total_filter_le weight _
      rw [if_neg (by simp [same]), total_cons, same]
      omega
    · rename_i other
      have fewer := ih there
      rw [Assoc.erase] at fewer
      rw [if_pos (by simp [other]), total_cons, total_cons]
      omega

end Assoc

end Total

/-- What a session has left to do: it ends and sets the gauge of the nodes, and a sender that reaches
for its queue takes an envelope before. -/
def Session.burden (s : Session) : Nat :=
  match s.phase with
  | .greeting _ => 3
  | .serving service => if service.sender = .reaching then 4 else 3
  | .ended _ | .brokenDown => 0

theorem Session.le_burden (s : Session) (live : s.isLive = true) : 3 ≤ s.burden := by
  unfold Session.burden
  cases phase : s.phase with
  | greeting deadline => exact Nat.le_refl 3
  | serving service =>
    dsimp only
    split <;> decide
  | ended reason => simp [Session.isLive, phase] at live
  | brokenDown => simp [Session.isLive, phase] at live

/-- The end of a heartbeat that beats is left to do. -/
def Heartbeat.burden (b : Heartbeat) : Nat := if b.pulse = .beating then 1 else 0

/-- The steps that a dispatch can take where no queue is open. The last three are that it returns and
sets the gauge of the pending replies. -/
def Progress.burden : Progress → Nat
  | .placing left => left.length + 4
  | .blocked _ left => left.length + 5
  | .awaiting => 4
  | .resolved _ => 3
  | .done _ | .cancelled => 0

/-- The steps that it takes to set a gauge. -/
def Gateway.reportBurden (report : Reporter × Option Nat) : Nat := if report.2.isSome then 1 else 2

namespace Gateway

/-- The steps that a gateway can take where no worker is served. -/
def burden (g : Gateway) : Nat :=
  total Session.burden g.sessions + total Heartbeat.burden g.heartbeats +
    total (fun d => d.progress.burden) g.dispatches + total reportBurden g.reports

/-- Moves alone lead from one state to the other. -/
def Moves (g g' : Gateway) : Prop := Relation.ReflTransGen (fun g g' => ∃ m, g.move? m = some g') g g'

/-- No session goes on. -/
def Deserted (g : Gateway) : Prop := ∀ {id : SessionId} {t}, g.sessions[id]? = some t → t.isLive = false

/-! ## Signals stay -/

section Signals

variable {g g' : Gateway}

theorem signals_letIn (waiting : Option DispatchId) (queue : QueueId) :
    (g.letIn waiting queue).stopping = g.stopping ∧
      (g.letIn waiting queue).beatsStopping = g.beatsStopping := by
  rcases letIn_cases g waiting queue with ⟨eq, -⟩ | ⟨caller, d, -, -, eq⟩ <;> rw [eq] <;>
    exact ⟨rfl, rfl⟩

/-- A gateway that was told to stop is not told otherwise. -/
theorem stopping_of_change (c : Change g g') (stopping : g.stopping = true) :
    g'.stopping = true := by
  cases c with
  | aside drops later stops stills => exact stops stopping
  | took here serving reaching popped encoded => exact (signals_letIn _ _).1.trans stopping
  | skipped here serving reaching popped unwritable =>
    exact (signals_letIn _ _).1.trans stopping
  | _ => exact stopping

theorem beatsStopping_of_change (c : Change g g') (stopping : g.beatsStopping = true) :
    g'.beatsStopping = true := by
  cases c with
  | aside drops later stops stills => exact stills stopping
  | took here serving reaching popped encoded => exact (signals_letIn _ _).2.trans stopping
  | skipped here serving reaching popped unwritable =>
    exact (signals_letIn _ _).2.trans stopping
  | _ => exact stopping

/-- Both signals are set for good. -/
theorem signals_of_changes (run : Changes g g') (stopping : g.stopping = true)
    (stilling : g.beatsStopping = true) : g'.stopping = true ∧ g'.beatsStopping = true := by
  induction run with
  | refl => exact ⟨stopping, stilling⟩
  | tail _ c ih => exact ⟨stopping_of_change c ih.1, beatsStopping_of_change c ih.2⟩

end Signals

/-! ## Sessions that end -/

section Halting

variable {s : Settings} {g g' : Gateway} {id : SessionId} {t : Session}

/-- The closing actions of a session concern the registry, the metrics and the journal, and the gauge
of the nodes is to be set then. -/
theorem exists_close_eq (g : Gateway) (id : SessionId) (service : Service) :
    ∃ registry metrics reports journal,
      g.close id service = { g with registry, metrics, reports, journal } ∧
        total reportBurden reports ≤ total reportBurden g.reports + 2 := by
  rw [close]
  split
  · exact ⟨_, _, _, _, rfl, Nat.le_add_right _ _⟩
  · rcases deregister_shape (g := g) id service with
      ⟨current, metrics, -, -, eq⟩ | ⟨members, q, -, -, eq⟩
    · exact ⟨_, _, _, _, eq, total_insert_le⟩
    · exact ⟨_, _, _, _, eq, total_insert_le⟩

/-- A session that goes on ends at once when the gateway is told to stop, and nothing else ends. -/
theorem exists_halt (stopping : g.stopping = true) (here : g.sessions[id]? = some t)
    (live : t.isLive = true) :
    ∃ g', g.halt id = some g' ∧ g'.sessions = g.sessions.set id { t with phase := .ended .shutdown } ∧
      g'.heartbeats = g.heartbeats ∧ g'.dispatches = g.dispatches ∧
      total reportBurden g'.reports ≤ total reportBurden g.reports + 2 := by
  cases phase : t.phase with
  | greeting deadline =>
    have waits : g.greeting? id = some (t, deadline) := greeting?_eq_some.2 ⟨here, phase⟩
    have free : g.serving? id = none := by
      rw [serving?, here]
      simp [phase]
    exact ⟨g.dismiss id t .shutdown, by rw [halt, if_pos stopping, free, waits], rfl, rfl, rfl,
      Nat.le_add_right _ _⟩
  | serving service =>
    have serves : g.serving? id = some (t, service) := serving?_eq_some.2 ⟨here, phase⟩
    refine ⟨g.finish id t service .shutdown, by rw [halt, if_pos stopping, serves], ?_⟩
    obtain ⟨registry, metrics, reports, journal, eq, few⟩ := exists_close_eq g id service
    rw [finish, eq]
    exact ⟨rfl, rfl, rfl, few⟩
  | ended reason => simp [Session.isLive, phase] at live
  | brokenDown => simp [Session.isLive, phase] at live

/-- Where nothing moves after the signal, no session goes on. -/
theorem Quiescent.deserted (quiet : Quiescent g) (stopping : g.stopping = true) : Deserted g := by
  intro id t here
  by_contra live
  obtain ⟨g', halts, -⟩ := exists_halt stopping here (by simpa using live)
  exact absurd ((quiet.step? (.halt id)).symm.trans halts) (by simp)

/-- Where nothing moves after the signal, no heartbeat beats. -/
theorem Quiescent.not_beating (quiet : Quiescent g) (stopping : g.beatsStopping = true)
    {b : Heartbeat} (mem : b ∈ g.heartbeats) : b.pulse ≠ .beating := by
  intro beating
  obtain ⟨id, here⟩ := List.getElem?_of_mem mem
  have none : g.stopBeat id = none := quiet.step? (.stopBeat id)
  simp [stopBeat, here, beating, stopping] at none

/-- Nobody serves a node where no session goes on. -/
theorem Deserted.service?_eq_none (d : Deserted g) (id : SessionId) : g.service? id = none := by
  by_contra some
  obtain ⟨service, serves⟩ := Option.ne_none_iff_exists'.1 some
  obtain ⟨t, here, phase⟩ := service?_eq_some.1 serves
  have ended := d here
  simp [Session.isLive, phase] at ended

/-- A registered node belongs to a session that serves it, so none is left. -/
theorem Deserted.get?_eq_none (d : Deserted g) (tenancy : Tenancy g) (node : String) :
    g.registry.nodes.get? node = none := by
  by_contra some
  obtain ⟨entry, registered⟩ := Option.ne_none_iff_exists'.1 some
  obtain ⟨id, service, first, serves, -⟩ := tenancy.owned registered
  exact absurd (serves.symm.trans (d.service?_eq_none id)) (by simp)

theorem Deserted.nodes_eq_nil (d : Deserted g) (tenancy : Tenancy g) : g.registry.nodes = [] := by
  cases nodes : g.registry.nodes with
  | nil => rfl
  | cons p rest =>
    have gone := d.get?_eq_none tenancy p.1
    rw [nodes] at gone
    simp [Assoc.get?] at gone

theorem Deserted.members_eq_nil (d : Deserted g) (tenancy : Tenancy g) (group : String) :
    g.registry.members group = [] := by
  rw [List.eq_nil_iff_forall_not_mem]
  intro node mem
  obtain ⟨entry, registered, -⟩ := (Registry.mem_members_iff tenancy.coherent group node).1 mem
  exact absurd (registered.symm.trans (d.get?_eq_none tenancy node)) (by simp)

theorem Deserted.candidates_eq_none (d : Deserted g) (tenancy : Tenancy g) (group : String) :
    g.registry.candidates group = none := by
  rw [Registry.candidates_eq_none_iff tenancy.coherent]
  intro node entry registered
  exact absurd (registered.symm.trans (d.get?_eq_none tenancy node)) (by simp)

/-- Neither a node nor a session keeps a queue open. -/
theorem Deserted.isOpen_eq_false (d : Deserted g) (tenancy : Tenancy g) (queue : QueueId) :
    g.isOpen queue = false := by
  by_contra opened
  rcases (isOpen_eq_true_iff tenancy.coherent queue).1 (by simpa using opened) with
    ⟨node, entry, registered, -⟩ | ⟨id, service, serves, -⟩
  · exact absurd (registered.symm.trans (d.get?_eq_none tenancy node)) (by simp)
  · exact absurd (serves.symm.trans (d.service?_eq_none id)) (by simp)

end Halting

/-! ## Dispatches where nobody serves -/

section Dispatches

variable {s : Settings} {g later : Gateway} {id : DispatchId} {x : Dispatch}

/-- Where nothing moves and nobody serves, an open dispatch waits for its reply, and not too long. -/
theorem Quiescent.awaiting_of_isOpen (quiet : Quiescent g) (deserted : Deserted g)
    (tenancy : Tenancy g) (here : g.dispatches[id]? = some x) (live : x.progress.isOpen = true) :
    x.progress = .awaiting ∧ g.clock < x.deadline := by
  constructor
  · cases progress : x.progress with
    | placing left => exact absurd progress (quiet.not_placing here left)
    | blocked queue left =>
      have opened := quiet.isOpen_of_blocked here progress
      exact absurd (opened.symm.trans (deserted.isOpen_eq_false tenancy queue)) (by simp)
    | awaiting => rfl
    | resolved result =>
      have done : x.progress = .done result := quiet.done_of_certain here (by rw [progress]; rfl)
      exact absurd (progress.symm.trans done) (by simp)
    | done result => simp [progress, Progress.isOpen] at live
    | cancelled => simp [progress, Progress.isOpen] at live
  · by_contra due
    have stopped := quiet.over_of_due here (Nat.le_of_not_lt due)
    exact absurd (live.symm.trans stopped) (by simp)

/-- A dispatch that is over has no slot. -/
theorem waiter?_ne_of_over (attained : Attained s g) (here : g.dispatches[id]? = some x)
    (stopped : x.progress.isOpen = false) {claim : Correlation.Claim} (claimed : x.claim = some claim) :
    g.replies.waiter? claim.id ≠ some claim.ticket := by
  intro waits
  have posted := posted_of_attained attained
  have mine : g.claim? id = some claim := (claim?_of_here here).trans claimed
  rw [posted.slots, Option.bind_eq_some_iff] at waits
  obtain ⟨holder, slot, ticket⟩ := waits
  obtain ⟨other, theirs, same⟩ := Option.map_eq_some_iff.1 ticket
  -- the ticket tells whose slot it is
  obtain rfl := posted.apart theirs mine same
  obtain ⟨-, y, there, live, -⟩ := posted.holds slot
  obtain rfl := Option.some.inj (here.symm.trans there)
  exact absurd (live.symm.trans stopped) (by simp)

/-- Where no dispatch is open there are no slots. -/
theorem slots_eq_nil_of_over (attained : Attained s g)
    (stopped : ∀ {id : DispatchId} {x}, g.dispatches[id]? = some x → x.progress.isOpen = false) :
    g.replies.slots = [] := by
  have posted := posted_of_attained attained
  rw [← List.map_eq_nil_iff (f := fun slot => slot.1), List.eq_nil_iff_forall_not_mem]
  intro c mem
  obtain ⟨ticket, waits⟩ := Correlation.Table.mem_ids_iff.1 mem
  rw [posted.slots, Option.bind_eq_some_iff] at waits
  obtain ⟨id, slot, -⟩ := waits
  obtain ⟨-, x, here, live, -⟩ := posted.holds slot
  exact absurd (live.symm.trans (stopped here)) (by simp)

/-- The ways in which the result of a dispatch becomes certain: it fails when it starts, or gets its
reply, runs out of time, or runs out of candidates. -/
theorem certain_cases (h : Reachable s g) (here : g.dispatches[id]? = some x)
    {result : DispatchResult} (certain : x.progress.result? = some result) :
    (∃ cause, result = .error cause ∧ cause.isPrompt = true) ∨ (∃ e, result = .ok e) ∨
      result = .error (.timeout x.timeout) ∨
      result = .error (.dispatchFailed x.group x.attempts) := by
  induction h using Reachable.act_induction generalizing x with
  | start => exact absurd here (by simp [start])
  | @step g a g' before after act ih =>
    cases decided_of_act act here certain with
    | @before y there certain' =>
      -- it has the terms that it had
      obtain ⟨progress, here'⟩ := dispatch_of_changes (changes_of_act act) there
      obtain rfl := Option.some.inj (here'.symm.trans here)
      exact ih (x := y) there certain'
    | now there undecided same ending clock =>
      subst same
      cases ending with
      | exhausted => exact Or.inr (Or.inr (Or.inr rfl))
      | replied seen => exact Or.inr (Or.inl ⟨_, rfl⟩)
      | abandoned seen => exact Or.inr (Or.inr (Or.inl rfl))
      | lapsed due => exact Or.inr (Or.inr (Or.inl rfl))
    | @start group e timeout starts latest =>
      subst starts latest
      obtain rfl := Option.some.inj act
      obtain ⟨claim, attempts, progress, started, opening, -⟩ := exists_started g group e timeout
      obtain rfl := Option.some.inj (started.symm.trans here)
      generalize (g.input (.dispatch group e timeout)).replies = replies at opening
      cases opening with
      | placing opened fits seen => exact absurd certain (by simp [Progress.result?])
      | _ => exact Or.inl ⟨_, (Option.some.inj certain).symm, rfl⟩

/-- How a dispatch that was open ended: with a reply, out of time, out of candidates, or without its
caller, if it had not failed when it started. -/
theorem outcome_of_leads {x₀ : Dispatch} (h : Reachable s later) (run : Leads g later)
    (started : g.dispatches[id]? = some x₀) (here : later.dispatches[id]? = some x)
    (stopped : x.progress.isOpen = false) :
    (∃ e, x.progress = .done (.ok e)) ∨ x.progress = .done (.error (.timeout x.timeout)) ∨
      x.progress = .done (.error (.dispatchFailed x.group x.attempts)) ∨ x.progress = .cancelled ∨
      ∃ cause, cause.isPrompt = true ∧ x₀.progress.result? = some (.error cause) ∧
        x.progress = .done (.error cause) := by
  rcases Progress.result?_of_over stopped with ⟨result, done⟩ | gone
  · have certain : x.progress.result? = some result := by rw [done]; rfl
    rcases certain_cases h here certain with ⟨cause, rfl, shows⟩ | ⟨e, rfl⟩ | rfl | rfl
    · refine Or.inr (Or.inr (Or.inr (Or.inr ⟨cause, shows, ?_, done⟩)))
      exact prompt_of_leads run started here certain shows
    · exact Or.inl ⟨e, done⟩
    · exact Or.inr (Or.inl done)
    · exact Or.inr (Or.inr (Or.inl done))
  · exact Or.inr (Or.inr (Or.inr (Or.inl gone)))

/-- A dispatch that begins where nobody serves finds no node, unless its envelope is too large or its
id is taken. -/
theorem Deserted.dispatch (deserted : Deserted g) (attained : Attained s g) (group : String)
    (e : Envelope) (timeout : Nat)
    (fits : Wire.bodySize (e.stamped g.ids.next.1) ≤ g.settings.dispatchLimit) :
    ∃ x result, (g.input (.dispatch group e timeout)).dispatches = g.dispatches ++ [x] ∧
      x.progress = .resolved result ∧
      (result = .error (.groupNotFound group) ∨
        result = .error (.collision g.ids.next.1) ∧ 2 ^ 48 ≤ g.dispatches.length + 1) := by
  obtain ⟨claim, attempts, progress, dispatches, opening, -⟩ := dispatch_opening g group e timeout
  generalize (g.dispatch group e timeout).replies = replies at opening
  cases opening with
  | collided taken =>
    refine ⟨_, _, dispatches, rfl, Or.inr ⟨rfl, ?_⟩⟩
    by_contra few
    obtain ⟨claim, replies, opened⟩ := open?_isSome attained (Nat.lt_of_not_le few)
    exact absurd (taken.symm.trans opened) (by simp)
  | tooLarge opened large => exact absurd fits (Nat.not_le_of_lt large)
  | groupNotFound opened fits nobody => exact ⟨_, _, dispatches, rfl, Or.inl rfl⟩
  | placing opened fits seen =>
    have nobody := deserted.candidates_eq_none (tenancy_of_attained attained) group
    exact absurd (nobody.symm.trans seen) (by simp)

end Dispatches

/-! ## Settling -/

section Settling

variable {s : Settings} {g g' : Gateway}

/-- A dispatch that gets on has less left to do. -/
theorem burden_lt_of_set {id : DispatchId} {d : Dispatch} {progress : Progress}
    (here : g.dispatches[id]? = some d) (sessions : g'.sessions = g.sessions)
    (heartbeats : g'.heartbeats = g.heartbeats) (reports : g'.reports = g.reports)
    (dispatches : g'.dispatches = g.dispatches.set id { d with progress })
    (less : progress.burden < d.progress.burden) : g'.burden < g.burden := by
  have fewer : total (fun d => d.progress.burden) (g.dispatches.set id { d with progress }) <
      total (fun d => d.progress.burden) g.dispatches := total_set_lt _ here less
  rw [burden, burden, sessions, heartbeats, reports, dispatches]
  omega

/-- A dispatch whose result becomes certain has only to return. -/
theorem burden_lt_of_resolve {id : DispatchId} {d : Dispatch} {result : DispatchResult}
    (here : g.dispatches[id]? = some d) (waits : d.progress.isSettled = false) :
    (g.resolve id d result).burden < g.burden := by
  refine burden_lt_of_set here rfl rfl rfl (dispatches_resolve g id d result) ?_
  cases progress : d.progress with
  | placing left => exact Nat.lt_of_lt_of_le (Nat.lt_succ_self 3) (Nat.le_add_left _ _)
  | blocked queue left => exact Nat.lt_of_lt_of_le (by decide : 3 < 5) (Nat.le_add_left _ _)
  | awaiting => exact Nat.lt_succ_self 3
  | _ => exact absurd (progress ▸ waits) (by simp [Progress.isSettled])

/-- Where no queue is open, every move of a dispatch leaves less to do. -/
theorem burden_lt_of_turn {id : DispatchId} {d : Dispatch} {m : Move}
    (here : g.dispatches[id]? = some d) (turn : Turn g id d m g')
    (shut : ∀ queue, g.isOpen queue = false) : g'.burden < g.burden := by
  cases turn with
  | @passed left choice candidate placing chosen closed =>
    refine burden_lt_of_set here rfl rfl rfl rfl ?_
    obtain ⟨lt, -⟩ := List.getElem?_eq_some_iff.1 chosen
    rw [placing, Progress.burden, Progress.burden, List.length_eraseIdx, if_pos lt]
    omega
  | placed placing chosen live pushed => exact absurd ((shut _).symm.trans live) (by simp)
  | joined placing chosen live full => exact absurd ((shut _).symm.trans live) (by simp)
  | movedOn blocked closed =>
    refine burden_lt_of_set here rfl rfl rfl rfl ?_
    rw [blocked, Progress.burden, Progress.burden]
    omega
  | exhausted placing => exact burden_lt_of_resolve here (by rw [placing]; rfl)
  | replied awaiting seen => exact burden_lt_of_resolve here (by rw [awaiting]; rfl)
  | abandoned awaiting seen => exact burden_lt_of_resolve here (by rw [awaiting]; rfl)
  | lapsed waits due => exact burden_lt_of_resolve here (Verdict.lapsed waits due).isSettled
  | @concluded result certain =>
    -- the gauge is to be set, which is less than was left to do
    have fewer : total (fun d => d.progress.burden)
        (g.dispatches.set id { d with progress := .done result }) + 3 ≤
          total (fun d => d.progress.burden) g.dispatches := by
      have same := total_set_add (fun d : Dispatch => d.progress.burden) here
        { d with progress := .done result }
      have before : d.progress.burden = 3 := by rw [certain]; rfl
      have after : { d with progress := .done result }.progress.burden = 0 := rfl
      omega
    have few : total reportBurden (g.reports.insert (.dispatch id) none) ≤
        total reportBurden g.reports + 2 := total_insert_le
    show total _ g.sessions + total _ g.heartbeats + total _ (g.dispatches.set _ _) +
      total _ (g.reports.insert _ _) < _
    rw [burden]
    omega

/-- A sender that takes an envelope reached for its queue before, and does not afterwards. -/
theorem sender_of_take {id : SessionId} (h : g.take id = some g') :
    ∃ t service sender, g.sessions[id]? = some t ∧ t.phase = .serving service ∧
      service.sender = .reaching ∧ sender ≠ .reaching ∧
      g'.sessions = g.sessions.set id { t with phase := .serving { service with sender } } ∧
      g'.heartbeats = g.heartbeats ∧ g'.reports = g.reports := by
  -- whoever is let in is a dispatch
  have rest : ∀ (service : Service) (taken : Queue.Taken DispatchId),
      (g.afterTaking id service taken).sessions = g.sessions ∧
        (g.afterTaking id service taken).heartbeats = g.heartbeats ∧
        (g.afterTaking id service taken).reports = g.reports := by
    intro service taken
    rw [afterTaking]
    rcases letIn_cases ({ g with
        registry := g.registry.setQueue service.queue taken.queue }.record
          (.taken id service.queue taken.frame)) taken.served service.queue with
      ⟨eq, -⟩ | ⟨caller, d, -, -, eq⟩ <;> rw [eq] <;> exact ⟨rfl, rfl, rfl⟩
  cases deed_of_take h with
  | dismissed reason how here greeting => exact absurd how (by simp)
  | finished reason how here serving => exact absurd how (by simp)
  | missed here serving reaching empty =>
    exact ⟨_, _, .idle, here, serving, reaching, by simp, rfl, rfl, rfl⟩
  | @took t service taken bytes here serving reaching first encoded =>
    obtain ⟨sessions, heartbeats, reports⟩ := rest service taken
    refine ⟨_, _, .writing bytes, here, serving, reaching, by simp, ?_, heartbeats, reports⟩
    show (g.afterTaking id service taken).sessions.set id _ = _
    rw [sessions]
  | @skipped t service taken cause here serving reaching first unwritable =>
    obtain ⟨sessions, heartbeats, reports⟩ := rest service taken
    refine ⟨_, _, .idle, here, serving, reaching, by simp, ?_, heartbeats, reports⟩
    show (g.afterTaking id service taken).sessions.set id _ = _
    rw [sessions]

/-- A sender that takes an envelope has one thing less to do. -/
theorem burden_lt_of_take (ledger : Ledger g) {id : SessionId} (h : g.take id = some g') :
    g'.burden < g.burden := by
  have dispatches : total (fun d => d.progress.burden) g'.dispatches ≤
      total (fun d => d.progress.burden) g.dispatches := by
    rcases dispatches_of_deed ledger (deed_of_take h) with
      same | ⟨caller, d, queue, left, there, blocked, same⟩
    · rw [same]
    · rw [same]
      refine Nat.le_of_lt (total_set_lt _ there ?_)
      rw [blocked]
      exact Nat.lt_of_lt_of_le (Nat.lt_succ_self 4) (Nat.le_add_left _ _)
  obtain ⟨t, service, sender, here, serving, reaching, other, sessions, heartbeats, reports⟩ :=
    sender_of_take h
  have fewer : total Session.burden g'.sessions < total Session.burden g.sessions := by
    rw [sessions]
    refine total_set_lt _ here ?_
    simp [Session.burden, serving, reaching, other]
  rw [burden, burden, heartbeats, reports]
  omega

/-- Where no gauge is to be set and no sender reaches for its queue, nothing is held up. -/
theorem isHeldUp_eq_false (still : ∀ r, g.isReporting r = false)
    (between : ∀ id, g.isReaching id = false) (m : Move) : g.isHeldUp m = false := by
  rw [isHeldUp]
  split
  · rw [still, between, Bool.false_and, Bool.or_false]
  · exact still _
  · rfl

/-- Who has a gauge to set has a move that leaves less to do. -/
theorem exists_move_of_reporting {r : Reporter} (due : g.isReporting r = true) :
    ∃ m g', g.move? m = some g' ∧ g'.burden < g.burden := by
  obtain ⟨number, due⟩ := Option.isSome_iff_exists.1 due
  cases number with
  | none =>
    refine ⟨.tally r, _, move?_eq_some.2 ⟨rfl, by simp only [step?, tally, due]; rfl⟩, ?_⟩
    have fewer : total reportBurden (g.reports.insert r (some (g.reading r))) <
        total reportBurden g.reports := total_insert_lt due (by simp [reportBurden])
    show total _ g.sessions + total _ g.heartbeats + total _ g.dispatches +
      total _ (g.reports.insert _ _) < _
    rw [burden]
    omega
  | some number =>
    refine ⟨.publish r, _, move?_eq_some.2 ⟨rfl, by simp only [step?, publish, due]; rfl⟩, ?_⟩
    have fewer : total reportBurden (g.reports.erase r) < total reportBurden g.reports :=
      total_erase_lt due (by simp [reportBurden])
    show total _ g.sessions + total _ g.heartbeats + total _ g.dispatches +
      total _ (g.reports.erase _) < _
    rw [burden]
    omega

/-- A heartbeat that was told to stop has a move that leaves less to do. -/
theorem exists_move_of_beating (stilling : g.beatsStopping = true) {b : Heartbeat}
    (mem : b ∈ g.heartbeats) (beating : b.pulse = .beating) :
    ∃ m g', g.move? m = some g' ∧ g'.burden < g.burden := by
  obtain ⟨id, here⟩ := List.getElem?_of_mem mem
  have fewer : total Heartbeat.burden (g.heartbeats.set id { b with pulse := .stopped }) <
      total Heartbeat.burden g.heartbeats := by
    apply total_set_lt _ here
    simp [Heartbeat.burden, beating]
  let stilled : Gateway :=
    { g with heartbeats := g.heartbeats.set id { b with pulse := .stopped } }
  refine ⟨.stopBeat id, stilled.record (.stopped id), move?_eq_some.2 ⟨rfl, ?_⟩, ?_⟩
  · simp [step?, stopBeat, here, beating, stilling, stilled]
  · simp only [burden, record, stilled]
    omega

/-- Where nothing is held up and no session goes on, a heartbeat ends or a dispatch gets on, unless
nothing moves. -/
theorem exists_move_of_deserted (attained : Attained s g) (deserted : Deserted g)
    (stilling : g.beatsStopping = true) (still : ∀ r, g.isReporting r = false)
    (restless : ¬ Quiescent g) : ∃ m g', g.move? m = some g' ∧ g'.burden < g.burden := by
  by_cases beats : ∃ b ∈ g.heartbeats, b.pulse = .beating
  · obtain ⟨b, mem, beating⟩ := beats
    exact exists_move_of_beating stilling mem beating
  · -- only dispatches can get on
    simp only [Quiescent] at restless
    push Not at restless
    obtain ⟨m, enabled⟩ := restless
    obtain ⟨g', moved⟩ := Option.ne_none_iff_exists'.1 enabled
    have idle : ∀ {r : Reporter} {number}, g.reports.get? r = some number → False := by
      intro r number due
      have quiet := still r
      rw [isReporting, due] at quiet
      exact absurd quiet (by simp)
    have quiet : ∀ id : HeartbeatId, m ∉ heartbeatMoves id := by
      intro id mem
      obtain ⟨b, here, beating⟩ := exists_beating_of_step? mem (step?_of_move? moved)
      exact beats ⟨b, List.mem_of_getElem? here, beating⟩
    cases occurs_move moved with
    | deed how mem free deed =>
      obtain ⟨t, here, live⟩ := (Option.any_eq_true _ _).1 deed.isLive
      exact absurd ((deserted here).symm.trans live) (by simp)
    | turn here free turn =>
      exact ⟨_, _, moved, burden_lt_of_turn here turn
        (deserted.isOpen_eq_false (tenancy_of_attained attained))⟩
    | tallies due => exact (idle due).elim
    | publishes due => exact (idle due).elim
    | beats id => exact absurd (by simp [heartbeatMoves]) (quiet id)
    | stops id => exact absurd (by simp [heartbeatMoves]) (quiet id)

/-- A gateway that was told to stop and is not quiescent has a move that leaves less to do: a gauge is
read for or set, a sender takes the envelope for which it reaches, a session ends, a heartbeat ends, or
a dispatch gets on. -/
theorem exists_move_of_stopping (attained : Attained s g) (stopping : g.stopping = true)
    (stilling : g.beatsStopping = true) (restless : ¬ Quiescent g) :
    ∃ m g', g.move? m = some g' ∧ g'.burden < g.burden := by
  -- gauges come first and then senders that reach for a queue, since both hold up other moves
  by_cases still : ∀ r, g.isReporting r = false
  · by_cases between : ∀ id, g.isReaching id = false
    · by_cases deserted : Deserted g
      · exact exists_move_of_deserted attained deserted stilling still restless
      · simp only [Deserted] at deserted
        push Not at deserted
        obtain ⟨id, t, here, live⟩ := deserted
        have live : t.isLive = true := by simpa using live
        obtain ⟨g', halts, sessions, heartbeats, dispatches, few⟩ := exists_halt stopping here live
        refine ⟨.halt id, g', move?_eq_some.2 ⟨isHeldUp_eq_false still between _, halts⟩, ?_⟩
        have fewer := total_set_add Session.burden here
          { t with phase := .ended .shutdown }
        have much := t.le_burden live
        have nothing : Session.burden { t with phase := .ended .shutdown } = 0 := rfl
        rw [burden, burden, sessions, heartbeats, dispatches]
        omega
    · push Not at between
      obtain ⟨id, reaching⟩ := between
      have reaching : g.isReaching id = true := by simpa using reaching
      obtain ⟨t, service, here, serving, sender⟩ := isReaching_eq_true.1 reaching
      obtain ⟨g', taken⟩ := exists_take here serving sender
      refine ⟨.take id, g', move?_eq_some.2 ⟨?_, taken⟩,
        burden_lt_of_take (ledger_of_attained attained) taken⟩
      simp [isHeldUp, Move.reporter?, still]
  · push Not at still
    obtain ⟨r, due⟩ := still
    exact exists_move_of_reporting (by simpa using due)

/-- A gateway that was told to stop comes to rest by its own moves. -/
theorem exists_settles_of_stopping (h : Reachable s g) (stopping : g.stopping = true)
    (stilling : g.beatsStopping = true) : ∃ quiet, Moves g quiet ∧ Quiescent quiet := by
  -- on what is left to do: some move leaves less, or there is none
  induction size : g.burden using Nat.strong_induction_on generalizing g with
  | _ n ih =>
    by_cases quiet : Quiescent g
    · exact ⟨g, .refl, quiet⟩
    · obtain ⟨m, g', step, less⟩ :=
        exists_move_of_stopping (attained_of_reachable h) stopping stilling quiet
      obtain ⟨stopping, stilling⟩ :=
        signals_of_changes (changes_of_act (a := .move m) step) stopping stilling
      obtain ⟨quiet, run, rest⟩ := ih g'.burden (size ▸ less) (.move m h step) stopping stilling rfl
      exact ⟨quiet, .head ⟨m, step⟩ run, rest⟩

end Settling

/-- After a shutdown a gateway comes to rest from wherever it is, by its own moves, and where it rests
nothing is left: no session goes on, whatever it was doing and even if its stream was opened after the
signal, no node is registered, no group has a member, and no heartbeat beats. A dispatch that begins
there with an envelope within the limit returns that its group has no node (its id can only be taken
after 2^48 dispatches). A dispatch that was open at the signal or at any other time waits for its
reply before its deadline, or ended in its reply, in a timeout, for want of candidates, or without
its caller, unless it had failed when it started and was about to return that. No dispatch that is
over has a slot, and when all are over there are no slots. -/
theorem shutdown_empties {s : Settings} {g later : Gateway} (h : Reachable s g)
    (run : Leads (g.input .shutdown) later) :
    (∃ quiet, Moves later quiet ∧ Quiescent quiet) ∧
      (Quiescent later →
        (∀ {id : SessionId} {t}, later.sessions[id]? = some t → t.isLive = false) ∧
        (later.registry.nodes = [] ∧ ∀ group, later.registry.members group = []) ∧
        (∀ b ∈ later.heartbeats, b.pulse ≠ .beating) ∧
        (∀ group e timeout, Wire.bodySize (e.stamped later.ids.next.1) ≤ s.dispatchLimit →
          ∃ x result,
            (later.input (.dispatch group e timeout)).dispatches = later.dispatches ++ [x] ∧
            x.progress = .resolved result ∧
            (result = .error (.groupNotFound group) ∨
              result = .error (.collision later.ids.next.1) ∧
                2 ^ 48 ≤ later.dispatches.length + 1) ∧
            ∀ {last}, Leads (later.input (.dispatch group e timeout)) last → Quiescent last →
              ∃ y, last.dispatches[later.dispatches.length]? = some y ∧
                y.progress = .done result) ∧
        (∀ {mid : Gateway}, Leads mid later →
          ∀ {id : DispatchId} {x₀}, mid.dispatches[id]? = some x₀ → x₀.progress.isOpen = true →
            ∃ x, later.dispatches[id]? = some x ∧
              (x.progress = .awaiting ∧ later.clock < x.deadline ∨
                (∃ e, x.progress = .done (.ok e)) ∨
                x.progress = .done (.error (.timeout x.timeout)) ∨
                x.progress = .done (.error (.dispatchFailed x.group x.attempts)) ∨
                x.progress = .cancelled ∨
                ∃ cause, cause.isPrompt = true ∧ x₀.progress.result? = some (.error cause) ∧
                  x.progress = .done (.error cause))) ∧
        (∀ {id : DispatchId} {x claim}, later.dispatches[id]? = some x →
          x.progress.isOpen = false → x.claim = some claim →
            later.replies.waiter? claim.id ≠ some claim.ticket) ∧
        ((∀ {id : DispatchId} {x}, later.dispatches[id]? = some x → x.deadline ≤ later.clock) →
          later.replies.slots = [])) := by
  have reached : Reachable s later := reachable_of_leads (.input .shutdown h) run
  have attained := attained_of_reachable reached
  have tenancy := tenancy_of_attained attained
  obtain ⟨stopping, stilling⟩ := signals_of_changes (changes_of_leads run) rfl rfl
  refine ⟨exists_settles_of_stopping reached stopping stilling, fun quiet => ?_⟩
  have deserted : Deserted later := quiet.deserted stopping
  refine ⟨deserted, ⟨deserted.nodes_eq_nil tenancy, deserted.members_eq_nil tenancy⟩,
    fun b mem => quiet.not_beating stilling mem, ?begins, ?flight,
    fun here stopped claimed => waiter?_ne_of_over attained here stopped claimed, ?slots⟩
  case begins =>
    intro group e timeout fits
    rw [← settings_of_attained attained] at fits
    obtain ⟨x, result, begun, certain, how⟩ := deserted.dispatch attained group e timeout fits
    refine ⟨x, result, begun, certain, how, fun {last} after quiet' => ?_⟩
    have started : (later.input (.dispatch group e timeout)).dispatches[later.dispatches.length]? =
        some x := by
      rw [begun, List.getElem?_concat_length]
    obtain ⟨y, there, same⟩ := certain_of_leads (.input _ reached) after started
      (by rw [certain]; rfl : x.progress.result? = some result)
    exact ⟨y, there, quiet'.done_of_certain there same⟩
  case flight =>
    intro mid between id x₀ started live
    obtain ⟨progress, here⟩ := dispatch_of_changes (changes_of_leads between) started
    refine ⟨_, here, ?_⟩
    cases stopped : progress.isOpen with
    | true => exact Or.inl (quiet.awaiting_of_isOpen deserted tenancy here stopped)
    | false => exact Or.inr (outcome_of_leads reached between started here stopped)
  case slots =>
    intro due
    apply slots_eq_nil_of_over attained
    intro id x here
    exact quiet.over_of_due here (due here)

/-- A worker serves its node, another only connected, a heartbeat beats, and a dispatch is in flight. -/
def busyStart : Gateway :=
  play sample (join 0 100 keepaliveFrame ++
    [.input (.startHeartbeat 500), .input (.connect 100)] ++
    ask 0 "default_group" { command := .getItem } 1000 ++ [.move (.place 0 0)] ++ fetch 0)

/-- After the signal one more worker connects, all sessions and the heartbeat end, and the dispatch
runs out of time. -/
def busyEnd : Gateway :=
  ([Action.input (.connect 100), .input (.send 2 keepaliveFrame), .move (.greet 2)] ++
    reported (.session 2) ++
    [Action.move (.halt 0), .move (.halt 1), .move (.halt 2), .move (.stopBeat 0)] ++
    reported (.session 0) ++ reported (.session 2) ++
    [Action.input (.elapse 1000), .move (.expire 0)] ++ returned 0).foldl perform
    (busyStart.input .shutdown)

theorem shutdown_empties_busyEnd :
    Reachable sample busyStart ∧ Leads (busyStart.input .shutdown) busyEnd ∧ Quiescent busyEnd ∧
      busyStart.registry.nodes ≠ [] ∧ busyEnd.registry.nodes = [] ∧
      busyEnd.sessions.length = 3 ∧
      (∀ {id : SessionId} {t}, busyEnd.sessions[id]? = some t → t.isLive = false) ∧
      busyEnd.replies.slots = [] ∧
      ∃ x, (busyEnd.input (.dispatch "default_group" { command := .getItem } 1000)).dispatches =
          busyEnd.dispatches ++ [x] ∧
        x.progress = .resolved (.error (.groupNotFound "default_group")) := by
  have reached : Reachable sample busyStart := reachable_play _ _
  have run : Leads (busyStart.input .shutdown) busyEnd := leads_foldl_perform _
  have quiet : Quiescent busyEnd := quiescent_iff_advance?.2 (by decide +kernel)
  have one : busyEnd.dispatches.length = 1 := by decide +kernel
  have due : (busyEnd.dispatches.all fun x => x.deadline ≤ busyEnd.clock) = true := by
    decide +kernel
  obtain ⟨-, rest⟩ := shutdown_empties reached run
  obtain ⟨ended, ⟨nodes, -⟩, -, begins, -, -, slots⟩ := rest quiet
  refine ⟨reached, run, quiet, by decide +kernel, nodes, by decide +kernel, ended, slots ?_, ?_⟩
  · intro id x here
    exact of_decide_eq_true (List.all_eq_true.1 due x (List.mem_of_getElem? here))
  · obtain ⟨x, result, dispatches, certain, rfl | ⟨-, many⟩, -⟩ :=
      begins "default_group" { command := .getItem } 1000 (by decide +kernel)
    · exact ⟨x, dispatches, certain⟩
    · rw [one] at many
      exact absurd many (by decide)

end Gateway

end Switchboard
