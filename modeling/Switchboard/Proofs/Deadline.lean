import Switchboard.Proofs.Pending
import Switchboard.Proofs.Tenancy

/-!
# Dispatches and their deadlines

From the input that starts a dispatch on (`Leads`), its terms stay, and its result is certain either
at once or by an action that finds it waiting (`decided_of_leads`). A dispatch that ran out of time did
so at its deadline, because nobody else closes its slot; what a dispatch can find out when it starts it
does find out then; and where nothing moves, a dispatch whose result is certain has returned, and no
open dispatch is past its deadline.

Main result: `dispatch_deadlines`.
-/

set_option autoImplicit false

namespace Switchboard

/-- The cause shows when a dispatch starts. -/
def DispatchError.isPrompt : DispatchError → Bool
  | tooLarge _ _ | unencodable _ | groupNotFound _ | collision _ => true
  | dispatchFailed _ _ | timeout _ => false

namespace Gateway

/-- A run of actions leads from one gateway to the other. -/
abbrev Leads : Gateway → Gateway → Prop :=
  Relation.ReflTransGen fun g g' => ∃ a, g.act? a = some g'

section Leads

variable {g g' : Gateway}

theorem reachable_of_leads {s : Settings} (h : Reachable s g) (run : Leads g g') : Reachable s g' := by
  induction run with
  | refl => exact h
  | tail _ step ih =>
    obtain ⟨a, step⟩ := step
    exact reachable_of_act? ih step

theorem changes_of_leads (run : Leads g g') : Changes g g' := by
  induction run with
  | refl => exact .refl
  | tail _ step ih =>
    obtain ⟨a, step⟩ := step
    exact ih.trans (changes_of_act step)

theorem leads_perform (g : Gateway) (a : Action) : Leads g (g.perform a) := by
  rw [perform]
  cases step : g.act? a with
  | none => exact .refl
  | some g' => exact .single ⟨a, step⟩

theorem leads_foldl_perform (actions : List Action) : Leads g (actions.foldl perform g) := by
  induction actions generalizing g with
  | nil => exact .refl
  | cons a rest ih => exact (leads_perform g a).trans ih

/-- What follows an action leads on from the state after it. -/
theorem leads_foldl_cons {a : Action} (act : g.act? a = some g') (rest : List Action) :
    Leads g' ((a :: rest).foldl perform g) := by
  rw [List.foldl_cons, perform, act, Option.getD_some]
  exact leads_foldl_perform rest

theorem clock_letIn (waiting : Option DispatchId) (queue : QueueId) :
    (g.letIn waiting queue).clock = g.clock := by
  rcases letIn_cases g waiting queue with ⟨eq, -⟩ | ⟨caller, d, -, -, eq⟩ <;> rw [eq]

/-- The clock never goes back. -/
theorem clock_of_change (c : Change g g') : g.clock ≤ g'.clock := by
  cases c with
  | aside drops later stops => exact later
  | took here serving reaching popped encoded => rw [clock_letIn]
  | skipped here serving reaching popped unwritable =>
    show g.clock ≤ Gateway.clock (letIn _ _ _)
    rw [clock_letIn]
  | _ => exact Nat.le_refl _

theorem clock_of_changes (run : Changes g g') : g.clock ≤ g'.clock := by
  induction run with
  | refl => exact Nat.le_refl _
  | tail _ c ih => exact Nat.le_trans ih (clock_of_change c)

/-- A dispatch keeps its terms over a run. -/
theorem dispatch_of_changes (run : Changes g g') {id : DispatchId} {x : Dispatch}
    (here : g.dispatches[id]? = some x) :
    ∃ progress, g'.dispatches[id]? = some { x with progress } := by
  induction run with
  | refl => exact ⟨x.progress, here⟩
  | tail _ c ih =>
    obtain ⟨progress, here'⟩ := ih
    obtain ⟨progress', here''⟩ := dispatch_of_change c here'
    exact ⟨progress', here''⟩

/-- A result that is certain stays so over a run. -/
theorem certain_of_leads {s : Settings} (h : Reachable s g) (run : Leads g g') {id : DispatchId}
    {x : Dispatch} {result : DispatchResult} (here : g.dispatches[id]? = some x)
    (certain : x.progress.result? = some result) :
    ∃ x', g'.dispatches[id]? = some x' ∧ x'.progress.result? = some result := by
  have attained := attained_of_reachable h
  have changes := changes_of_leads run
  clear run
  induction changes with
  | refl => exact ⟨x, here, certain⟩
  | tail before c ih =>
    obtain ⟨x', here', certain'⟩ := ih
    exact certain_of_change (ledger_of_attained (attained.trans before)) c here' certain'

/-- A dispatch that does not wait for anything any more never does again. -/
theorem settled_of_leads {s : Settings} (h : Reachable s g) (run : Leads g g') {id : DispatchId}
    {x : Dispatch} (here : g.dispatches[id]? = some x) (settled : x.progress.isSettled = true) :
    ∃ x', g'.dispatches[id]? = some x' ∧ x'.progress.isSettled = true := by
  have attained := attained_of_reachable h
  have changes := changes_of_leads run
  clear run
  induction changes with
  | refl => exact ⟨x, here, settled⟩
  | tail before c ih =>
    obtain ⟨x', here', settled'⟩ := ih
    exact settled_of_change (ledger_of_attained (attained.trans before)) c here' settled'

/-- A result that is certain after a run was so before it, or became certain on the way. -/
theorem decided_of_leads {later : Gateway} (run : Leads g later) {id : DispatchId} {x₀ x : Dispatch}
    {result : DispatchResult} (started : g.dispatches[id]? = some x₀)
    (here : later.dispatches[id]? = some x) (certain : x.progress.result? = some result) :
    x₀.progress.result? = some result ∨
      ∃ h' y, Leads g h' ∧ Leads h' later ∧ h'.dispatches[id]? = some y ∧
        y.progress.isSettled = false ∧ Ending h' y result := by
  induction run generalizing x with
  | refl =>
    obtain rfl := Option.some.inj (started.symm.trans here)
    exact Or.inl certain
  | @tail last later before step ih =>
    obtain ⟨a, act⟩ := step
    have after : Leads last later := .single ⟨a, act⟩
    cases decided_of_act act here certain with
    | before there certain' =>
      refine (ih there certain').imp_right fun ⟨h', y, first, second, rest⟩ => ?_
      exact ⟨h', y, first, second.trans after, rest⟩
    | @now y there waits same ending clock =>
      exact Or.inr ⟨last, y, before, after, there, waits, ending⟩
    | start starts latest =>
      -- it started before the run
      obtain ⟨progress, there⟩ := dispatch_of_changes (changes_of_leads before) started
      obtain ⟨lt, -⟩ := List.getElem?_eq_some_iff.1 there
      exact absurd latest (Nat.ne_of_lt lt)

end Leads

section Deadlines

variable {s : Settings} {g later : Gateway} {id : DispatchId} {x : Dispatch}

/-- Where nothing moves, no dispatch has candidates to try, or has run out of them just now. -/
theorem Quiescent.not_placing (quiet : Quiescent g) (here : g.dispatches[id]? = some x)
    (left : List Candidate) : x.progress ≠ .placing left := by
  intro placing
  cases left with
  | nil =>
    have none : g.exhaust id = none := quiet.step? (.exhaust id)
    simp [exhaust, here, placing] at none
  | cons c rest =>
    obtain ⟨g', step⟩ := place_zero here placing
    exact absurd ((quiet.step? (.place id 0)).symm.trans step) (by simp)

/-- Where nothing moves, every dispatch whose result is certain has returned it. -/
theorem Quiescent.done_of_certain (quiet : Quiescent g) (here : g.dispatches[id]? = some x)
    {result : DispatchResult} (certain : x.progress.result? = some result) :
    x.progress = .done result := by
  cases progress : x.progress with
  | resolved result' =>
    have none : g.conclude id = none := quiet.step? (.conclude id)
    simp [conclude, here, progress] at none
  | done result' =>
    rw [progress] at certain
    rw [Option.some.inj certain]
  | _ => exact absurd certain (by simp [progress, Progress.result?])

/-- Where nothing moves, no open dispatch is past its deadline. -/
theorem Quiescent.over_of_due (quiet : Quiescent g) (here : g.dispatches[id]? = some x)
    (due : x.deadline ≤ g.clock) : x.progress.isOpen = false := by
  -- one that waits for room or for its reply could run out of time
  have expires : g.waits x = true → False := by
    intro waits
    have none : g.expire id = none := quiet.step? (.expire id)
    simp [expire, here, due, waits] at none
  cases progress : x.progress with
  | placing left => exact absurd progress (quiet.not_placing here left)
  | blocked queue left =>
    cases shut : g.isOpen queue with
    | true => exact absurd (by simp [Gateway.waits, progress, shut]) expires
    | false =>
      have none : g.moveOn id = none := quiet.step? (.moveOn id)
      simp [moveOn, here, progress, shut] at none
  | awaiting =>
    have none : g.collect id = none := quiet.step? (.collect id)
    cases seen : g.look x with
    | pending => exact absurd (by simp [Gateway.waits, progress, seen]) expires
    | reply e => simp [collect, here, progress, seen] at none
    | closed => simp [collect, here, progress, seen] at none
  | resolved result =>
    have done : x.progress = .done result := quiet.done_of_certain here (by rw [progress]; rfl)
    exact absurd (progress.symm.trans done) (by simp)
  | done result => rfl
  | cancelled => rfl

/-- A dispatch that waited and ran out of time did so after its deadline, or it shares its id. -/
theorem timeout_of_ending (h : Reachable s g) (run : Leads g later)
    (here : g.dispatches[id]? = some x) (waits : x.progress.isSettled = false) {d : Duration}
    (ending : Ending g x (.error (.timeout d))) :
    d = x.timeout ∧ (x.deadline ≤ later.clock ∨ 2 ^ 48 ≤ later.dispatches.length ∧
      ∃ (id' : DispatchId) (y : Dispatch), id' ≠ id ∧ later.dispatches[id']? = some y ∧
        y.request.correlationId = x.request.correlationId) := by
  have changes := changes_of_leads run
  have attained := attained_of_reachable h
  cases ending with
  | lapsed due => exact ⟨rfl, Or.inl (Nat.le_trans due (clock_of_changes changes))⟩
  | abandoned seen =>
    obtain ⟨id', y, other, there, same⟩ := exists_shared_of_closed attained here waits seen
    obtain ⟨progress, after⟩ := dispatch_of_changes changes there
    obtain ⟨progress', after'⟩ := dispatch_of_changes changes here
    refine ⟨rfl, Or.inr ⟨?_, id', _, other, after, same⟩⟩
    by_contra few
    exact other (correlationId_inj (attained.trans changes) (Nat.lt_of_not_le few) after after' same)

/-- No dispatch that waited fails by a cause that shows at the start. -/
theorem Ending.not_prompt {cause : DispatchError} (ending : Ending g x (.error cause)) :
    cause.isPrompt = false := by
  cases ending <;> rfl

/-- A dispatch that started without a timeout and has one now ran out of time at its deadline, or
shares its id. -/
theorem timeout_of_leads (h : Reachable s g) (run : Leads g later) {x₀ : Dispatch}
    (started : g.dispatches[id]? = some x₀)
    (untimed : ∀ d, x₀.progress.result? ≠ some (.error (.timeout d)))
    (here : later.dispatches[id]? = some x) {d : Duration}
    (failed : x.progress.result? = some (.error (.timeout d))) :
    d = x₀.timeout ∧ (x₀.deadline ≤ later.clock ∨ 2 ^ 48 ≤ later.dispatches.length ∧
      ∃ (id' : DispatchId) (y : Dispatch), id' ≠ id ∧ later.dispatches[id']? = some y ∧
        y.request.correlationId = x₀.request.correlationId) := by
  rcases decided_of_leads run started here failed with
    before | ⟨h', y, first, second, there, waits, ending⟩
  · exact absurd before (untimed d)
  · obtain ⟨progress, there'⟩ := dispatch_of_changes (changes_of_leads first) started
    obtain rfl := Option.some.inj (there'.symm.trans there)
    exact timeout_of_ending (reachable_of_leads h first) second there waits ending

/-- A cause that shows at the start was certain at the start. -/
theorem prompt_of_leads (run : Leads g later) {x₀ : Dispatch}
    (started : g.dispatches[id]? = some x₀) (here : later.dispatches[id]? = some x)
    {cause : DispatchError} (failed : x.progress.result? = some (.error cause))
    (shows : cause.isPrompt = true) : x₀.progress.result? = some (.error cause) := by
  rcases decided_of_leads run started here failed with before | ⟨_, _, -, -, -, -, ending⟩
  · exact before
  · exact absurd (ending.not_prompt.symm.trans shows) (by simp)

/-- No dispatch starts with a timeout. -/
theorem Opening.timeout_ne {group : String} {request : Envelope} {claim : Option Correlation.Claim}
    {progress : Progress} {replies : Correlation.Table}
    (opening : Opening g group request claim progress replies) (d : Duration) :
    progress.result? ≠ some (.error (.timeout d)) := by
  cases opening <;> simp [Progress.result?]

/-- The group is missing exactly if the envelope fits and the group has no node, unless the id is
taken. -/
theorem Opening.groupNotFound_iff {group : String} {request : Envelope}
    {claim : Option Correlation.Claim} {progress : Progress} {replies : Correlation.Table}
    (opening : Opening g group request claim progress replies) :
    progress.result? = some (.error (.groupNotFound group)) ↔
      Wire.bodySize request ≤ g.settings.dispatchLimit ∧ g.registry.candidates group = none ∧
        ∀ c, progress.result? ≠ some (.error (.collision c)) := by
  cases opening with
  | collided taken => simp [Progress.result?]
  | tooLarge opened large => simp [Progress.result?, Nat.not_le_of_lt large]
  | groupNotFound opened fits nobody => simp [Progress.result?, fits, nobody]
  | placing opened fits seen => simp [Progress.result?, seen]

theorem Opening.open?_of_collided {group : String} {request : Envelope}
    {claim : Option Correlation.Claim} {progress : Progress} {replies : Correlation.Table}
    (opening : Opening g group request claim progress replies) {c : CorrelationId}
    (collided : progress.result? = some (.error (.collision c))) :
    g.replies.open? request.correlationId = none := by
  cases opening with
  | collided taken => exact taken
  | tooLarge opened large => exact absurd collided (by simp [Progress.result?])
  | groupNotFound opened fits nobody => exact absurd collided (by simp [Progress.result?])
  | placing opened fits seen => exact absurd collided (by simp [Progress.result?])

end Deadlines

/-- A dispatch keeps its terms. Its result is a timeout for its own time only, and not before its
deadline, unless another dispatch has the same id, which takes 2^48 dispatches. Where nothing moves
it has returned its result if there is one, and it is over if the deadline has come. What it can find
out when it starts is certain at that very moment: that no node is in the group exactly if the
envelope fits and no node is registered in the group. As long as there are ids left it is never told
that its id is taken. -/
theorem dispatch_deadlines {s : Settings} {g : Gateway} (h : Reachable s g) (group : String)
    (e : Envelope) (timeout : Nat) {later : Gateway}
    (run : Leads (g.input (.dispatch group e timeout)) later) :
    (g.input (.dispatch group e timeout)).clock = g.clock ∧
    ∃ x : Dispatch, later.dispatches[g.dispatches.length]? = some x ∧
      x.group = group ∧ x.request = e.stamped g.ids.next.1 ∧
      (∀ d, x.progress.result? = some (.error (.timeout d)) →
        d = .ofMillis timeout ∧
        (g.clock + timeout ≤ later.clock ∨ 2 ^ 48 ≤ later.dispatches.length ∧
          ∃ (id : DispatchId) (y : Dispatch), id ≠ g.dispatches.length ∧
            later.dispatches[id]? = some y ∧
            y.request.correlationId = x.request.correlationId)) ∧
      (Quiescent later → ∀ result, x.progress.result? = some result → x.progress = .done result) ∧
      (Quiescent later → g.clock + timeout ≤ later.clock → x.progress.isOpen = false) ∧
      (∀ cause, x.progress.result? = some (.error cause) → cause.isPrompt = true →
        ∃ x₀ : Dispatch,
          (g.input (.dispatch group e timeout)).dispatches[g.dispatches.length]? = some x₀ ∧
          x₀.progress.result? = some (.error cause)) ∧
      (x.progress.result? = some (.error (.groupNotFound group)) ↔
        Wire.bodySize (e.stamped g.ids.next.1) ≤ g.settings.dispatchLimit ∧
        (∀ node entry, g.registry.nodes.get? node = some entry → entry.group ≠ group) ∧
        ∀ c, x.progress.result? ≠ some (.error (.collision c))) ∧
      (later.dispatches.length < 2 ^ 48 →
        ∀ c, x.progress.result? ≠ some (.error (.collision c))) := by
  obtain ⟨claim, attempts, progress, started, opening, clock, -⟩ :=
    exists_started g group e timeout
  have attained := attained_of_reachable h
  have changes := changes_of_leads run
  have reached : Reachable s (g.input (.dispatch group e timeout)) := .input _ h
  obtain ⟨progress', here⟩ := dispatch_of_changes changes started
  -- a result at the start is the result, and a cause that shows at the start was the result there
  have stays : ∀ {result}, progress.result? = some result → progress'.result? = some result := by
    intro result certain
    obtain ⟨x', here', certain'⟩ := certain_of_leads reached run started certain
    obtain rfl := Option.some.inj (here.symm.trans here')
    exact certain'
  have first : ∀ cause, progress'.result? = some (.error cause) → cause.isPrompt = true →
      progress.result? = some (.error cause) := fun cause failed shows =>
    prompt_of_leads run started here failed shows
  refine ⟨clock, _, here, rfl, rfl, ?timeouts, ?returned, ?quiescent, ?prompt, ?groups, ?collisions⟩
  case timeouts =>
    intro d failed
    exact timeout_of_leads reached run started opening.timeout_ne here failed
  case returned => exact fun quiet _ certain => quiet.done_of_certain here certain
  case quiescent => exact fun quiet due => quiet.over_of_due here due
  case prompt => exact fun cause failed shows => ⟨_, started, first cause failed shows⟩
  case groups =>
    have nobody := Registry.candidates_eq_none_iff (tenancy_of_attained attained).coherent group
    have iff := opening.groupNotFound_iff
    rw [nobody] at iff
    -- the result shows at the start, where the table of nodes is still that of `g`
    constructor
    · intro missing
      obtain ⟨fits, none, -⟩ := iff.1 (first _ missing rfl)
      exact ⟨fits, none, fun c taken => absurd (missing.symm.trans taken) (by simp)⟩
    · rintro ⟨fits, none, free⟩
      exact stays (iff.2 ⟨fits, none, fun c taken => free c (stays taken)⟩)
  case collisions =>
    -- the dispatch would not have got its id, but there was one left
    intro few c taken
    have none := opening.open?_of_collided (first _ taken rfl)
    obtain ⟨lt, -⟩ := List.getElem?_eq_some_iff.1 here
    obtain ⟨claim', replies, opened⟩ := open?_isSome attained (Nat.lt_of_le_of_lt lt few)
    exact absurd (none.symm.trans opened) (by simp)

/-- A gateway with one node, which never answers. -/
def silentStart : Gateway := play sample (join 0 100 keepaliveFrame)

/-- The gateway after a caller sent an envelope to the silent node and waited for a second. -/
def silentEnd : Gateway :=
  (reported (.dispatch 0) ++ [Action.move (.place 0 0), .input (.elapse 1000), .move (.expire 0)] ++
    returned 0).foldl perform
    (silentStart.input (.dispatch "default_group" { command := .getItem } 1000))

/-- A dispatch to a silent node times out at its deadline. -/
theorem dispatch_deadlines_silentEnd :
    Reachable sample silentStart ∧
      Leads (silentStart.input (.dispatch "default_group" { command := .getItem } 1000))
        silentEnd ∧
      ∃ x : Dispatch, silentEnd.dispatches[0]? = some x ∧
        x.progress = .done (.error (.timeout (.ofMillis 1000))) ∧
        silentStart.clock + 1000 ≤ silentEnd.clock := by
  have reached : Reachable sample silentStart := reachable_play _ _
  have run : Leads (silentStart.input (.dispatch "default_group" { command := .getItem } 1000))
      silentEnd := leads_foldl_perform _
  obtain ⟨-, x, here, -, -, timeouts, -⟩ := dispatch_deadlines reached _ _ _ run
  have first : silentStart.dispatches.length = 0 := by decide +kernel
  have few : silentEnd.dispatches.length < 2 ^ 48 := by decide +kernel
  have outcome : (silentEnd.dispatches[0]?).map (fun x =>
      match x.progress with
      | .done (.error (.timeout d)) => decide (d = .ofMillis 1000)
      | _ => false) = some true := by
    decide +kernel
  rw [first] at here
  rw [here, Option.map_some] at outcome
  have failed : x.progress = .done (.error (.timeout (.ofMillis 1000))) := by
    have outcome := Option.some.inj outcome
    split at outcome
    · rename_i d finished
      rw [finished, of_decide_eq_true outcome]
    · exact absurd outcome (by simp)
  refine ⟨reached, run, x, here, failed, ?_⟩
  exact (timeouts _ (by rw [failed]; rfl)).2.resolve_right fun late => absurd late.1 (Nat.not_le_of_lt few)

end Gateway

end Switchboard
