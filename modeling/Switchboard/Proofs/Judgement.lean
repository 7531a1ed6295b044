import Switchboard.Client
import Switchboard.Config.Basic
import Switchboard.Proofs.Reporting

/-!
# Whether a request is refused

A request is refused for its command, or for its size under the id that its dispatch has drawn. Ids take
between one and nine bytes. So what a caller is told depends on the request, the limit and the width of
the id, and on nothing else that happened before, as long as the id is free (`refuses_iff`). Gateway 0
starts with short ids, and there a request near the limit is accepted first and refused later
(`exists_refused_later`). The ids of any other gateway all take nine bytes (`nextWidth_of_numbered`).

Main result: `refuses_iff_of_width`.
-/

set_option autoImplicit false

namespace Switchboard

/-- The numbers that a gateway with this configuration can run with: if none is set for its ids, any
will do. -/
def Config.RunsWith (c : Config) (s : Settings) : Prop :=
  ∃ number, (∀ n, c.instanceId = some n → number = n) ∧
    s = { c.settings with gatewayNumber := number }

/-- What a caller asks for, and of whom. -/
structure Call where
  group : String
  command : Command
  request : CallRequest
  timeout : Nat
  shape : ReplyShape
  deriving Repr, Inhabited

/-- The length of the body that goes to a worker if its id takes `width` bytes. -/
def CallRequest.sizeWith (r : CallRequest) (command : Command) (width : Nat) : Nat :=
  Wire.bodySize (r.envelope command) - Wire.Varint.size 0 + width

/-- Why a request cannot be sent under an id of this width: its command only manages streams, or its body
is too long. -/
inductive Unfit (limit : Nat) (command : Command) (r : CallRequest) (width : Nat) : String → Prop
  | lifecycle (managing : command.isLifecycle = true) :
    Unfit limit command r width s!"command {command.code} cannot be sent as a request"
  | large (callable : command.isLifecycle = false) (large : limit < r.sizeWith command width) :
    Unfit limit command r width
      s!"request is {r.sizeWith command width} bytes, the limit is {limit}"

namespace CallRequest

theorem prepare_of_callable (r : CallRequest) {command : Command}
    (callable : command.isLifecycle = false) : r.prepare command = .ok (r.envelope command) :=
  if_neg (by simp [callable])

theorem prepare_of_managing (r : CallRequest) {command : Command}
    (managing : command.isLifecycle = true) :
    r.prepare command =
      .error (.invalidRequest s!"command {command.code} cannot be sent as a request") :=
  if_pos managing

/-- An id adds its own width to the body. -/
theorem bodySize_stamped (r : CallRequest) (command : Command) (id : CorrelationId) :
    Wire.bodySize ((r.envelope command).stamped id) =
      r.sizeWith command (Wire.Varint.size id.toNat) := by
  have zero : (r.envelope command).correlationId.toNat = 0 := rfl
  simp only [sizeWith, Wire.bodySize, Envelope.stamped, zero]
  omega

end CallRequest

namespace Gateway

/-- The ways in which a call that is made now can end for its caller. -/
inductive Returns (g : Gateway) (call : Call) : Except CallError ReplyValue → Prop
  /-- It never becomes a dispatch. -/
  | unsent {cause : CallError} (refused : call.request.prepare call.command = .error cause) :
    Returns g call (.error cause)
  /-- Its dispatch has a result at some time. -/
  | dispatched {e : Envelope} {later : Gateway} {x : Dispatch} {result : DispatchResult}
    (prepared : call.request.prepare call.command = .ok e)
    (run : Leads (g.input (.dispatch call.group e call.timeout)) later)
    (here : later.dispatches[g.dispatches.length]? = some x) (done : x.progress = .done result) :
    Returns g call (call.shape.result result)

/-- The caller is told that the request is invalid, with this text. -/
def Refuses (g : Gateway) (call : Call) (text : String) : Prop :=
  Returns g call (.error (.invalidRequest text))

/-- Nobody waits under the id that the next dispatch draws. -/
def Free (g : Gateway) : Prop := (g.replies.open? g.ids.next.1).isSome = true

/-- The number of bytes of the id that the next dispatch draws. -/
def nextWidth (g : Gateway) : Nat := Wire.Varint.size g.ids.next.1.toNat

/-- The result of a call's dispatch is certain at its start: its caller is told that the request is
invalid. -/
def StartsInvalid (g : Gateway) (call : Call) (text : String) : Prop :=
  ∃ x cause, (g.input (.dispatch call.group (call.request.envelope call.command)
      call.timeout)).dispatches[g.dispatches.length]? = some x ∧
    x.progress.result? = some (.error cause) ∧ CallError.ofDispatch cause = .invalidRequest text

section Judgement

variable {s : Settings} {g : Gateway} {call : Call} {text : String}

/-! ## The verdict on one call -/

/-- A caller is told that a request is invalid only because of a cause that shows at the start. -/
theorem exists_prompt_of_invalid {shape : ReplyShape} {result : DispatchResult}
    (invalid : shape.result result = .error (.invalidRequest text)) :
    ∃ cause, result = .error cause ∧ cause.isPrompt = true ∧
      CallError.ofDispatch cause = .invalidRequest text := by
  cases result with
  | ok reply =>
    simp only [ReplyShape.result, ReplyShape.decode] at invalid
    split at invalid <;> cases invalid
  | error cause =>
    have told : CallError.ofDispatch cause = .invalidRequest text := Except.error.inj invalid
    refine ⟨cause, rfl, ?_, told⟩
    cases cause with
    | tooLarge limit got => rfl
    | unencodable why => rfl
    | _ => exact absurd told (by simp [CallError.ofDispatch])

/-- What a dispatch starts as tells whether its caller is told that the request is invalid. -/
theorem Opening.invalid_iff {group : String} {request : Envelope} {claim : Option Correlation.Claim}
    {progress : Progress} {replies : Correlation.Table}
    (opening : Opening g group request claim progress replies) (text : String) :
    (∃ cause, progress.result? = some (.error cause) ∧
        CallError.ofDispatch cause = .invalidRequest text) ↔
      (g.replies.open? request.correlationId).isSome = true ∧
        g.settings.dispatchLimit < Wire.bodySize request ∧
        text = s!"request is {Wire.bodySize request} bytes, the limit is {g.settings.dispatchLimit}" := by
  -- all other causes are system errors to the caller
  have silent : ∀ {cause : DispatchError}, CallError.ofDispatch cause = .system →
      ¬ ∃ cause', (Progress.resolved (.error cause)).result? = some (.error cause') ∧
        CallError.ofDispatch cause' = .invalidRequest text := by
    rintro cause system ⟨cause', same, told⟩
    obtain rfl := Except.error.inj (Option.some.inj same)
    exact absurd (system.symm.trans told) (by simp)
  cases opening with
  | collided taken => exact iff_of_false (silent rfl) fun free => absurd free.1 (by simp [taken])
  | tooLarge opened large =>
    simp only [opened, Option.isSome_some, large, true_and]
    constructor
    · rintro ⟨cause, same, told⟩
      obtain rfl := Except.error.inj (Option.some.inj same)
      exact (CallError.invalidRequest.inj told).symm
    · rintro rfl
      exact ⟨_, rfl, rfl⟩
  | groupNotFound opened fits nobody =>
    exact iff_of_false (silent rfl) fun large => absurd large.2.1 (Nat.not_lt.2 fits)
  | placing opened fits seen =>
    refine iff_of_false ?_ fun large => absurd large.2.1 (Nat.not_lt.2 fits)
    rintro ⟨cause, same, -⟩
    exact absurd same (by simp [Progress.result?])

theorem startsInvalid_iff :
    g.StartsInvalid call text ↔ g.Free ∧
      g.settings.dispatchLimit < call.request.sizeWith call.command g.nextWidth ∧
      text = s!"request is {call.request.sizeWith call.command g.nextWidth} bytes, the limit is {g.settings.dispatchLimit}" := by
  obtain ⟨claim, attempts, progress, started, opening, -⟩ :=
    exists_started g call.group (call.request.envelope call.command) call.timeout
  have invalid := opening.invalid_iff text
  rw [CallRequest.bodySize_stamped] at invalid
  refine Iff.trans ?_ invalid
  constructor
  · rintro ⟨x, cause, here, done, told⟩
    obtain rfl := Option.some.inj (started.symm.trans here)
    exact ⟨cause, done, told⟩
  · rintro ⟨cause, done, told⟩
    exact ⟨_, cause, started, done, told⟩

/-- A call that becomes a dispatch is refused at its start or not at all. -/
theorem refuses_iff_startsInvalid (callable : call.command.isLifecycle = false) :
    g.Refuses call text ↔ g.StartsInvalid call text := by
  have prepared := call.request.prepare_of_callable callable
  constructor
  · -- whatever the later result is, a cause that shows at the start was there already
    intro refuses
    rw [Refuses] at refuses
    generalize outcome : (.error (.invalidRequest text) : Except CallError ReplyValue) = end' at refuses
    cases refuses with
    | unsent refused => exact absurd (refused.symm.trans prepared) (by simp)
    | dispatched prepared' run here done =>
      obtain rfl := Except.ok.inj (prepared'.symm.trans prepared)
      obtain ⟨cause, rfl, shows, told⟩ := exists_prompt_of_invalid outcome.symm
      obtain ⟨claim, attempts, progress, started, -⟩ :=
        exists_started g call.group (call.request.envelope call.command) call.timeout
      have certain : (Progress.done (.error cause)).result? = some (.error cause) := rfl
      exact ⟨_, cause, started, prompt_of_leads run started here (by rw [done, certain]) shows, told⟩
  · rintro ⟨x, cause, started, certain, told⟩
    obtain ⟨later, run, here⟩ := exists_returned started certain
    have returns := Returns.dispatched prepared run here rfl
    rwa [ReplyShape.result, told] at returns

/-- A call whose command only manages streams ends in one way. -/
theorem returns_iff_of_managing (managing : call.command.isLifecycle = true)
    {result : Except CallError ReplyValue} :
    g.Returns call result ↔ result =
      .error (.invalidRequest s!"command {call.command.code} cannot be sent as a request") := by
  have prepared := call.request.prepare_of_managing managing
  constructor
  · intro returns
    cases returns with
    | unsent refused => rw [Except.error.inj (refused.symm.trans prepared)]
    | dispatched prepared' run here done => exact absurd (prepared'.symm.trans prepared) (by simp)
  · rintro rfl
    exact .unsent prepared

/-- A call is refused only if its request is unfit, and if the id that it draws is free, just then. -/
theorem refuses_iff (free : call.command.isLifecycle = false → g.Free) :
    g.Refuses call text ↔
      Unfit g.settings.dispatchLimit call.command call.request g.nextWidth text := by
  cases managing : call.command.isLifecycle with
  | true =>
    rw [Refuses, returns_iff_of_managing managing]
    constructor
    · intro same
      obtain rfl := CallError.invalidRequest.inj (Except.error.inj same)
      exact .lifecycle managing
    · intro unfit
      cases unfit with
      | lifecycle _ => rfl
      | large callable large => exact absurd (managing.symm.trans callable) (by simp)
  | false =>
    rw [refuses_iff_startsInvalid managing, startsInvalid_iff]
    have free := free managing
    constructor
    · rintro ⟨-, large, rfl⟩
      exact .large managing large
    · intro unfit
      cases unfit with
      | lifecycle managing' => exact absurd (managing'.symm.trans managing) (by simp)
      | large callable large => exact ⟨free, large, rfl⟩

/-- A call that can be refused is refused. -/
theorem eq_of_refuses (h : Reachable s g) (refuses : g.Refuses call text)
    {result : Except CallError ReplyValue} (returns : g.Returns call result) :
    result = .error (.invalidRequest text) := by
  cases managing : call.command.isLifecycle with
  | true =>
    rw [(returns_iff_of_managing managing).1 refuses]
    exact (returns_iff_of_managing managing).1 returns
  | false =>
    obtain ⟨x, cause, started, done, told⟩ := (refuses_iff_startsInvalid managing).1 refuses
    have prepared := call.request.prepare_of_callable managing
    cases returns with
    | unsent refused => exact absurd (refused.symm.trans prepared) (by simp)
    | @dispatched e later x' result prepared' run here done' =>
      obtain rfl := Except.ok.inj (prepared'.symm.trans prepared)
      -- the result was certain at once, and what is certain stays so
      obtain ⟨x'', here', certain⟩ := certain_of_leads (.input _ h) run started done
      obtain rfl := Option.some.inj (here'.symm.trans here)
      rw [done'] at certain
      obtain rfl := Option.some.inj certain
      rw [ReplyShape.result, told]

/-! ## Ids and their widths -/

/-- A gateway keeps its number. -/
theorem gateway_of_attained (h : Attained s g) : g.ids.gateway = s.gatewayNumber := by
  induction h with
  | refl => rfl
  | @tail g g' _ c ih =>
    cases c with
    | begun group e timeout opened seen fits => exact g.ids.next_eq_idAt.2.1.trans ih
    | collided group e timeout taken => exact g.ids.next_eq_idAt.2.1.trans ih
    | took here serving reaching popped encoded => exact (congrArg _ (ids_letIn _ _)).trans ih
    | skipped here serving reaching popped unwritable =>
      exact (congrArg _ (ids_letIn _ _)).trans ih
    | _ => exact ih

/-- The ids of a gateway whose number is not 0 take nine bytes. -/
theorem nextWidth_of_numbered (h : Attained s g) (numbered : s.gatewayNumber ≠ 0) :
    g.nextWidth = 9 := by
  have high := Correlation.IdSource.idAt_div g.ids.gateway g.ids.place
  rw [← g.ids.next_eq_idAt.1, gateway_of_attained h] at high
  have pos : s.gatewayNumber.toNat ≠ 0 := fun zero => numbered (UInt16.toNat_inj.1 zero)
  -- with a number in the high bits no id fits into 32 bits
  have large : UInt32.size ≤ g.ids.next.1.toNat := by
    have size : UInt32.size = 2 ^ 32 := rfl
    omega
  have larger : UInt16.size ≤ UInt32.size := by decide
  rw [nextWidth, Wire.Varint.size, if_neg, if_neg, if_neg]
  · exact Nat.not_lt.2 large
  · exact Nat.not_lt.2 (Nat.le_trans larger large)
  · have small : 250 < UInt32.size := by decide
    omega

/-- As long as there are ids left, the one that a dispatch draws is free. -/
theorem free_of_few (h : Attained s g) (few : g.dispatches.length + 1 < 2 ^ 48) : g.Free := by
  obtain ⟨claim, replies, opened⟩ := open?_isSome h few
  rw [Free, opened]
  rfl

end Judgement

/-- The verdict on a call is the same for another call of the same request, made in another state of a
gateway with the same configuration. Only where the command can be sent do both need a free id, and ids
of the same width. -/
theorem refuses_iff_of_width {c : Config} {s s' : Settings} (runs : c.RunsWith s)
    (runs' : c.RunsWith s') {g g' : Gateway} (h : Reachable s g) (h' : Reachable s' g')
    {call call' : Call} (command : call'.command = call.command)
    (request : call'.request = call.request) :
    ((call.command.isLifecycle = false → g.Free ∧ g'.Free ∧ g.nextWidth = g'.nextWidth) →
        ∀ text, g.Refuses call text ↔ g'.Refuses call' text) ∧
      (s.gatewayNumber ≠ 0 → s'.gatewayNumber ≠ 0 → g.dispatches.length + 1 < 2 ^ 48 →
        g'.dispatches.length + 1 < 2 ^ 48 → ∀ text, g.Refuses call text ↔ g'.Refuses call' text) ∧
      ((call.command.isLifecycle = false → g.Free) → ∀ text, g.Refuses call text ↔
        Unfit c.maxFrameBytes.toNat call.command call.request g.nextWidth text) ∧
      ∀ text result, g.Refuses call text → g.Returns call result →
        result = .error (.invalidRequest text) := by
  have attained := attained_of_reachable h
  have attained' := attained_of_reachable h'
  have limit : g.settings.dispatchLimit = c.maxFrameBytes.toNat := by
    obtain ⟨number, -, rfl⟩ := runs
    rw [settings_of_attained attained]
    rfl
  have limit' : g'.settings.dispatchLimit = c.maxFrameBytes.toNat := by
    obtain ⟨number, -, rfl⟩ := runs'
    rw [settings_of_attained attained']
    rfl
  have same : (call.command.isLifecycle = false → g.Free ∧ g'.Free ∧ g.nextWidth = g'.nextWidth) →
      ∀ text, g.Refuses call text ↔ g'.Refuses call' text := by
    intro alike text
    have free' : call'.command.isLifecycle = false → g'.Free :=
      fun callable => (alike (command ▸ callable)).2.1
    rw [refuses_iff fun callable => (alike callable).1, refuses_iff free', limit, limit', command,
      request]
    -- the width only counts where the command can be sent
    constructor
    · intro unfit
      cases unfit with
      | lifecycle managing => exact .lifecycle managing
      | large callable large =>
        rw [(alike callable).2.2] at large ⊢
        exact .large callable large
    · intro unfit
      cases unfit with
      | lifecycle managing => exact .lifecycle managing
      | large callable large =>
        rw [← (alike callable).2.2] at large ⊢
        exact .large callable large
  refine ⟨same, ?_, ?_, fun text result refuses returns => eq_of_refuses h refuses returns⟩
  · intro numbered numbered' few few'
    refine same fun _ => ⟨free_of_few attained few, free_of_few attained' few', ?_⟩
    rw [nextWidth_of_numbered attained numbered, nextWidth_of_numbered attained' numbered']
  · intro free text
    rw [refuses_iff free, limit]

/-! ## A request near the limit -/

/-- A call with an empty request, whose body takes eight bytes besides its id. -/
def emptyCall : Call := ⟨"general", .getItem, {}, 1000, .ack⟩

/-- A gateway that nobody serves, after that many calls. -/
def afterCalls (c : Config) : Nat → Gateway
  | 0 => .start c.settings
  | n + 1 => (afterCalls c n).input (.dispatch "general" (CallRequest.envelope {} .getItem) 1000)

section Calls

variable {c : Config} {n : Nat}

theorem reachable_afterCalls (c : Config) (n : Nat) : Reachable c.settings (afterCalls c n) := by
  induction n with
  | zero => exact .start
  | succ n ih => exact .input _ ih

theorem length_afterCalls (c : Config) (n : Nat) : (afterCalls c n).dispatches.length = n := by
  induction n with
  | zero => rfl
  | succ n ih =>
    obtain ⟨claim, attempts, progress, dispatches, -⟩ :=
      dispatch_opening (afterCalls c n) "general" (CallRequest.envelope {} .getItem) 1000
    rw [afterCalls, input, dispatches, List.length_append, List.length_singleton, ih]

theorem free_afterCalls (few : n + 1 < 2 ^ 48) : (afterCalls c n).Free :=
  free_of_few (attained_of_reachable (reachable_afterCalls c n)) (by rwa [length_afterCalls])

theorem nextWidth_afterCalls (few : n + 1 < 2 ^ 48) :
    (afterCalls c n).nextWidth =
      Wire.Varint.size (Correlation.IdSource.nth (c.instanceId.getD 0) n).toNat := by
  have attained := attained_of_reachable (reachable_afterCalls c n)
  have length := length_afterCalls c n
  have next := (issued_of_attained attained (by omega)).next (by omega)
  rw [nextWidth, next, length, settings_of_attained attained]
  rfl

end Calls

/-- A limit of nine bytes for a gateway whose ids take nine themselves. -/
def numberedConfig : Config := { instanceId := some 1, maxFrameBytes := 9 }

/-- The empty request is refused at the first call and at the second, with the same text. -/
theorem refuses_iff_of_width_numberedConfig :
    (afterCalls numberedConfig 0).Refuses emptyCall "request is 17 bytes, the limit is 9" ∧
      (afterCalls numberedConfig 1).Refuses emptyCall "request is 17 bytes, the limit is 9" := by
  have runs : numberedConfig.RunsWith numberedConfig.settings :=
    ⟨1, fun n set => Option.some.inj set, rfl⟩
  obtain ⟨-, numbered, exact', -⟩ := refuses_iff_of_width runs runs
    (reachable_afterCalls numberedConfig 0) (reachable_afterCalls numberedConfig 1)
    (rfl : emptyCall.command = emptyCall.command) rfl
  have first : (afterCalls numberedConfig 0).Refuses emptyCall
      "request is 17 bytes, the limit is 9" := by
    rw [exact' fun _ => free_afterCalls (by decide), nextWidth_afterCalls (by decide)]
    exact .large rfl (by decide)
  refine ⟨first, (numbered (by decide) (by decide) ?_ ?_ _).1 first⟩
  · rw [length_afterCalls]
    decide
  · rw [length_afterCalls]
    decide

/-- The same limit for gateway 0. -/
def tightConfig : Config := { instanceId := some 0, maxFrameBytes := 9 }

/-- Whether the empty request is refused can depend on how many calls there were before. -/
theorem exists_refused_later :
    ¬ ∀ {c : Config} {s : Settings}, c.validate = .ok () → c.RunsWith s →
      ∀ {g g' : Gateway}, Reachable s g → Reachable s g' →
      ∀ (call : Call) (text : String), g.Refuses call text ↔ g'.Refuses call text := by
  intro claim
  have runs : tightConfig.RunsWith tightConfig.settings := ⟨0, fun n set => Option.some.inj set, rfl⟩
  have same := claim (by decide) runs (reachable_afterCalls tightConfig 0)
    (reachable_afterCalls tightConfig 250) emptyCall "request is 11 bytes, the limit is 9"
  have limits : ∀ n, (afterCalls tightConfig n).settings.dispatchLimit = 9 := by
    intro n
    rw [settings_of_attained (attained_of_reachable (reachable_afterCalls tightConfig n))]
    rfl
  -- the first id takes one byte, and id 251 takes three
  rw [refuses_iff fun _ => free_afterCalls (by decide),
    refuses_iff fun _ => free_afterCalls (by decide), limits, limits,
    nextWidth_afterCalls (by decide), nextWidth_afterCalls (by decide)] at same
  have refused : Unfit 9 emptyCall.command emptyCall.request 3
      "request is 11 bytes, the limit is 9" := .large rfl (by decide)
  generalize told : "request is 11 bytes, the limit is 9" = text at same refused
  cases same.2 refused with
  | lifecycle managing => exact absurd managing (by decide)
  | large callable large => exact absurd large (by decide)

end Gateway

end Switchboard
