import Switchboard.Client
import Switchboard.Proofs.Grammar
import Switchboard.Proofs.Placement
import Switchboard.Proofs.Restart

/-!
# Calls on their way to a worker

A call becomes an envelope, which a dispatch puts on the queue of a node (`stamped_of_enqueued`). The
worker reads its own copy of it, `Envelope.received`, whose command is the one that the code stands
for. That command is the caller's, unless the caller spelled out the code of a known command as an
unrecognised one. Whether a call is refused is told from the caller's command, and whether a session
closes on the reply from the code, so the two can differ.

Main result: `calls_reach_workers`.
-/

set_option autoImplicit false

namespace Switchboard

/-! ## What a worker reads -/

open Wire Command

/-- What a worker has in hand that read the envelope of a call. -/
structure Received (r : CallRequest) (command : Command) (got : Envelope) : Prop where
  token : got.token = r.token
  signature : got.signature = r.signature
  params : got.params = r.params
  payload : got.payload = r.payload
  traceId : got.traceId = r.traceId
  /-- It expects a reply. -/
  correlationId : got.correlationId ≠ noReply
  /-- It has the code of the command. -/
  code : got.command.code = command.code
  /-- It is read as a command that only manages a stream exactly if the caller spelled out the code of
  one. -/
  lifecycle : got.command.isLifecycle = true ↔ ∃ text ∈ lifecycleCodes, command = unrecognized text
  /-- A session that reads a reply to it, whatever the reply carries besides the command, goes on
  serving, and closes exactly if the caller spelled out the code of a restart. It reads unless its
  sender is about to take an envelope, or it has a gauge to set. -/
  answered : ∀ {reply : Envelope}, reply.command = got.replyTo.command →
    ∀ {now : Gateway} {id t service rest}, now.serving? id = some (t, service) →
      service.first = none → Frame.Writable now.settings.sessionLimit reply →
      t.inbound = Frame.bytes reply ++ rest → now.isHeldUp (.receive id) = false →
      ∃ next, now.move? (.receive id) = some next ∧
        next.service? id =
          some { service with closed := service.closed || decide (command = unrecognized "3") }

namespace Gateway

/-- A session that reads a frame closes if it is a control signal. -/
theorem service?_of_receive {g : Gateway} {id : SessionId} {t : Session} {service : Service}
    {e : Envelope} {inbound : List UInt8} (here : g.sessions[id]? = some t)
    (serving : t.phase = .serving service)
    (read : Reads g.settings.sessionLimit t service e inbound)
    (free : g.isHeldUp (.receive id) = false) :
    ∃ next, g.move? (.receive id) = some next ∧
      next.service? id = some
        { service with first := none, closed := service.closed || e.command.isControl } := by
  obtain ⟨lt, -⟩ := List.getElem?_eq_some_iff.1 here
  refine ⟨_, move?_eq_some.2 ⟨free, receive_of_reads here serving read⟩, ?_⟩
  cases control : e.command.isControl with
  | true =>
    rw [service?_of_control _ _ lt control, Bool.or_true]
  | false =>
    rw [service?, (handle_of_plain _ _ _ _ control).1, List.getElem?_set_self lt, Bool.or_false]
    rfl

end Gateway

/-- The envelope of a call is read as it was called, apart from the command that its code stands for. -/
theorem received_of_call {r : CallRequest} {command : Command} {id : CorrelationId}
    (callable : command.isLifecycle = false) (stamped : id ≠ noReply) :
    Received r command ((r.envelope command).stamped id).received where
  token := rfl
  signature := rfl
  params := rfl
  payload := rfl
  traceId := rfl
  correlationId := stamped
  code := code_ofCode command.code
  lifecycle := by
    refine isLifecycle_ofCode.trans ⟨fun mem => ⟨_, mem, eq_unrecognized_code callable mem⟩, ?_⟩
    rintro ⟨text, mem, rfl⟩
    exact mem
  answered {reply} same {now id t service rest} serving first writable inbound free := by
    obtain ⟨here, phase⟩ := Gateway.serving?_eq_some.1 serving
    have read : Gateway.Reads now.settings.sessionLimit t service reply.received rest := by
      refine Or.inr ⟨first, ?_⟩
      rw [inbound]
      exact next_bytes_received writable rest _
    have control : reply.received.command.isControl = decide (command = unrecognized "3") := by
      have again : reply.command.code = command.code := by
        rw [same]
        exact code_ofCode command.code
      rw [Bool.eq_iff_iff, decide_eq_true_eq]
      refine isControl_ofCode.trans ⟨fun three => ?_, ?_⟩
      · rw [again] at three
        have spelled := eq_unrecognized_code callable (by rw [three]; decide)
        rwa [three] at spelled
      · rintro rfl
        exact again
    obtain ⟨next, step, serves⟩ := Gateway.service?_of_receive here phase read free
    refine ⟨next, step, ?_⟩
    rw [serves, control, first]

namespace Gateway

/-- A dispatch that does not fail at its start has an id that expects a reply. -/
theorem Opening.stamped {g : Gateway} {group : String} {request : Envelope}
    {claim : Option Correlation.Claim} {progress : Progress} {replies : Correlation.Table}
    (opening : Opening g group request claim progress replies) (waits : progress.isSettled = false) :
    request.correlationId ≠ noReply := by
  cases opening with
  | placing opened fits seen => exact (Correlation.Table.open?_eq_some opened).1
  | _ => exact absurd waits (by simp [Progress.isSettled])

/-- What a dispatch puts on a queue is what it was given, under an id that expects a reply. -/
theorem stamped_of_enqueued {s : Settings} {g later : Gateway} (h : Reachable s g) {group : String}
    {e frame : Envelope} {timeout : Nat} {queue : QueueId}
    (run : Leads (g.input (.dispatch group e timeout)) later)
    (mem : (frame, .dispatch g.dispatches.length) ∈ enqueued queue later.journal) :
    ∃ id, id ≠ noReply ∧ frame = e.stamped id := by
  have reached : Reachable s (g.input (.dispatch group e timeout)) := .input _ h
  obtain ⟨claim, attempts, progress, started, opening, -⟩ := exists_started g group e timeout
  obtain ⟨x, here, rfl, -⟩ :=
    (routed_of_attained (attained_of_reachable (reachable_of_leads reached run))).queued mem
  obtain ⟨progress', here'⟩ := dispatch_of_changes (changes_of_leads run) started
  obtain rfl := Option.some.inj (here.symm.trans here')
  refine ⟨g.ids.next.1, opening.stamped ?_, rfl⟩
  -- a dispatch that fails at its start never puts its envelope on a queue
  by_contra settled
  have accepted := mem_acceptances_of_enqueued mem
  rw [acceptances_of_leads reached run started (by simpa using settled),
    acceptances_started h] at accepted
  exact absurd accepted (by simp)

/-- A call whose command only manages streams is refused, and no other is. What a call puts on the queue
of a node, in whatever run, is read by the worker wherever it stands on its stream: with the code of
the command and everything that the request carries, under an id that expects a reply. It is read as a
command that only manages streams, and a session takes a reply to it for a control signal, only if the
caller spelled out the code of such a command as an unrecognised one. -/
theorem calls_reach_workers {s : Settings} {g : Gateway} (h : Reachable s g) (group : String)
    (command : Command) (r : CallRequest) (timeout : Nat) :
    (command.isLifecycle = true → r.prepare command =
      .error (.invalidRequest s!"command {command.code} cannot be sent as a request")) ∧
    (command.isLifecycle = false → ∃ e, r.prepare command = .ok e ∧
      ∀ {later}, Leads (g.input (.dispatch group e timeout)) later → ∀ {queue frame},
        (frame, .dispatch g.dispatches.length) ∈ enqueued queue later.journal →
        Received r command frame.received ∧
        ∀ {writer limit : Nat} {before after : List Envelope} {source : Source}, writer ≤ limit →
          Frame.Writable writer frame →
          source.flatten = (Frame.writeAll writer (before ++ frame :: after)).2 →
          readAll limit source =
            ((before.filter fun e => Frame.Writable writer e).map Envelope.received ++
              frame.received ::
                (after.filter fun e => Frame.Writable writer e).map Envelope.received, none)) := by
  refine ⟨fun managing => if_pos managing, fun callable => ?_⟩
  refine ⟨r.envelope command, if_neg (by simp [callable]), ?_⟩
  intro later run queue frame mem
  obtain ⟨id, stamped, rfl⟩ := stamped_of_enqueued h run mem
  refine ⟨received_of_call callable stamped, ?_⟩
  intro writer limit before after source wider writable stream
  rw [readAll_of_written wider stream, List.filter_append,
    List.filter_cons_of_pos (by simpa using writable), List.map_append, List.map_cons]

/-- A request with a token and a payload, to the node that never answers. -/
def itemRequest : CallRequest := { token := "t", payload := [1, 2] }

/-- The gateway after a call with that request reached the node's queue. -/
def itemCall : Gateway :=
  (reported (.dispatch 0) ++ [Action.move (.place 0 0)]).foldl perform
    (silentStart.input (.dispatch "default_group" (itemRequest.envelope .getItem) 1000))

/-- The worker reads the request behind a keepalive. -/
theorem calls_reach_workers_itemCall :
    Reachable sample silentStart ∧
      ∃ frame, (frame, .dispatch 0) ∈ enqueued 0 itemCall.journal ∧
        Received itemRequest .getItem frame.received ∧
        readAll 1000 [(Frame.writeAll 1000 [.keepalive, frame]).2] =
          ([.keepalive, frame.received], none) := by
  have reached : Reachable sample silentStart := reachable_play _ _
  obtain ⟨-, carried⟩ := calls_reach_workers reached "default_group" .getItem itemRequest 1000
  obtain ⟨e, prepared, carried⟩ := carried rfl
  obtain rfl : itemRequest.envelope .getItem = e := Except.ok.inj prepared
  have first : silentStart.dispatches.length = 0 := by decide +kernel
  have placed : enqueued 0 itemCall.journal =
      [((itemRequest.envelope .getItem).stamped (2 ^ 48 + 1), .dispatch 0)] := by
    decide +kernel
  rw [first] at carried
  have mem : ((itemRequest.envelope .getItem).stamped (2 ^ 48 + 1), Origin.dispatch 0) ∈
      enqueued 0 itemCall.journal := by
    rw [placed]
    exact List.mem_singleton_self _
  obtain ⟨received, read⟩ := carried (leads_foldl_perform _) mem
  refine ⟨reached, _, mem, received, ?_⟩
  have behind := @read 1000 1000 [.keepalive] [] _ (Nat.le_refl _) (by decide) (List.flatten_singleton)
  rw [List.filter_cons_of_pos (by decide)] at behind
  exact behind

/-- The gateway after a caller spelled out the code of a restart, and the call is on the stream of the
one worker. -/
def restartCall : Gateway :=
  (reported (.dispatch 0) ++ [Action.move (.receive 0), .move (.place 0 0)] ++ fetch 0 ++
    [Action.move (.write 0)]).foldl perform
    (silentStart.input (.dispatch "default_group" (CallRequest.envelope {} (.unrecognized "3")) 1000))

/-- That gateway after the worker replied to what it read. -/
def restartReply (got : Envelope) : Gateway :=
  [Action.input (.send 0 (Frame.bytes got.replyTo)), .move (.receive 0)].foldl perform restartCall

/-- The call is not refused, and the worker reads a restart. When it replies, its session withdraws the
node, and the call goes on waiting without its reply. -/
theorem exists_lifecycle_call :
    CallRequest.prepare {} (.unrecognized "3") = .ok (CallRequest.envelope {} (.unrecognized "3")) ∧
      ∃ got : Envelope, got.command = .gracefulRestart ∧
        (∀ t ∈ restartCall.sessions, readAll 1000 [t.outbound.buffered] = ([got], none)) ∧
        (restartCall.registry.key? "default_node").isSome = true ∧
        (restartReply got).registry.key? "default_node" = none ∧
        (restartReply got).replies.replies = [] ∧
        (restartReply got).dispatches.map (·.progress.isSettled) = [false] := by
  refine ⟨rfl, { command := .gracefulRestart, correlationId := 2 ^ 48 + 1 }, rfl, ?read, ?serves,
    ?withdrawn, ?unanswered, ?waits⟩
  all_goals decide +kernel

end Gateway

end Switchboard
