import Mathlib.Data.List.Induction
import Switchboard.Proofs.Grammar
import Switchboard.Proofs.Shutdown
import Switchboard.Proofs.Trail

/-!
# The handshake

A new stream waits for its first frame until a time that no byte puts off. It is refused if it ends or
fails or goes wrong before there is a frame, if the time is over, or if the gateway is shutting down
(`Refusal`), and whatever happens on it before its first frame changes nothing but its own session
(`Greets`). With its first frame it registers, once.

A first frame that is no `Register` is handed over to the session as its next frame. So the frames that
a session handles are those of its stream, in their order, with or without the first (`Handover`). Where
a session stands (`Stage`) is told after each action from where it stood before.

Main result: `handshake_leaves_no_trace`.
-/

set_option autoImplicit false

namespace Switchboard

namespace Wire

/-- Frames at the front of some bytes, and what is left behind them. -/
inductive ReadOff (limit : Nat) (bytes : List UInt8) : List Envelope → List UInt8 → Prop
  | start : ReadOff limit bytes [] bytes
  | frame {es : List Envelope} {left rest : List UInt8} {e : Envelope}
    (before : ReadOff limit bytes es left) (first : Frame.next limit left .more = .frame e rest) :
    ReadOff limit bytes (es ++ [e]) rest

/-- A frame that is there stays there, and what comes later comes behind it. -/
theorem next_frame_append {limit : Nat} {bytes rest : List UInt8} {e : Envelope}
    (first : Frame.next limit bytes .more = .frame e rest) (more : List UInt8) :
    Frame.next limit (bytes ++ more) .more = .frame e (rest ++ more) := by
  have told : Frame.next limit bytes .more ≠ .incomplete := by
    rw [first]
    simp
  rw [next_append told, first]

/-- Bytes that come later are left behind the frames. -/
theorem ReadOff.append {limit : Nat} {bytes left : List UInt8} {es : List Envelope}
    (read : ReadOff limit bytes es left) (more : List UInt8) :
    ReadOff limit (bytes ++ more) es (left ++ more) := by
  induction read with
  | start => exact .start
  | frame before first ih => exact .frame ih (next_frame_append first more)

end Wire

namespace Gateway

open Wire

/-- What a worker has put on its stream, and what follows it. -/
structure Sent where
  bytes : List UInt8 := []
  tail : Tail := .more

/-- Nothing more comes, only this end, unless the stream ended or failed before. -/
def Sent.cutOff (sent : Sent) (tail : Tail) : Sent :=
  if sent.tail = .more then { sent with tail } else sent

/-- What is on the stream of a session after an action. -/
def Sent.after (id : SessionId) (sent : Sent) : Action → Sent
  | .input (.send other bytes) =>
    if other = id ∧ sent.tail = .more then { sent with bytes := sent.bytes ++ bytes } else sent
  | .input (.closeWrite other) => if other = id then sent.cutOff .ended else sent
  | .input (.failRead other text) => if other = id then sent.cutOff (.failed text) else sent
  | _ => sent

/-- What comes on the stream of a session by these actions. -/
def sentBy (id : SessionId) (actions : List Action) : Sent := actions.foldl (Sent.after id) {}

/-- Why a stream is refused that has not brought a frame. -/
inductive Refusal (s : Settings) (deadline : Nat) (sent : Sent) (g : Gateway) : SessionError → Prop
  /-- It ended before its first byte. -/
  | endOfStream (empty : sent.bytes = []) (ended : sent.tail = .ended) :
    Refusal s deadline sent g .endOfStream
  /-- What is on it is no frame and does not become one, or reading on fails. -/
  | read {cause : CodecError}
    (failed : Frame.next s.sessionLimit sent.bytes sent.tail = .failed cause) :
    Refusal s deadline sent g (.read cause)
  /-- The time is over, and there is no frame yet. -/
  | late (due : deadline ≤ g.clock)
    (incomplete : Frame.next s.sessionLimit sent.bytes sent.tail = .incomplete) :
    Refusal s deadline sent g (.handshakeTimeout (.ofMillis s.handshakeMillis))
  | shutdown (stopping : g.stopping = true) : Refusal s deadline sent g .shutdown

/-- What a move does for a session that waits for its first frame. -/
inductive Greets (s : Settings) (g : Gateway) (id : SessionId) (t : Session) (deadline : Nat)
    (sent : Sent) : Gateway → Prop
  /-- The session ends, and nothing else changes. -/
  | refused {reason : SessionError} (why : Refusal s deadline sent g reason) :
    Greets s g id t deadline sent
      { g with
        sessions := g.sessions.set id { t with phase := .ended reason }
        journal := .ended id reason :: g.journal }
  /-- It registers with the first frame of its stream. -/
  | admitted {e : Envelope} {rest : List UInt8}
    (first : Frame.next s.sessionLimit sent.bytes .more = .frame e rest)
    (room : Queue.isCapacity s.queueCapacity = true) :
    Greets s g id t deadline sent (g.enroll id t e rest)
  /-- The first frame of its stream is there, but no queue can be made. -/
  | broke {e : Envelope} {rest : List UInt8}
    (first : Frame.next s.sessionLimit sent.bytes .more = .frame e rest)
    (none : Queue.isCapacity s.queueCapacity = false) :
    Greets s g id t deadline sent (g.breakDown id t)

/-- How a session ends although it has a frame to handle. -/
inductive Cutoff (g : Gateway) (t : Session) : SessionError → Prop
  | shutdown (stopping : g.stopping = true) : Cutoff g t .shutdown
  | write (broken : t.outbound.broken = true) : Cutoff g t (.write .brokenPipe)

/-- What a move does for a session that serves a node. -/
inductive Tends (g : Gateway) (id : SessionId) (t : Session) (service : Service) (g' : Gateway) :
    Prop
  /-- The session ends. -/
  | ended {reason : SessionError} (why : service.first = none ∨ Cutoff g t reason)
    (here : g'.sessions[id]? = some { t with phase := .ended reason })
    (adds : Adds (Minor id) g g')
  /-- It handles a frame. -/
  | handled {e : Envelope} {inbound : List UInt8}
    (read : Reads g.settings.sessionLimit t service e inbound)
    (eq : g' = g.handle id { t with inbound } { service with first := none } e)
  /-- Its sender goes on. -/
  | sent {t' : Session} {service' : Service} (here : g'.sessions[id]? = some t')
    (serving : t'.phase = .serving service') (first : service'.first = service.first)
    (inbound : t'.inbound = t.inbound) (tail : t'.inboundTail = t.inboundTail)
    (adds : Adds (Minor id) g g')

/-- How the first frame of a stream became a frame of its session: `heard` is what the session
handled. -/
inductive Handover (limit : Nat) (bytes : List UInt8) (e : Envelope) (heard : List Envelope)
    (g : Gateway) (t : Session) : Prop
  /-- It is the next to be handled. -/
  | pending {service : Service} (plain : e.command ≠ .register)
    (serving : t.phase = .serving service) (first : service.first = some e) (none : heard = [])
    (read : ReadOff limit bytes [e] t.inbound)
  /-- What was handled is what the stream brought, without the first frame if this is a
  `Register`. -/
  | past {later : List Envelope} (handled : heard = if e.command = .register then later else e :: later)
    (read : ReadOff limit bytes (e :: later) t.inbound)
    (behind : (∃ service, t.phase = .serving service ∧ service.first = none) ∨
      ∃ reason, t.phase = .ended reason)
  /-- The session ended before its turn. -/
  | cut {reason : SessionError} (plain : e.command ≠ .register) (none : heard = [])
    (ended : t.phase = .ended reason) (why : Cutoff g t reason)

/-- Where the session of a stream stands that came with `g₀`. -/
inductive Stage (s : Settings) (g₀ : Gateway) (id : SessionId) (deadline : Nat)
    (actions : List Action) (g : Gateway) (t : Session) : Prop
  /-- It waits for the first frame, and until the same time as in the beginning. -/
  | waiting (greeting : t.phase = .greeting deadline)
    (unread : t.inbound = (sentBy id actions).bytes) (untold : tale id g.journal = [])
  /-- It was refused. -/
  | refused {before : List Action} {u : Session} {reason : SessionError}
    (earlier : before <+: actions) (there : (before.foldl perform g₀).sessions[id]? = some u)
    (waited : u.phase = .greeting deadline)
    (why : Refusal s deadline (sentBy id before) (before.foldl perform g₀) reason)
    (ended : t.phase = .ended reason) (told : tale id g.journal = [.ended id reason])
  /-- It got its first frame, but no queue can be made. -/
  | brokenDown {e : Envelope} {rest : List UInt8}
    (first : Frame.next s.sessionLimit (sentBy id actions).bytes .more = .frame e rest)
    (none : Queue.isCapacity s.queueCapacity = false) (broken : t.phase = .brokenDown)
    (untold : tale id g.journal = [])
  /-- It registered with its first frame, and has not registered again. -/
  | admitted {e : Envelope} {service : Service} {events : List Event}
    (room : Queue.isCapacity s.queueCapacity = true)
    (identity : service.identity = if e.command = .register then (Metadata.ofFrame e).identity
      else ⟨Identity.defaultNode, Identity.defaultGroup, Identity.defaultConn⟩)
    (told : tale id g.journal = events ++ [.registered id service])
    (once : ∀ other service', .registered other service' ∉ events)
    (handover : Handover s.sessionLimit (sentBy id actions).bytes e (heard (tale id g.journal)) g t)

/-- A session after these actions. -/
structure Standing (s : Settings) (g₀ : Gateway) (id : SessionId) (deadline : Nat)
    (actions : List Action) (g : Gateway) (t : Session) : Prop where
  run : actions.foldl perform g₀ = g
  here : g.sessions[id]? = some t
  tail : t.inboundTail = (sentBy id actions).tail
  stage : Stage s g₀ id deadline actions g t

/-- The handshake of a stream that came with `g₀`, as it is after these actions. -/
structure Handshake (s : Settings) (g₀ : Gateway) (id : SessionId) (deadline : Nat)
    (actions : List Action) (g : Gateway) (t : Session) : Prop where
  stage : Stage s g₀ id deadline actions g t
  /-- What the worker does changes its own session only, and not its phase. -/
  inputs : ∀ {i}, FromWorker id i →
    ∃ t', g.input i = { g with sessions := g.sessions.set id t' } ∧ t'.phase = t.phase
  /-- Before its first frame the session has nothing else to do, and it sets no gauge unless it
  registered. -/
  idle : t.phase = .greeting deadline → g.input (.rouse id) = g
  gauge : (∀ service, .registered id service ∉ g.journal) → g.isReporting (.session id) = false
  /-- Before its first frame the session ends without a trace, or this frame opens it; it is offered to
  nobody. -/
  greets : ∀ {m g'}, t.phase = .greeting deadline → m ∈ sessionMoves id → g.move? m = some g' →
    Greets s g id t deadline (sentBy id actions) g' ∧ g'.replies = g.replies
  /-- A first frame that is still to be handled is what the session handles next. -/
  first : ∀ {service e}, t.phase = .serving service → service.first = some e →
    g.receive id = some (g.handle id t { service with first := none } e)
  /-- Whatever the session handles it handles like any other frame: the first one if this is still to be
  handled, and else the next on the stream. -/
  handles : ∀ {service a g'}, t.phase = .serving service → StepOf id a → g.act? a = some g' →
    heard (tale id g'.journal) = heard (tale id g.journal) ∨
      ∃ e inbound, Reads s.sessionLimit t service e inbound ∧
        g' = g.handle id { t with inbound } { service with first := none } e ∧
        heard (tale id g'.journal) = heard (tale id g.journal) ++ [e]
  /-- Where nothing moves, the session waits only if there is neither a frame nor a reason to refuse the
  stream, and its first frame was handled. -/
  settled : Quiescent g →
    (t.phase = .greeting deadline →
      Frame.next s.sessionLimit (sentBy id actions).bytes (sentBy id actions).tail = .incomplete ∧
        g.clock < deadline ∧ g.stopping = false) ∧
    ∀ {service}, t.phase = .serving service → service.first = none

/-- What a worker does to its stream. -/
structure Fed (id : SessionId) (sent : Sent) (a : Action) (t t' : Session) : Prop where
  phase : t'.phase = t.phase
  broken : t.outbound.broken = true → t'.outbound.broken = true
  tail : t'.inboundTail = (sent.after id a).tail
  bytes : ∃ more, t'.inbound = t.inbound ++ more ∧ (sent.after id a).bytes = sent.bytes ++ more

/-! ## What comes on a stream -/

section Streams

variable {s : Settings} {g g' g₀ : Gateway} {id : SessionId} {t t' : Session} {deadline : Nat}
  {actions : List Action} {a : Action} {sent : Sent}

theorem sentBy_concat (id : SessionId) (actions : List Action) (a : Action) :
    sentBy id (actions ++ [a]) = (sentBy id actions).after id a := by
  rw [sentBy, List.foldl_append]
  rfl

/-- Only its worker does anything to the stream of a session. -/
theorem after_of_foreign (foreign : ∀ {i}, FromWorker id i → a ≠ .input i) :
    sent.after id a = sent := by
  cases a with
  | input i =>
    cases i with
    | send other bytes =>
      refine if_neg fun mine => ?_
      obtain ⟨rfl, -⟩ := mine
      exact foreign (.send bytes) rfl
    | closeWrite other =>
      refine if_neg fun mine => ?_
      subst mine
      exact foreign .closeWrite rfl
    | failRead other text =>
      refine if_neg fun mine => ?_
      subst mine
      exact foreign (.failRead text) rfl
    | _ => rfl
  | move m => rfl

/-- Nothing comes on a stream. -/
theorem Fed.refl (tail : t.inboundTail = sent.tail) (same : sent.after id a = sent) :
    Fed id sent a t t where
  phase := rfl
  broken := fun broken => broken
  tail := by rw [same, tail]
  bytes := ⟨[], by simp, by simp [same]⟩

/-- Nothing more comes on a stream than its end. -/
theorem Fed.of_cutOff (tail : t.inboundTail = sent.tail) {last : Tail}
    (after : sent.after id a = sent.cutOff last) : Fed id sent a t (t.cutOff last) := by
  unfold Session.cutOff Sent.cutOff at *
  cases past : sent.tail with
  | more =>
    rw [if_pos past] at after
    rw [if_pos (tail.trans past)]
    exact ⟨rfl, fun broken => broken, by rw [after], [], by simp, by simp [after]⟩
  | ended =>
    rw [if_neg (by simp [past])] at after
    rw [if_neg (by simp [tail, past])]
    exact .refl tail after
  | failed text =>
    rw [if_neg (by simp [past])] at after
    rw [if_neg (by simp [tail, past])]
    exact .refl tail after

theorem onStream_of_here (here : g.sessions[id]? = some t) (change : Session → Session) :
    g.onStream id change = { g with sessions := g.sessions.set id (change t) } := by
  rw [onStream, here]
  rfl

/-- What a worker does changes its own session only, and not its phase. -/
theorem exists_fed (here : g.sessions[id]? = some t) (tail : t.inboundTail = sent.tail)
    {i : Input} (own : FromWorker id i) :
    ∃ t', g.input i = { g with sessions := g.sessions.set id t' } ∧ Fed id sent (.input i) t t' := by
  cases own with
  | send bytes =>
    refine ⟨_, onStream_of_here here _, ?_⟩
    -- nothing comes any more on a stream that has ended or failed
    by_cases past : sent.tail = .more
    · have more : sent.after id (.input (.send id bytes)) =
          { sent with bytes := sent.bytes ++ bytes } := if_pos ⟨rfl, past⟩
      rw [if_pos (tail.trans past)]
      exact ⟨rfl, fun broken => broken, by rw [more]; exact tail, bytes, rfl, by rw [more]⟩
    · have same : sent.after id (.input (.send id bytes)) = sent := if_neg fun open' => past open'.2
      rw [if_neg (by rw [tail]; exact past)]
      exact .refl tail same
  | closeWrite => exact ⟨_, onStream_of_here here _, .of_cutOff tail (if_pos rfl)⟩
  | failRead text => exact ⟨_, onStream_of_here here _, .of_cutOff tail (if_pos rfl)⟩
  | consume count =>
    refine ⟨_, onStream_of_here here _, ?_⟩
    exact ⟨rfl, fun broken => broken, tail, [], by simp, by simp [Sent.after]⟩
  | closeRead =>
    refine ⟨_, onStream_of_here here _, ?_⟩
    exact ⟨rfl, fun _ => rfl, tail, [], by simp, by simp [Sent.after]⟩

theorem Cutoff.mono {reason : SessionError} (why : Cutoff g t reason)
    (broken : t.outbound.broken = true → t'.outbound.broken = true)
    (stops : g.stopping = true → g'.stopping = true) : Cutoff g' t' reason := by
  cases why with
  | shutdown stopping => exact .shutdown (stops stopping)
  | write broke => exact .write (broken broke)

/-- What comes on a stream comes behind the frames that were read. -/
theorem Handover.feed {limit : Nat} {e : Envelope} {frames : List Envelope}
    (handover : Handover limit sent.bytes e frames g t) (fed : Fed id sent a t t')
    (stops : g.stopping = true → g'.stopping = true) :
    Handover limit (sent.after id a).bytes e frames g' t' := by
  obtain ⟨more, inbound, bytes⟩ := fed.bytes
  rw [bytes]
  cases handover with
  | pending plain serving first none read =>
    refine .pending plain (fed.phase.trans serving) first none ?_
    rw [inbound]
    exact read.append more
  | past handled read behind =>
    refine .past handled ?_ ?_
    · rw [inbound]
      exact read.append more
    · rw [fed.phase]
      exact behind
  | cut plain none ended why =>
    exact .cut plain none (fed.phase.trans ended) (why.mono fed.broken stops)

/-- A session stands where it stood, whatever comes on its stream and wherever others go. -/
theorem Stage.feed (stage : Stage s g₀ id deadline actions g t)
    (fed : Fed id (sentBy id actions) a t t') (same : tale id g'.journal = tale id g.journal)
    (stops : g.stopping = true → g'.stopping = true) :
    Stage s g₀ id deadline (actions ++ [a]) g' t' := by
  obtain ⟨more, inbound, bytes⟩ := fed.bytes
  rw [← sentBy_concat] at bytes
  cases stage with
  | waiting greeting unread untold =>
    refine .waiting (fed.phase.trans greeting) ?_ (same.trans untold)
    rw [inbound, bytes, unread]
  | refused earlier there waited why ended told =>
    exact .refused (earlier.trans (List.prefix_append _ _)) there waited why
      (fed.phase.trans ended) (same.trans told)
  | brokenDown first none broken untold =>
    have first := next_frame_append first more
    rw [← bytes] at first
    exact .brokenDown first none (fed.phase.trans broken) (same.trans untold)
  | admitted room identity told once handover =>
    refine .admitted room identity (same.trans told) once ?_
    rw [same, sentBy_concat]
    exact handover.feed fed stops

end Streams

/-! ## Before the first frame -/

section Greeting

variable {s : Settings} {g g' g₀ : Gateway} {id : SessionId} {t t' : Session} {deadline : Nat}
  {actions : List Action} {sent : Sent}

/-- A session that waits for its first frame has three moves. -/
theorem Deed.of_greeting {m : Move} (deed : Deed g id m g') (here : g.sessions[id]? = some t)
    (greeting : t.phase = .greeting deadline) :
    m = .greet id ∨ m = .giveUp id ∨ m = .halt id := by
  -- the other moves are those of a session that serves a node
  have never : ∀ {t' : Session} {service : Service}, g.sessions[id]? = some t' →
      t'.phase = .serving service → m = .greet id ∨ m = .giveUp id ∨ m = .halt id := by
    intro t' service here' serving
    obtain rfl := Option.some.inj (here'.symm.trans here)
    exact absurd (serving.symm.trans greeting) (by simp)
  cases deed with
  | dismissed reason how here greeting => exact how
  | enrolled e rest here greeting room => exact Or.inl rfl
  | broke here greeting => exact Or.inl rfl
  | finished reason how here serving => exact never here serving
  | handled here serving read => exact never here serving
  | acquired here serving waiting free => exact never here serving
  | retired here serving between notified => exact never here serving
  | looked here serving idle current => exact never here serving
  | missed here serving reaching empty => exact never here serving
  | took here serving reaching first encoded => exact never here serving
  | skipped here serving reaching first unwritable => exact never here serving
  | wrote here serving writing whole pos room le => exact never here serving

/-- A stream is refused for what is on it, or its first frame is there. -/
theorem greets_of_greet (attained : Attained s g) (here : g.sessions[id]? = some t)
    (greeting : t.phase = .greeting deadline) (unread : t.inbound = sent.bytes)
    (tail : t.inboundTail = sent.tail) (h : g.greet id = some g') :
    Greets s g id t deadline sent g' := by
  rw [greet, greeting?_eq_some.2 ⟨here, greeting⟩, settings_of_attained attained] at h
  simp only [Option.bind_eq_bind, Option.bind_some, unread, tail] at h
  split at h
  · exact absurd h (by simp)
  · rename_i finished
    obtain rfl := Option.some.inj h
    obtain ⟨empty, closed⟩ := eq_nil_of_finished finished
    exact .refused (.endOfStream empty closed)
  · rename_i failed
    obtain rfl := Option.some.inj h
    exact .refused (.read failed)
  · rename_i first
    obtain rfl := Option.some.inj h
    -- whether a queue can be made is the same for all nodes
    rw [welcome, canRegister_eq attained]
    split
    · rename_i room
      exact .admitted (next_of_frame first .more) room
    · rename_i none
      exact .broke (next_of_frame first .more) (Bool.eq_false_iff.2 none)

theorem greets_of_giveUp (attained : Attained s g) (here : g.sessions[id]? = some t)
    (greeting : t.phase = .greeting deadline) (unread : t.inbound = sent.bytes)
    (tail : t.inboundTail = sent.tail) (h : g.giveUp id = some g') :
    Greets s g id t deadline sent g' := by
  rw [giveUp, greeting?_eq_some.2 ⟨here, greeting⟩, settings_of_attained attained] at h
  simp only [Option.bind_eq_bind, Option.bind_some, unread, tail] at h
  split at h
  · rename_i late
    obtain rfl := Option.some.inj h
    exact .refused (.late late.1 late.2)
  · exact absurd h (by simp)

theorem greets_of_halt (here : g.sessions[id]? = some t) (greeting : t.phase = .greeting deadline)
    (h : g.halt id = some g') : Greets s g id t deadline sent g' := by
  have waits := greeting?_eq_some.2 ⟨here, greeting⟩
  rw [halt, waits] at h
  split at h
  · rename_i stopping
    split at h
    · rename_i serves
      obtain ⟨here', serving⟩ := serving?_eq_some.1 serves
      obtain rfl := Option.some.inj (here'.symm.trans here)
      exact absurd (serving.symm.trans greeting) (by simp)
    · rename_i same
      obtain ⟨rfl, -⟩ := Prod.mk.inj (Option.some.inj same)
      obtain rfl := Option.some.inj h
      exact .refused (.shutdown stopping)
    · exact absurd h (by simp)
  · exact absurd h (by simp)

/-- Until its first frame is there, a session only ends. -/
theorem greets_of_move (attained : Attained s g) (here : g.sessions[id]? = some t)
    (greeting : t.phase = .greeting deadline) (unread : t.inbound = sent.bytes)
    (tail : t.inboundTail = sent.tail) {m : Move} (mem : m ∈ sessionMoves id)
    (h : g.move? m = some g') : Greets s g id t deadline sent g' := by
  have step := step?_of_move? h
  rcases (deed_of_move mem h).of_greeting here greeting with rfl | rfl | rfl
  · exact greets_of_greet attained here greeting unread tail step
  · exact greets_of_giveUp attained here greeting unread tail step
  · exact greets_of_halt here greeting step

theorem identity_of_first (e : Envelope) :
    firstIdentity e = if e.command = .register then (Metadata.ofFrame e).identity
      else ⟨Identity.defaultNode, Identity.defaultGroup, Identity.defaultConn⟩ := by
  rw [firstIdentity]
  split <;> rfl

/-- A first frame is handed over: a `Register` has done its part, and any other is the next. -/
theorem handover_of_enroll {limit : Nat} {e : Envelope} {rest : List UInt8} {service : Service}
    (first : Frame.next limit sent.bytes .more = .frame e rest)
    (kept : service.first = if e.command = .register then none else some e) :
    Handover limit sent.bytes e [] g { t with inbound := rest, phase := .serving service } := by
  have read : ReadOff limit sent.bytes [e] rest := .frame .start first
  by_cases register : e.command = .register
  · rw [if_pos register] at kept
    exact .past (if_pos register).symm read (Or.inl ⟨service, rfl, kept⟩)
  · rw [if_neg register] at kept
    exact .pending register rfl kept rfl read

end Greeting

/-! ## Behind the first frame -/

section Serving

variable {s : Settings} {g g' g₀ : Gateway} {id : SessionId} {t t' : Session} {service : Service}
  {deadline : Nat} {actions : List Action} {limit : Nat} {bytes : List UInt8} {e : Envelope}

/-- A session serves one node at a time. -/
theorem serving_unique {service' : Service} (here : g.sessions[id]? = some t)
    (serving : t.phase = .serving service) (here' : g.sessions[id]? = some t')
    (serving' : t'.phase = .serving service') : t' = t ∧ service' = service := by
  obtain rfl := Option.some.inj (here'.symm.trans here)
  exact ⟨rfl, Phase.serving.inj (serving'.symm.trans serving)⟩

theorem session_of_finish (here : g.sessions[id]? = some t) (service : Service)
    (reason : SessionError) :
    (g.finish id t service reason).sessions[id]? = some { t with phase := .ended reason } := by
  rw [sessions_finish]
  exact List.getElem?_set_self (List.getElem?_eq_some_iff.1 here).1

/-- A session that handled a frame has none of its first left. -/
theorem session_of_handle (here : g.sessions[id]? = some t) (u : Session) (service : Service)
    (e : Envelope) :
    ∃ closed, (g.handle id u { service with first := none } e).sessions[id]? =
      some { u with phase := .serving { service with first := none, closed } } := by
  have lt := (List.getElem?_eq_some_iff.1 here).1
  cases control : e.command.isControl with
  | true =>
    refine ⟨true, ?_⟩
    rw [(handle_of_control g id u service control).1]
    exact List.getElem?_set_self lt
  | false =>
    refine ⟨service.closed, ?_⟩
    rw [(handle_of_plain g id u _ control).1]
    exact List.getElem?_set_self lt

theorem tends_of_receive (here : g.sessions[id]? = some t) (serving : t.phase = .serving service)
    (h : g.receive id = some g') : Tends g id t service g' := by
  cases first : service.first with
  | some e =>
    have read : Reads g.settings.sessionLimit t service e t.inbound := Or.inl ⟨first, rfl⟩
    rw [receive_of_reads here serving read] at h
    exact .handled read (Option.some.inj h).symm
  | none =>
    have deed := deed_of_receive h
    cases deed with
    | dismissed reason how here' greeting => simp at how
    | finished reason how here' serving' =>
      obtain rfl := Option.some.inj (here'.symm.trans here)
      exact .ended (Or.inl first) (session_of_finish here _ _) (adds_finish id _ _ _)
    | handled here' serving' read =>
      obtain ⟨rfl, rfl⟩ := serving_unique here serving here' serving'
      exact .handled read rfl

theorem tends_of_halt (here : g.sessions[id]? = some t) (serving : t.phase = .serving service)
    (h : g.halt id = some g') : Tends g id t service g' := by
  rw [halt, serving?_eq_some.2 ⟨here, serving⟩] at h
  split at h
  · rename_i stopping
    obtain rfl := Option.some.inj h
    exact .ended (Or.inr (.shutdown stopping)) (session_of_finish here _ _) (adds_finish id _ _ _)
  · exact absurd h (by simp)

theorem tends_of_write (here : g.sessions[id]? = some t) (serving : t.phase = .serving service)
    (h : g.write id = some g') : Tends g id t service g' := by
  have lt := (List.getElem?_eq_some_iff.1 here).1
  rw [write, serving?_eq_some.2 ⟨here, serving⟩] at h
  simp only [Option.bind_eq_bind, Option.bind_some] at h
  split at h
  · split at h
    · rename_i broken
      obtain rfl := Option.some.inj h
      exact .ended (Or.inr (.write broken)) (session_of_finish here _ _) (adds_finish id _ _ _)
    · split at h
      · exact absurd h (by simp)
      · obtain rfl := Option.some.inj h
        exact .sent (List.getElem?_set_self lt) rfl rfl rfl rfl (.of_event rfl ⟨Or.inr rfl, rfl⟩)
  · exact absurd h (by simp)

/-- A session that serves a node ends, handles a frame, or goes on writing. -/
theorem tends_of_move (here : g.sessions[id]? = some t) (serving : t.phase = .serving service)
    {m : Move} (mem : m ∈ sessionMoves id) (h : g.move? m = some g') :
    Tends g id t service g' := by
  have lt := (List.getElem?_eq_some_iff.1 here).1
  have never : ∀ {t' : Session} {deadline : Nat}, g.sessions[id]? = some t' →
      t'.phase = .greeting deadline → Tends g id t service g' := by
    intro t' deadline here' greeting
    obtain rfl := Option.some.inj (here'.symm.trans here)
    exact absurd (greeting.symm.trans serving) (by simp)
  have after : ∀ (service' : Service) (taken : Queue.Taken DispatchId),
      id < (g.afterTaking id service' taken).sessions.length := by
    intro service' taken
    rw [sessions_afterTaking]
    exact lt
  cases deed_of_move mem h with
  | dismissed reason how here' greeting => exact never here' greeting
  | enrolled e rest here' greeting room => exact never here' greeting
  | broke here' greeting => exact never here' greeting
  | finished reason how here' serving' =>
    rcases how with rfl | rfl | rfl
    · exact tends_of_receive here serving (step?_of_move? h)
    · exact tends_of_write here serving (step?_of_move? h)
    · exact tends_of_halt here serving (step?_of_move? h)
  | handled here' serving' read => exact tends_of_receive here serving (step?_of_move? h)
  | acquired here' serving' waiting free =>
    obtain ⟨rfl, rfl⟩ := serving_unique here serving here' serving'
    exact .sent (List.getElem?_set_self lt) rfl rfl rfl rfl (.of_same rfl)
  | retired here' serving' between notified =>
    obtain ⟨rfl, rfl⟩ := serving_unique here serving here' serving'
    exact .sent (List.getElem?_set_self lt) rfl rfl rfl rfl (.of_same rfl)
  | looked here' serving' idle current =>
    obtain ⟨rfl, rfl⟩ := serving_unique here serving here' serving'
    exact .sent (List.getElem?_set_self lt) rfl rfl rfl rfl (.of_event rfl ⟨Or.inl rfl, rfl⟩)
  | missed here' serving' reaching empty =>
    obtain ⟨rfl, rfl⟩ := serving_unique here serving here' serving'
    exact .sent (List.getElem?_set_self lt) rfl rfl rfl rfl (.of_same rfl)
  | @took u service' taken bytes here' serving' reaching first encoded =>
    obtain ⟨rfl, rfl⟩ := serving_unique here serving here' serving'
    have adds : Adds (Minor id) g
        ((g.afterTaking id service' taken).setSender id u service' (.writing bytes)) :=
      (adds_afterTaking id service' taken).trans (.of_same rfl)
    exact .sent (List.getElem?_set_self (after _ _)) rfl rfl rfl rfl adds
  | @skipped u service' taken cause here' serving' reaching first unwritable =>
    obtain ⟨rfl, rfl⟩ := serving_unique here serving here' serving'
    have adds : Adds (Minor id) g
        ((((g.afterTaking id service' taken).setSender id u service' .idle).count
          .framesDropped 1).record (.skipped id taken.frame)) :=
      (adds_afterTaking id service' taken).trans (.of_event rfl ⟨Or.inr rfl, rfl⟩)
    exact .sent (List.getElem?_set_self (after _ _)) rfl rfl rfl rfl adds
  | wrote here' serving' writing whole pos room le =>
    exact tends_of_write here serving (step?_of_move? h)

/-- A session that the scheduler runs looks around if it serves a node, and reads nothing. -/
theorem tends_of_rouse (here : g.sessions[id]? = some t) (serving : t.phase = .serving service) :
    Tends g id t service (g.input (.rouse id)) := by
  rcases input_rouse g id with same | ⟨u, service', here', serving', eq⟩
  · rw [same]
    exact .sent here serving rfl rfl rfl (.refl g)
  · obtain ⟨rfl, rfl⟩ := serving_unique here serving here' serving'
    rw [eq]
    exact .sent (List.getElem?_set_self (List.getElem?_eq_some_iff.1 here).1) rfl rfl rfl rfl
      (.of_event rfl ⟨Or.inl rfl, rfl⟩)

/-- A session that serves a node does not register. -/
theorem Tends.exists_tale (tends : Tends g id t service g') :
    ∃ news, tale id g'.journal = news ++ tale id g.journal ∧
      ∀ other service', .registered other service' ∉ news := by
  have quiet : Adds (Minor id) g g' → ∃ news, tale id g'.journal = news ++ tale id g.journal ∧
      ∀ other service', .registered other service' ∉ news := by
    intro adds
    obtain ⟨news, told, minor⟩ := adds.exists_tale
    exact ⟨news, told, not_registered_of_minor minor⟩
  cases tends with
  | ended why here adds => exact quiet adds
  | sent here serving first inbound tail adds => exact quiet adds
  | @handled e inbound read eq =>
    subst eq
    obtain ⟨news, told, minor⟩ := exists_tale_handle (g := g) id { t with inbound }
      { service with first := none } e
    refine ⟨news ++ [.received id e], by rw [told, List.append_assoc]; rfl, ?_⟩
    intro other service' mem
    rcases List.mem_append.1 mem with new | read
    · exact not_registered_of_minor minor other service' new
    · simp at read

theorem Handover.serving_or_ended {frames : List Envelope}
    (handover : Handover limit bytes e frames g t) :
    (∃ service, t.phase = .serving service) ∨ ∃ reason, t.phase = .ended reason := by
  cases handover with
  | pending plain serving first none read => exact Or.inl ⟨_, serving⟩
  | past handled read behind =>
    refine behind.imp_left ?_
    rintro ⟨service, serving, -⟩
    exact ⟨service, serving⟩
  | cut plain none ended why => exact Or.inr ⟨_, ended⟩

/-- A first frame that is still to be handled is handled next, or the session ends. -/
theorem tend_of_pending (plain : e.command ≠ .register) (first : service.first = some e)
    (none : heard (tale id g.journal) = []) (read : ReadOff limit bytes [e] t.inbound)
    (here : g.sessions[id]? = some t) (tends : Tends g id t service g')
    (stops : g.stopping = true → g'.stopping = true) :
    ∃ t', g'.sessions[id]? = some t' ∧ t'.inboundTail = t.inboundTail ∧
      Handover limit bytes e (heard (tale id g'.journal)) g' t' := by
  cases tends with
  | ended why here' adds =>
    refine ⟨_, here', rfl, .cut plain ((heard_of_adds adds).trans none) rfl ?_⟩
    rcases why with gone | why
    · exact absurd (first.symm.trans gone) (by simp)
    · exact why.mono (fun broken => broken) stops
  | handled next eq =>
    subst eq
    obtain ⟨closed, here'⟩ := session_of_handle here _ _ _
    refine ⟨_, here', rfl, ?_⟩
    -- the stream is not read as long as the first frame is there
    rcases next with ⟨same, rfl⟩ | ⟨gone, -⟩
    · obtain rfl := Option.some.inj (same.symm.trans first)
      refine .past ?_ read (Or.inl ⟨_, rfl, rfl⟩)
      rw [heard_handle, none, if_neg plain]
      rfl
    · exact absurd (first.symm.trans gone) (by simp)
  | sent here' serving' kept inbound tail adds =>
    refine ⟨_, here', tail, .pending plain serving' (kept.trans first) ?_ ?_⟩
    · exact (heard_of_adds adds).trans none
    · rw [inbound]
      exact read

/-- Behind the first frame the next frame of the stream is handled next. -/
theorem tend_of_past {later : List Envelope} (settings : g.settings.sessionLimit = limit)
    (handled : heard (tale id g.journal) = if e.command = .register then later else e :: later)
    (read : ReadOff limit bytes (e :: later) t.inbound) (gone : service.first = none)
    (here : g.sessions[id]? = some t) (tends : Tends g id t service g') :
    ∃ t', g'.sessions[id]? = some t' ∧ t'.inboundTail = t.inboundTail ∧
      Handover limit bytes e (heard (tale id g'.journal)) g' t' := by
  cases tends with
  | ended why here' adds =>
    rw [← heard_of_adds adds] at handled
    exact ⟨_, here', rfl, .past handled read (Or.inr ⟨_, rfl⟩)⟩
  | @handled e' inbound next eq =>
    subst eq
    obtain ⟨closed, here'⟩ := session_of_handle here _ _ _
    refine ⟨_, here', rfl, ?_⟩
    rcases next with ⟨some, -⟩ | ⟨-, next⟩
    · exact absurd (some.symm.trans gone) (by simp)
    · rw [settings] at next
      have order : heard (tale id g.journal) ++ [e'] =
          if e.command = .register then later ++ [e'] else e :: (later ++ [e']) := by
        rw [handled]
        split <;> rfl
      rw [heard_handle]
      exact .past order (.frame read (next_of_frame next .more)) (Or.inl ⟨_, rfl, rfl⟩)
  | sent here' serving' kept inbound tail adds =>
    rw [← heard_of_adds adds] at handled
    refine ⟨_, here', tail, .past handled ?_ (Or.inl ⟨_, serving', kept.trans gone⟩)⟩
    rw [inbound]
    exact read

/-- What a session handles next is the next frame of its stream, beginning with the first. -/
theorem Handover.tend (settings : g.settings.sessionLimit = limit)
    (handover : Handover limit bytes e (heard (tale id g.journal)) g t)
    (here : g.sessions[id]? = some t) (serving : t.phase = .serving service)
    (tends : Tends g id t service g') (stops : g.stopping = true → g'.stopping = true) :
    ∃ t', g'.sessions[id]? = some t' ∧ t'.inboundTail = t.inboundTail ∧
      Handover limit bytes e (heard (tale id g'.journal)) g' t' := by
  cases handover with
  | pending plain serving' first none read =>
    obtain rfl := Phase.serving.inj (serving'.symm.trans serving)
    exact tend_of_pending plain first none read here tends stops
  | past handled read behind =>
    rcases behind with ⟨service', serving', gone⟩ | ⟨reason, ended⟩
    · obtain rfl := Phase.serving.inj (serving'.symm.trans serving)
      exact tend_of_past settings handled read gone here tends
    · exact absurd (ended.symm.trans serving) (by simp)
  | cut plain none ended why => exact absurd (ended.symm.trans serving) (by simp)

end Serving

/-! ## Runs -/

section Runs

variable {s : Settings} {g g' g₀ : Gateway} {id : SessionId} {t : Session} {service : Service}
  {deadline : Nat} {actions : List Action} {a : Action}

theorem perform_of_act? (run : actions.foldl perform g₀ = g) (step : g.act? a = some g') :
    (actions ++ [a]).foldl perform g₀ = g' := by
  rw [List.foldl_append, run, List.foldl_cons, List.foldl_nil, perform, step]
  rfl

theorem stopping_of_act? (step : g.act? a = some g') (stopping : g.stopping = true) :
    g'.stopping = true := by
  have run := changes_of_act step
  clear step
  induction run with
  | refl => exact stopping
  | tail _ c ih => exact stopping_of_change c ih

/-- A session that waits for its first frame ends, registers or breaks down by a move of its own. -/
theorem Standing.greet (standing : Standing s g₀ id deadline actions g t)
    (greeting : t.phase = .greeting deadline) (untold : tale id g.journal = []) {m : Move}
    (greets : Greets s g id t deadline (sentBy id actions) g') (step : g.move? m = some g') :
    ∃ t', Standing s g₀ id deadline (actions ++ [.move m]) g' t' := by
  have lt := (List.getElem?_eq_some_iff.1 standing.here).1
  have run := perform_of_act? (a := .move m) standing.run step
  have same : sentBy id (actions ++ [.move m]) = sentBy id actions := sentBy_concat _ _ _
  have tail := standing.tail
  rw [← same] at tail
  -- each outcome writes the first event of the session's tale, or none
  cases greets with
  | refused why =>
    refine ⟨_, run, List.getElem?_set_self lt, tail,
      .refused (List.prefix_append actions _) ?_ greeting ?_ rfl ?_⟩
    · rw [standing.run]
      exact standing.here
    · rw [standing.run]
      exact why
    · exact (List.filter_cons_of_pos (by simp [Event.session?])).trans (congrArg _ untold)
  | @admitted e rest first room =>
    have told : tale id (g.enroll id t e rest).journal =
        [] ++ [.registered id (g.newService e)] :=
      (List.filter_cons_of_pos (by simp [Event.session?])).trans (congrArg _ untold)
    refine ⟨_, run, List.getElem?_set_self lt, tail,
      .admitted room (identity_of_first e) told (by simp) ?_⟩
    rw [told, same]
    exact handover_of_enroll first rfl
  | broke first none =>
    rw [← same] at first
    exact ⟨_, run, List.getElem?_set_self lt, tail, .brokenDown first none rfl untold⟩

/-- What a session does for its node leads it on. -/
theorem Standing.tend (attained : Attained s g) (standing : Standing s g₀ id deadline actions g t)
    (serving : t.phase = .serving service) (tends : Tends g id t service g')
    (step : g.act? a = some g') (same : sentBy id (actions ++ [a]) = sentBy id actions) :
    ∃ t', Standing s g₀ id deadline (actions ++ [a]) g' t' := by
  have run := perform_of_act? standing.run step
  cases standing.stage with
  | waiting greeting unread untold => exact absurd (greeting.symm.trans serving) (by simp)
  | refused earlier there waited why ended told => exact absurd (ended.symm.trans serving) (by simp)
  | brokenDown first none broken untold => exact absurd (broken.symm.trans serving) (by simp)
  | @admitted e first events room identity told once handover =>
    obtain ⟨news, told', quiet⟩ := tends.exists_tale
    rw [← same] at handover
    obtain ⟨t', here, tail, handover⟩ := handover.tend
      (congrArg _ (settings_of_attained attained)) standing.here serving tends
      (stopping_of_act? step)
    refine ⟨t', run, here, ?_, ?_⟩
    · rw [tail, same]
      exact standing.tail
    · rw [told, ← List.append_assoc] at told'
      refine .admitted room identity told' ?_ handover
      intro other service' mem
      rcases List.mem_append.1 mem with new | old
      · exact quiet other service' new
      · exact once other service' old

/-- A move of its own leads a session on. -/
theorem Standing.move (attained : Attained s g) (standing : Standing s g₀ id deadline actions g t)
    {m : Move} (mem : m ∈ sessionMoves id) (step : g.move? m = some g') :
    ∃ t', Standing s g₀ id deadline (actions ++ [.move m]) g' t' := by
  -- a session that is past takes no move
  have live := (deed_of_move mem step).isLive
  rw [standing.here, Option.any_some, Session.isLive] at live
  cases phase : t.phase with
  | greeting time =>
    cases standing.stage with
    | waiting greeting unread untold =>
      exact standing.greet greeting untold
        (greets_of_move attained standing.here greeting unread standing.tail mem step) step
    | refused earlier there waited why ended told => exact absurd (ended.symm.trans phase) (by simp)
    | brokenDown first none broken untold => exact absurd (broken.symm.trans phase) (by simp)
    | admitted room identity told once handover =>
      rcases handover.serving_or_ended with ⟨service, other⟩ | ⟨reason, other⟩
      · exact absurd (other.symm.trans phase) (by simp)
      · exact absurd (other.symm.trans phase) (by simp)
  | serving service =>
    exact standing.tend attained phase (tends_of_move standing.here phase mem step) step
      (sentBy_concat _ _ _)
  | ended reason => simp [phase] at live
  | brokenDown => simp [phase] at live

/-- A session stands where it stood if neither it nor its stream nor what is told of it changes. -/
theorem Standing.keep (standing : Standing s g₀ id deadline actions g t)
    (run : (actions ++ [a]).foldl perform g₀ = g') (here : g'.sessions[id]? = some t)
    (told : tale id g'.journal = tale id g.journal)
    (stops : g.stopping = true → g'.stopping = true)
    (same : (sentBy id actions).after id a = sentBy id actions) :
    Standing s g₀ id deadline (actions ++ [a]) g' t := by
  have fed : Fed id (sentBy id actions) a t t := .refl standing.tail same
  refine ⟨run, here, ?_, standing.stage.feed fed told stops⟩
  rw [sentBy_concat]
  exact fed.tail

/-- What its worker does leaves a session where it stands. -/
theorem Standing.feed (standing : Standing s g₀ id deadline actions g t) {i : Input}
    (own : FromWorker id i) :
    ∃ t', Standing s g₀ id deadline (actions ++ [.input i]) (g.input i) t' := by
  have step : g.act? (.input i) = some (g.input i) := rfl
  have told := tale_of_aside (.worker own) step (by simp)
  obtain ⟨t', eq, fed⟩ := exists_fed standing.here standing.tail own
  refine ⟨t', perform_of_act? standing.run step, ?_, ?_,
    standing.stage.feed fed told (stopping_of_act? step)⟩
  · rw [eq]
    exact List.getElem?_set_self (List.getElem?_eq_some_iff.1 standing.here).1
  · rw [sentBy_concat]
    exact fed.tail

/-- The scheduler runs a session: it reads nothing. -/
theorem Standing.rouse (attained : Attained s g) (standing : Standing s g₀ id deadline actions g t) :
    ∃ t', Standing s g₀ id deadline (actions ++ [.input (.rouse id)]) (g.input (.rouse id)) t' := by
  have step : g.act? (.input (.rouse id)) = some (g.input (.rouse id)) := rfl
  rcases input_rouse g id with same | ⟨u, service, here, serving, -⟩
  · refine ⟨t, standing.keep (perform_of_act? standing.run step) ?_ ?_ (stopping_of_act? step) rfl⟩
    · rw [same]
      exact standing.here
    · rw [same]
  · obtain rfl := Option.some.inj (here.symm.trans standing.here)
    exact standing.tend attained serving (tends_of_rouse here serving) step (sentBy_concat _ _ _)

/-- Whatever happens leads a session on. -/
theorem Standing.step (attained : Attained s g) (standing : Standing s g₀ id deadline actions g t)
    {a : Action} (step : g.act? a = some g') :
    ∃ t', Standing s g₀ id deadline (actions ++ [a]) g' t' := by
  have run := perform_of_act? standing.run step
  have stops := stopping_of_act? step
  by_cases fed : ∃ i, FromWorker id i ∧ a = .input i
  · obtain ⟨i, own, rfl⟩ := fed
    obtain rfl := Option.some.inj step
    exact standing.feed own
  have same : (sentBy id actions).after id a = sentBy id actions :=
    after_of_foreign fun {i} own same => fed ⟨i, own, same⟩
  rcases stepOf_or_elsewhere attained step with own | ⟨apart, told⟩
  · cases own with
    | worker own => exact absurd ⟨_, own, rfl⟩ fed
    | rouse =>
      obtain rfl := Option.some.inj step
      exact standing.rouse attained
    | tally =>
      obtain ⟨-, rfl⟩ := tally_eq_some (step?_of_move? step)
      exact ⟨t, standing.keep run standing.here rfl stops same⟩
    | publish =>
      obtain ⟨number, -, rfl⟩ := publish_eq_some (step?_of_move? step)
      exact ⟨t, standing.keep run standing.here rfl stops same⟩
    | move mem => exact standing.move attained mem step
  · -- what is no step of the session leaves it alone
    have here : g'.sessions[id]? = some t := by
      rw [← standing.here]
      refine apart.resolve_left ?_
      rw [standing.here]
      simp
    exact ⟨t, standing.keep run here told stops same⟩

/-- What cannot happen leaves a session where it stands. -/
theorem Standing.stay (standing : Standing s g₀ id deadline actions g t) (none : g.act? a = none) :
    Standing s g₀ id deadline (actions ++ [a]) g t := by
  cases a with
  | input i => exact absurd none (by simp [act?])
  | move m =>
    refine standing.keep ?_ standing.here rfl (fun stopping => stopping) rfl
    rw [List.foldl_append, standing.run, List.foldl_cons, List.foldl_nil, perform, none]
    rfl

/-- A stream that comes waits for its first frame. -/
theorem standing_of_connect (h : Reachable s g) (buffer : Nat) :
    ∃ t, Standing s (g.input (.connect buffer)) g.sessions.length (g.clock + s.handshakeMillis) []
      (g.input (.connect buffer)) t := by
  have unknown : tale g.sessions.length g.journal = [] :=
    tale_of_unknown h (List.getElem?_eq_none (Nat.le_refl _))
  refine ⟨_, rfl, List.getElem?_concat_length, rfl, .waiting ?_ rfl unknown⟩
  rw [settings_of_attained (attained_of_reachable h)]

/-- Every stream stands somewhere after any actions. -/
theorem exists_standing (h : Reachable s g) (buffer : Nat) (actions : List Action) :
    ∃ later t, Standing s (g.input (.connect buffer)) g.sessions.length
      (g.clock + s.handshakeMillis) actions later t := by
  -- on the actions, the last one first
  induction actions using List.reverseRecOn with
  | nil => exact ⟨_, standing_of_connect h buffer⟩
  | append_singleton actions a ih =>
    obtain ⟨later, t, standing⟩ := ih
    cases step : later.act? a with
    | none => exact ⟨later, t, standing.stay step⟩
    | some g' =>
      have reached : Reachable s later := by
        rw [← standing.run]
        exact reachable_of_leads (.input _ h) (leads_foldl_perform actions)
      exact ⟨g', standing.step (attained_of_reachable reached) step⟩

/-- What is on the stream of a session that waits was not read. -/
theorem Standing.unread (standing : Standing s g₀ id deadline actions g t) {time : Nat}
    (greeting : t.phase = .greeting time) : t.inbound = (sentBy id actions).bytes := by
  cases standing.stage with
  | waiting _ unread _ => exact unread
  | refused earlier there waited why ended told => exact absurd (greeting.symm.trans ended) (by simp)
  | brokenDown first none broken untold => exact absurd (greeting.symm.trans broken) (by simp)
  | admitted room identity told once handover =>
    rcases handover.serving_or_ended with ⟨service, phase⟩ | ⟨reason, phase⟩
    · exact absurd (greeting.symm.trans phase) (by simp)
    · exact absurd (greeting.symm.trans phase) (by simp)

theorem Greets.replies {sent : Sent} (greets : Greets s g id t deadline sent g') :
    g'.replies = g.replies := by
  cases greets <;> rfl

/-- Where nothing moves, no stream waits that could be greeted or refused. -/
theorem incomplete_of_quiescent (attained : Attained s g) (quiet : Quiescent g)
    (here : g.sessions[id]? = some t) (greeting : t.phase = .greeting deadline) :
    Frame.next s.sessionLimit t.inbound t.inboundTail = .incomplete ∧ g.clock < deadline ∧
      g.stopping = false := by
  have waits := greeting?_eq_some.2 ⟨here, greeting⟩
  have settings := settings_of_attained attained
  have incomplete : Frame.next s.sessionLimit t.inbound t.inboundTail = .incomplete := by
    have still : g.greet id = none := quiet.step? (.greet id)
    rw [greet, waits, settings] at still
    simp only [Option.bind_eq_bind, Option.bind_some] at still
    split at still
    · assumption
    · exact absurd still (by simp)
    · exact absurd still (by simp)
    · exact absurd still (by simp)
  refine ⟨incomplete, ?_, ?_⟩
  · have still : g.giveUp id = none := quiet.step? (.giveUp id)
    rw [giveUp, waits, settings] at still
    simp only [Option.bind_eq_bind, Option.bind_some, incomplete, and_true] at still
    split at still
    · exact absurd still (by simp)
    · rename_i early
      exact Nat.lt_of_not_le early
  · have still : g.halt id = none := quiet.step? (.halt id)
    have idle : g.serving? id = none := by
      rw [serving?, here]
      simp only [greeting]
    rw [halt, waits, idle] at still
    split at still
    · exact absurd still (by simp)
    · rename_i going
      exact Bool.eq_false_iff.2 going

/-- Where nothing moves, a session that serves a node has handled its first frame. -/
theorem Quiescent.first_eq_none (quiet : Quiescent g) (here : g.sessions[id]? = some t)
    (serving : t.phase = .serving service) : service.first = none := by
  cases first : service.first with
  | none => rfl
  | some e =>
    have still : g.receive id = none := quiet.step? (.receive id)
    rw [receive_of_reads here serving (Or.inl ⟨first, rfl⟩)] at still
    exact absurd still (by simp)

/-- What a session that serves a node hears of in a step is a frame that was to be read next. -/
theorem heard_of_act (attained : Attained s g) (here : g.sessions[id]? = some t)
    (serving : t.phase = .serving service) {a : Action} (own : StepOf id a)
    (step : g.act? a = some g') :
    heard (tale id g'.journal) = heard (tale id g.journal) ∨
      ∃ e inbound, Reads s.sessionLimit t service e inbound ∧
        g' = g.handle id { t with inbound } { service with first := none } e ∧
        heard (tale id g'.journal) = heard (tale id g.journal) ++ [e] := by
  by_cases moves : ∃ m ∈ sessionMoves id, a = .move m
  · obtain ⟨m, mem, rfl⟩ := moves
    cases tends_of_move here serving mem step with
    | ended why here' adds => exact Or.inl (heard_of_adds adds)
    | sent here' serving' first inbound tail adds => exact Or.inl (heard_of_adds adds)
    | handled read eq =>
      rw [settings_of_attained attained] at read
      refine Or.inr ⟨_, _, read, eq, ?_⟩
      rw [eq]
      exact heard_handle _ _ _ _
  -- what the worker does, a look around and a gauge are not told
  · left
    rw [tale_of_aside own step fun mem same => moves ⟨_, mem, same⟩]

end Runs

/-! ## Who sets the gauge of the nodes -/

section Reporters

variable {s : Settings} {g g' : Gateway} {id : SessionId}

/-- A session that is to set a gauge from now on has registered. -/
theorem registered_of_deed (attained : Attained s g) {m : Move} (deed : Deed g id m g') :
    g'.reports = g.reports ∨ ∃ first, .registered id first ∈ g'.journal := by
  have serves : ∀ {t : Session} {service : Service}, g.sessions[id]? = some t →
      t.phase = .serving service → ∃ first, .registered id first ∈ g'.journal := by
    intro t service here serving
    have office : g.service? id = some service := by
      rw [service?_of_here here, Session.service?, serving]
    obtain ⟨first, mem, -⟩ := (owned_of_attained attained).seats office
    exact ⟨first, (journal_of_changes (changes_of_deed deed)).mem mem⟩
  cases deed with
  | dismissed reason how here greeting => exact Or.inl rfl
  | enrolled e rest here greeting room => exact Or.inr ⟨_, List.mem_cons_self⟩
  | broke here greeting => exact Or.inl rfl
  | finished reason how here serving => exact Or.inr (serves here serving)
  | handled here serving read => exact Or.inr (serves here serving)
  | acquired here serving waiting free => exact Or.inl rfl
  | retired here serving between notified => exact Or.inl rfl
  | looked here serving idle current => exact Or.inl rfl
  | missed here serving reaching empty => exact Or.inl rfl
  | took here serving reaching first encoded => exact Or.inr (serves here serving)
  | skipped here serving reaching first unwritable => exact Or.inr (serves here serving)
  | wrote here serving writing whole pos room le => exact Or.inl rfl

/-- Whoever has a gauge to set had it before, or is a session that has registered. -/
theorem reporting_of_act (attained : Attained s g) {a : Action} (step : g.act? a = some g')
    (due : g'.isReporting (.session id) = true) :
    g.isReporting (.session id) = true ∨ ∃ first, .registered id first ∈ g'.journal := by
  cases occurs_of_act step with
  | @deed _ other m _ how mem free deed =>
    by_cases mine : other = id
    · subst mine
      refine (registered_of_deed attained deed).imp_left fun same => ?_
      rwa [isReporting, ← same]
    · left
      rwa [isReporting, ← (unread_of_deed deed).others (by simpa using Ne.symm mine)]
  | turn here free turn =>
    left
    rwa [isReporting, ← (unread_of_turn turn).others (by simp)]
  | @tallies r before =>
    left
    have due : ((g.reports.insert r (some (g.reading r))).get? (.session id)).isSome = true := due
    rw [Assoc.get?_insert] at due
    split at due
    · rename_i mine
      rw [isReporting, ← mine, before]
      rfl
    · exact due
  | @publishes r number before =>
    left
    have due : ((g.reports.erase r).get? (.session id)).isSome = true := due
    rw [Assoc.get?_erase] at due
    split at due
    · exact absurd due (by simp)
    · exact due
  | starts group e timeout =>
    left
    rwa [isReporting, ← (unread_dispatch group e timeout).others (by simp)]
  | beats beat =>
    obtain ⟨registry, metrics, news, shape, -⟩ := beatAll_shape (g := g) beat
    rw [shape] at due
    exact Or.inl due
  | _ => exact Or.inl due

/-- Only a session that registered has a gauge to set. -/
theorem registered_of_isReporting (h : Reachable s g) (due : g.isReporting (.session id) = true) :
    ∃ first, .registered id first ∈ g.journal := by
  induction h using Reachable.act_induction with
  | start => exact absurd due (by simp [start, isReporting])
  | step before after act ih =>
    rcases reporting_of_act (attained_of_reachable before) act due with old | told
    · obtain ⟨first, mem⟩ := ih old
      exact ⟨first, (journal_of_changes (changes_of_act act)).mem mem⟩
    · exact told

/-- Nothing holds up a session that waits for its first frame. -/
theorem isHeldUp_of_greeting (h : Reachable s g) {t : Session} {deadline : Nat}
    (here : g.sessions[id]? = some t) (greeting : t.phase = .greeting deadline) :
    g.isHeldUp (.greet id) = false := by
  have silent : g.isReporting (.session id) = false := by
    rw [← Bool.not_eq_true]
    intro due
    obtain ⟨first, mem⟩ := registered_of_isReporting h due
    exact not_registered_of_greeting (attained_of_reachable h) here greeting first mem
  have idle : g.isReaching id = false := by
    rw [isReaching, serving?, here]
    simp only [greeting]
  simp [isHeldUp, Move.reporter?, silent, idle]

end Reporters

/-- A new stream waits for its first frame, until a time that no byte puts off. If it ends before its
first byte, if what is on it is no frame, if reading it fails, if the time is over or if the gateway is
shutting down, then its session ends with just that as its reason, and nothing but this session has
changed; it sets no gauge either. Otherwise its first frame registers the session, once, under the
metadata of a `Register` and else under the default identity. A `Register` is not handled as a frame. Any
other first frame is handled once, like the frames that follow it, after the registration and before all
of them, unless the session is shut down or cannot write before it is its turn. Only where no queue can
be made, the session breaks down and does not register. -/
theorem handshake_leaves_no_trace {s : Settings} {g : Gateway} (h : Reachable s g) (buffer : Nat)
    (actions : List Action) {later : Gateway}
    (run : actions.foldl perform (g.input (.connect buffer)) = later) :
    ∃ t, later.sessions[g.sessions.length]? = some t ∧
      Handshake s (g.input (.connect buffer)) g.sessions.length (g.clock + s.handshakeMillis) actions
        later t := by
  obtain ⟨later', t, standing⟩ := exists_standing h buffer actions
  obtain rfl := standing.run.symm.trans run
  have reached : Reachable s later' := by
    rw [← standing.run]
    exact reachable_of_leads (.input _ h) (leads_foldl_perform actions)
  have attained := attained_of_reachable reached
  have here := standing.here
  refine ⟨t, here, ?_⟩
  constructor
  case stage => exact standing.stage
  case inputs =>
    intro i own
    obtain ⟨t', eq, fed⟩ := exists_fed here standing.tail own
    exact ⟨t', eq, fed.phase⟩
  case idle =>
    intro greeting
    refine (input_rouse later' _).resolve_right ?_
    rintro ⟨u, service, here', serving, -⟩
    obtain rfl := Option.some.inj (here'.symm.trans here)
    exact absurd (greeting.symm.trans serving) (by simp)
  case gauge =>
    intro silent
    rw [← Bool.not_eq_true]
    intro due
    obtain ⟨first, mem⟩ := registered_of_isReporting reached due
    exact silent first mem
  case greets =>
    intro m g' greeting mem step
    have greets := greets_of_move attained here greeting (standing.unread greeting) standing.tail
      mem step
    exact ⟨greets, greets.replies⟩
  case first =>
    intro service e serving first
    exact receive_of_reads here serving (Or.inl ⟨first, rfl⟩)
  case handles =>
    intro service a g' serving own step
    exact heard_of_act attained here serving own step
  case settled =>
    intro quiet
    refine ⟨fun greeting => ?_, fun serving => quiet.first_eq_none here serving⟩
    rw [← standing.unread greeting, ← standing.tail]
    exact incomplete_of_quiescent attained quiet here greeting

/-- A keepalive comes in two pieces and just in time. -/
def pieces : List Action :=
  [.input (.send 0 (keepaliveFrame.take 5)), .input (.elapse 999),
    .input (.send 0 (keepaliveFrame.drop 5)), .move (.greet 0)] ++ reported (.session 0) ++
    [.move (.receive 0)]

/-- The session registers under the default identity and then handles the keepalive. -/
theorem handshake_leaves_no_trace_pieces :
    Reachable sample (.start sample) ∧
      ∃ t, (pieces.foldl perform ((Gateway.start sample).input (.connect 100))).sessions[0]? = some t ∧
        Handshake sample ((Gateway.start sample).input (.connect 100)) 0 1000 pieces
          (pieces.foldl perform ((Gateway.start sample).input (.connect 100))) t ∧
        ((pieces.foldl perform ((Gateway.start sample).input (.connect 100))).service? 0).map
          (·.identity) = some ⟨"default_node", "default_group", "default_conn"⟩ ∧
        heard (tale 0 (pieces.foldl perform ((Gateway.start sample).input (.connect 100))).journal) =
          [.keepalive] := by
  obtain ⟨t, here, handshake⟩ :=
    handshake_leaves_no_trace (.start : Reachable sample (.start sample)) 100 pieces rfl
  exact ⟨.start, t, here, handshake, by decide +kernel, by decide +kernel⟩

/-- A worker connects with queues that cannot be made, sends a keepalive and is greeted. -/
def unhoused : Gateway :=
  [Action.input (.send 0 keepaliveFrame), .move (.greet 0)].foldl perform
    ((Gateway.start boundless.settings).input (.connect 100))

/-- With a valid configuration a session may neither register with its first frame nor end. -/
theorem exists_first_frame_without_registration :
    ¬ ∀ {c : Config} {actions : List Action} {later : Gateway}, c.validate = .ok () →
      actions.foldl perform ((Gateway.start c.settings).input (.connect 100)) = later →
      Quiescent later →
      (∃ e rest, Frame.next c.settings.sessionLimit (sentBy 0 actions).bytes .more = .frame e rest) →
      ∃ event ∈ later.journal,
        (∃ service, event = .registered 0 service) ∨ ∃ reason, event = .ended 0 reason := by
  intro claim
  have quiet : Quiescent unhoused :=
    quiescent_iff_advance?.2 (Option.isNone_iff_eq_none.1 (by decide +kernel))
  have silent : unhoused.journal = [] := List.isEmpty_iff.1 (by decide +kernel)
  have run : [Action.input (.send 0 keepaliveFrame), .move (.greet 0)].foldl perform
      ((Gateway.start boundless.settings).input (.connect 100)) = unhoused := rfl
  obtain ⟨event, mem, -⟩ := claim (by decide) run quiet ⟨.keepalive, [], by decide +kernel⟩
  rw [silent] at mem
  exact absurd mem List.not_mem_nil

end Gateway

end Switchboard
