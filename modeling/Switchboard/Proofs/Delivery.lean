import Switchboard.Proofs.Holding
import Switchboard.Proofs.Ledger
import Switchboard.Proofs.Run
import Switchboard.Proofs.Solo

/-!
# What becomes of an envelope that was taken

A sender that took an envelope writes its frame piece by piece, or skips it if it cannot be
written. The journal tells what each session took and how much of each it wrote (`carried`): all but
the latest are settled, and the latest is settled, being written, or was cut off by the end of its
session (`Fate`). Nothing else is written on a stream.

Main result: `queue_delivery`, which puts this together with the ledger of the queues and their
tenants: envelopes leave a queue in the order in which it accepted them, each goes to a session that
had registered last on the queue when it looked for a takeover, and comes to one of these fates
there. A session can be taken over between its look and the envelope that it takes
(`superseded_may_take`), but takes no more than this one.
-/

set_option autoImplicit false

namespace Switchboard.Gateway

/-- An envelope that a session took from a queue. -/
structure Carriage where
  /-- The journal when the envelope was taken. -/
  before : List Event
  queue : QueueId
  frame : Envelope
  /-- What the session wrote until it took another. -/
  bytes : List UInt8

/-- The envelopes that a session took, latest first. -/
def carried (id : SessionId) : List Event → List Carriage
  | [] => []
  | .taken other queue frame :: before =>
    if other = id then ⟨before, queue, frame, []⟩ :: carried id before else carried id before
  | .wrote other bytes :: before =>
    if other = id then
      match carried id before with
      | c :: rest => { c with bytes := c.bytes ++ bytes } :: rest
      | [] => []
    else carried id before
  | _ :: before => carried id before

/-- The bytes that a session wrote on its stream. -/
def written (id : SessionId) : List Event → List UInt8
  | [] => []
  | .wrote other bytes :: before =>
    if other = id then written id before ++ bytes else written id before
  | _ :: before => written id before

/-- An envelope that was taken and cannot be written. -/
def unwritable (limit : Nat) : Event → Bool
  | .taken _ _ e => !(Wire.Frame.encode limit e).isOk
  | _ => false

/-- What may have become of an envelope that a session took, if it wrote these bytes of it. -/
inductive Fate (g : Gateway) (id : SessionId) (e : Envelope) (bytes : List UInt8) : Prop
  /-- It was written. -/
  | complete (whole : Wire.Frame.encode g.settings.sessionLimit e = .ok bytes)
  /-- It was skipped, which `frames.dropped` counts. -/
  | skipped {cause : Wire.CodecError}
      (error : Wire.Frame.encode g.settings.sessionLimit e = .error cause) (nothing : bytes = [])
  /-- It is being written. -/
  | underway {service : Service} {rest : List UInt8} (serves : g.service? id = some service)
      (writing : service.sender = .writing rest) (more : rest ≠ [])
      (part : Wire.Frame.encode g.settings.sessionLimit e = .ok (bytes ++ rest))
  /-- The session ended in the middle of it. -/
  | cut {s : Session} {reason : SessionError} {rest : List UInt8}
      (here : g.sessions[id]? = some s) (ended : s.phase = .ended reason) (more : rest ≠ [])
      (part : Wire.Frame.encode g.settings.sessionLimit e = .ok (bytes ++ rest))

/-! ## Sessions in step with their streams -/

/-- A session is done with an envelope: the frame is out, or was skipped. -/
def Settled (limit : Nat) (c : Carriage) : Prop :=
  Wire.Frame.encode limit c.frame = .ok c.bytes ∨
    (∃ cause, Wire.Frame.encode limit c.frame = .error cause) ∧ c.bytes = []

/-- All envelopes but the latest are settled, and these bytes of the latest are missing. -/
def Midway (limit : Nat) (cs : List Carriage) (rest : List UInt8) : Prop :=
  ∃ c earlier, cs = c :: earlier ∧ rest ≠ [] ∧
    Wire.Frame.encode limit c.frame = .ok (c.bytes ++ rest) ∧ ∀ c ∈ earlier, Settled limit c

/-- How the envelopes that a session took stand in a phase. -/
def InStep (limit : Nat) (cs : List Carriage) : Phase → Prop
  | .greeting _ | .brokenDown => cs = []
  | .serving service =>
    (∀ rest, service.sender = .writing rest → Midway limit cs rest) ∧
      ((∀ rest, service.sender ≠ .writing rest) → ∀ c ∈ cs, Settled limit c)
  | .ended _ => (∀ c ∈ cs, Settled limit c) ∨ ∃ rest, Midway limit cs rest

/-- Every session is in step with its stream, and names of sessions to come are not used. -/
structure Carrying (g : Gateway) : Prop where
  known : ∀ {id s}, g.sessions[id]? = some s →
    InStep g.settings.sessionLimit (carried id g.journal) s.phase
  unknown : ∀ {id}, g.sessions[id]? = none → carried id g.journal = []

section Carrying

variable {g g' : Gateway}

theorem inStep_ended {limit : Nat} {cs : List Carriage} {service : Service}
    (h : InStep limit cs (.serving service)) (reason : SessionError) :
    InStep limit cs (.ended reason) := by
  by_cases writing : ∃ rest, service.sender = .writing rest
  · obtain ⟨rest, writing⟩ := writing
    exact Or.inr ⟨rest, h.1 rest writing⟩
  · exact Or.inl (h.2 fun rest eq => writing ⟨rest, eq⟩)

theorem inStep_of_settled {limit : Nat} {cs : List Carriage} {service : Service}
    (h : ∀ c ∈ cs, Settled limit c) (between : ∀ rest, service.sender ≠ .writing rest) :
    InStep limit cs (.serving service) :=
  ⟨fun rest writing => absurd writing (between rest), fun _ => h⟩

theorem inStep_of_midway {limit : Nat} {cs : List Carriage} {service : Service}
    {rest : List UInt8} (h : Midway limit cs rest) (writing : service.sender = .writing rest) :
    InStep limit cs (.serving service) := by
  refine ⟨fun other eq => ?_, fun between => absurd writing (between rest)⟩
  obtain rfl := Sender.writing.inj (writing.symm.trans eq)
  exact h

theorem inStep_congr {limit : Nat} {cs : List Carriage} {service service' : Service}
    (h : InStep limit cs (.serving service)) (sender : service'.sender = service.sender) :
    InStep limit cs (.serving service') := by
  refine ⟨fun rest eq => h.1 rest (sender.symm.trans eq), fun between => h.2 fun rest eq => ?_⟩
  exact between rest (sender.trans eq)

/-- A session that waits for its first frame took nothing. -/
theorem settled_of_greeting {limit : Nat} {cs : List Carriage} {deadline : Nat}
    (h : InStep limit cs (.greeting deadline)) : ∀ c ∈ cs, Settled limit c := by
  have nothing : cs = [] := h
  simp [nothing]

/-- A frame has bytes. -/
theorem encode_ne_nil {limit : Nat} {e : Envelope} {bytes : List UInt8}
    (h : Wire.Frame.encode limit e = .ok bytes) : bytes ≠ [] := by
  unfold Wire.Frame.encode at h
  split at h
  · obtain rfl := Except.ok.inj h
    simp [Wire.encodeHeader, Wire.headerSize, Wire.littleEndian]
  · exact absurd h (by simp)

/-- Nothing happens to the phases of the sessions and to what they carry. -/
theorem Carrying.frame (w : Carrying g)
    (phases : ∀ id : SessionId, (g'.sessions[id]?).map (·.phase) = (g.sessions[id]?).map (·.phase))
    (settings : g'.settings = g.settings)
    (carries : ∀ id, carried id g'.journal = carried id g.journal) : Carrying g' where
  known {id s'} here := by
    have phase := phases id
    rw [here, Option.map_some, eq_comm, Option.map_eq_some_iff] at phase
    obtain ⟨s, here', same⟩ := phase
    rw [carries, settings, ← same]
    exact w.known here'
  unknown {id} none := by
    have phase := phases id
    rw [none, Option.map_none, eq_comm, Option.map_eq_none_iff] at phase
    rw [carries]
    exact w.unknown phase

/-- Only one session changes its phase or carries something else. -/
theorem Carrying.of_set (w : Carrying g) {id : SessionId} {s t : Session}
    (here : g.sessions[id]? = some s) (sessions : g'.sessions = g.sessions.set id t)
    (settings : g'.settings = g.settings)
    (others : ∀ id', id ≠ id' → carried id' g'.journal = carried id' g.journal)
    (step : InStep g.settings.sessionLimit (carried id g.journal) s.phase →
      InStep g.settings.sessionLimit (carried id g'.journal) t.phase) : Carrying g' := by
  constructor
  case known =>
    intro id' s' here'
    rw [settings]
    rcases getElem?_set_cases (sessions ▸ here') with ⟨rfl, rfl⟩ | ⟨other, old⟩
    · exact step (w.known here)
    · rw [others id' (Ne.symm other)]
      exact w.known old
  case unknown =>
    intro id' missing
    have beyond := getElem?_eq_none_of_set (sessions ▸ missing)
    rw [others id']
    · exact w.unknown beyond
    · rintro rfl
      exact absurd (here.symm.trans beyond) (by simp)

/-- Only one session that serves a node changes its phase or carries something else. -/
theorem Carrying.goes_on (w : Carrying g) {id : SessionId} {s t : Session} {service : Service}
    (here : g.sessions[id]? = some s) (serving : s.phase = .serving service)
    (sessions : g'.sessions = g.sessions.set id t) (settings : g'.settings = g.settings)
    (others : ∀ id', id ≠ id' → carried id' g'.journal = carried id' g.journal)
    (step : InStep g.settings.sessionLimit (carried id g.journal) (.serving service) →
      InStep g.settings.sessionLimit (carried id g'.journal) t.phase) : Carrying g' :=
  w.of_set here sessions settings others fun before => step (serving ▸ before)

theorem carried_letIn (waiting : Option DispatchId) (queue : QueueId) (id : SessionId) :
    carried id (g.letIn waiting queue).journal = carried id g.journal := by
  rcases journal_letIn g waiting queue with eq | ⟨caller, d, -, -, eq⟩
  · rw [eq]
  · rw [eq]
    rfl

theorem carrying_start (s : Settings) : Carrying (.start s) :=
  ⟨fun here => absurd here (by simp [start]), fun _ => rfl⟩

/-- A sender takes an envelope to write it. -/
theorem inStep_took {limit : Nat} {cs : List Carriage} {service : Service} {c : Carriage}
    {bytes : List UInt8} (h : InStep limit cs (.serving service))
    (reaching : service.sender = .reaching) (fresh : c.bytes = [])
    (encoded : Wire.Frame.encode limit c.frame = .ok bytes) :
    InStep limit (c :: cs) (.serving { service with sender := .writing bytes }) := by
  refine inStep_of_midway ⟨c, cs, rfl, encode_ne_nil encoded, ?_, h.2 (by simp [reaching])⟩ rfl
  rw [fresh, List.nil_append, encoded]

/-- A sender writes some of a frame. -/
theorem inStep_wrote {limit : Nat} {cs : List Carriage} {service : Service} {rest : List UInt8}
    (count : Nat) (h : InStep limit cs (.serving service))
    (writing : service.sender = .writing rest) :
    ∃ c earlier, cs = c :: earlier ∧
      InStep limit ({ c with bytes := c.bytes ++ rest.take count } :: earlier)
        (.serving { service with sender := senderWith (rest.drop count) }) := by
  obtain ⟨c, earlier, rfl, -, part, settled⟩ := h.1 rest writing
  refine ⟨c, earlier, rfl, ?_⟩
  have whole : c.bytes ++ rest.take count ++ rest.drop count = c.bytes ++ rest := by
    rw [List.append_assoc, List.take_append_drop]
  by_cases nothing : rest.drop count = []
  · -- the last piece: the frame is out
    refine inStep_of_settled ?_ ?_
    · rw [nothing, List.append_nil] at whole
      refine List.forall_mem_cons.2 ⟨Or.inl ?_, settled⟩
      rw [part, ← whole]
    · simp [nothing, senderWith]
  · refine inStep_of_midway ⟨_, earlier, rfl, nothing, ?_, settled⟩ ?_
    · rw [part, ← whole]
    · simp [nothing, senderWith]

/-- Every change keeps sessions in step. -/
theorem carrying_of_change (w : Carrying g) (c : Change g g') : Carrying g' := by
  have same : ∀ {h : Gateway}, h.sessions = g.sessions → h.settings = g.settings →
      (∀ id, carried id h.journal = carried id g.journal) → Carrying h :=
    fun sessions settings carries => w.frame (fun id => by rw [sessions]) settings carries
  cases c with
  | @connected s deadline greeting inbound outbound =>
    -- the newcomer gets the first name that was not used
    refine ⟨fun {id t} here => ?_, fun {id} none => ?_⟩
    · rcases getElem?_concat_cases here with old | ⟨rfl, rfl⟩
      · exact w.known old
      · rw [greeting]
        exact w.unknown (List.getElem?_eq_none (Nat.le_refl _))
    · have beyond := List.getElem?_eq_none_iff.1 none
      rw [List.length_append] at beyond
      exact w.unknown (List.getElem?_eq_none (Nat.le_trans (Nat.le_add_right _ _) beyond))
  | streamed here phase inbound outbound =>
    refine w.of_set here rfl rfl (fun _ _ => rfl) fun step => ?_
    rw [phase]
    exact step
  | dismissed reason here greeting =>
    exact w.of_set here rfl rfl (fun _ _ => rfl) fun step =>
      Or.inl (settled_of_greeting (greeting ▸ step))
  | broke here greeting =>
    refine w.of_set here rfl rfl (fun _ _ => rfl) fun step => ?_
    rw [greeting] at step
    exact step
  | enrolled e rest here greeting room =>
    exact w.of_set here rfl rfl (fun _ _ => rfl) fun step =>
      inStep_of_settled (settled_of_greeting (greeting ▸ step)) (by simp [newService])
  | heeded here serving read aside =>
    exact w.goes_on here serving rfl rfl (fun _ _ => rfl) fun step => inStep_congr step rfl
  | answered here serving read plain handed =>
    exact w.goes_on here serving rfl rfl (fun _ _ => rfl) fun step => inStep_congr step rfl
  | unanswered here serving read plain missed =>
    exact w.goes_on here serving rfl rfl (fun _ _ => rfl) fun step => inStep_congr step rfl
  | closed current here serving fresh report =>
    exact w.goes_on here serving rfl rfl (fun _ _ => rfl) fun step => inStep_congr step rfl
  | ended reason here serving past =>
    exact w.goes_on here serving rfl rfl (fun _ _ => rfl) fun step => inStep_ended step reason
  | acquired here serving waiting free =>
    exact w.goes_on here serving rfl rfl (fun _ _ => rfl) fun step =>
      inStep_of_settled (step.2 (by simp [waiting])) (by simp)
  | retired here serving between notified =>
    refine w.goes_on here serving rfl rfl (fun _ _ => rfl) fun step =>
      inStep_of_settled (step.2 ?_) (by simp)
    rcases between with eq | eq <;> simp [eq]
  | looked here serving idle current =>
    exact w.goes_on here serving rfl rfl (fun _ _ => rfl) fun step =>
      inStep_of_settled (step.2 (by simp [idle])) (by simp)
  | missed here serving reaching empty =>
    exact w.goes_on here serving rfl rfl (fun _ _ => rfl) fun step =>
      inStep_of_settled (step.2 (by simp [reaching])) (by simp)
  | @took id s service taken bytes here serving reaching popped encoded =>
    refine w.goes_on here serving (sessions_letIn _ _) (settings_letIn _ _) (fun id' other => ?_)
      fun step => ?_
    · rw [carried_letIn, carried, if_neg other]
    · rw [carried_letIn, carried, if_pos rfl]
      exact inStep_took step reaching rfl encoded
  | @skipped id s service taken cause here serving reaching popped unwritable =>
    -- the session carries one envelope more, of which it writes nothing
    refine w.goes_on here serving (sessions_letIn _ _) (settings_letIn _ _) (fun id' other => ?_)
      fun step => ?_
    · show carried id' (Gateway.journal (letIn _ _ _)) = _
      rw [carried_letIn, carried, if_neg other]
    · show InStep _ (carried id (Gateway.journal (letIn _ _ _))) _
      rw [carried_letIn, carried, if_pos rfl]
      have settled := step.2 (by simp [reaching])
      refine inStep_of_settled (List.forall_mem_cons.2 ⟨Or.inr ?_, settled⟩) (by simp)
      exact ⟨⟨cause, unwritable⟩, rfl⟩
  | @wrote id s service rest count here serving writing pos room fits whole =>
    refine w.goes_on here serving rfl rfl (fun id' other => ?_) fun step => ?_
    · rw [carried, if_neg other]
    · obtain ⟨c, earlier, eq, after⟩ := inStep_wrote count step writing
      rw [carried, if_pos rfl, eq]
      exact after
  | _ => exact same rfl rfl fun _ => rfl

theorem carrying_of_attained {s : Settings} (h : Attained s g) : Carrying g := by
  induction h with
  | refl => exact carrying_start s
  | tail _ c ih => exact carrying_of_change ih c

end Carrying

/-! ## Streams -/

section Streams

variable {g g' : Gateway} {s : Settings}

theorem written_letIn (waiting : Option DispatchId) (queue : QueueId) (id : SessionId) :
    written id (g.letIn waiting queue).journal = written id g.journal := by
  rcases journal_letIn g waiting queue with eq | ⟨caller, d, -, -, eq⟩
  · rw [eq]
  · rw [eq]
    rfl

/-- A stream carries what its session wrote of the envelopes it took, in this order, and nothing
else. -/
theorem written_of_attained (h : Attained s g) (id : SessionId) :
    written id g.journal = ((carried id g.journal).reverse.map (·.bytes)).flatten := by
  induction h with
  | refl => rfl
  | @tail g g' attained c ih =>
    have keep : ∀ journal, written id journal = written id g.journal →
        carried id journal = carried id g.journal →
        written id journal = ((carried id journal).reverse.map (·.bytes)).flatten := by
      intro journal bytes carries
      rw [bytes, carries, ih]
    -- an envelope that was just taken has no bytes yet
    have takes : ∀ {other queue e}, written id (.taken other queue e :: g.journal) =
        ((carried id (.taken other queue e :: g.journal)).reverse.map (·.bytes)).flatten := by
      intro other queue e
      show written id g.journal = _
      rw [carried]
      split
      · simp [ih]
      · exact ih
    cases c with
    | took here serving reaching popped encoded =>
      rw [written_letIn, carried_letIn]
      exact takes
    | skipped here serving reaching popped unwritable =>
      show written id (Gateway.journal (letIn _ _ _)) =
        ((carried id (Gateway.journal (letIn _ _ _))).reverse.map (·.bytes)).flatten
      rw [written_letIn, carried_letIn]
      exact takes
    | @wrote other t service rest count here serving writing pos room fits whole =>
      -- the bytes belong to the latest envelope, which is there because it is being written
      have step := (carrying_of_attained attained).known here
      rw [serving] at step
      obtain ⟨c, earlier, eq, -⟩ := step.1 rest writing
      simp only [written, carried]
      split
      · rename_i same
        subst same
        rw [ih, eq]
        simp
      · exact ih
    | _ => exact keep _ rfl rfl

/-- What waits in a stream for its worker is the last of what was written. -/
theorem buffered_of_attained (h : Attained s g) {id : SessionId} {t : Session}
    (here : g.sessions[id]? = some t) : t.outbound.buffered <:+ written id g.journal := by
  induction h generalizing t with
  | refl => exact absurd here (by simp [start])
  | @tail g g' attained c ih =>
    -- only writing adds to a stream, and a worker takes from its front
    have sets : ∀ {other : SessionId} {old new : Session}, g.sessions[other]? = some old →
        (g.sessions.set other new)[id]? = some t →
        new.outbound.buffered <:+ old.outbound.buffered →
        t.outbound.buffered <:+ written id g.journal := by
      intro other old new there now fewer
      rcases getElem?_set_cases now with ⟨rfl, rfl⟩ | ⟨-, same⟩
      · exact fewer.trans (ih there)
      · exact ih same
    cases c with
    | connected greeting inbound outbound =>
      rcases getElem?_concat_cases here with old | ⟨rfl, rfl⟩
      · exact ih old
      · rw [outbound]
        exact List.nil_suffix
    | streamed there phase inbound outbound => exact sets there here outbound
    | dismissed reason there greeting => exact sets there here List.suffix_rfl
    | broke there greeting => exact sets there here List.suffix_rfl
    | enrolled e rest there greeting room => exact sets there here List.suffix_rfl
    | heeded there serving read aside => exact sets there here List.suffix_rfl
    | answered there serving read plain handed => exact sets there here List.suffix_rfl
    | unanswered there serving read plain missed => exact sets there here List.suffix_rfl
    | closed current there serving fresh report => exact sets there here List.suffix_rfl
    | ended reason there serving past => exact sets there here List.suffix_rfl
    | acquired there serving waiting free => exact sets there here List.suffix_rfl
    | retired there serving between notified => exact sets there here List.suffix_rfl
    | looked there serving idle current => exact sets there here List.suffix_rfl
    | missed there serving reaching empty => exact sets there here List.suffix_rfl
    | took there serving reaching popped encoded =>
      rw [sessions_letIn] at here
      rw [written_letIn]
      exact sets there here List.suffix_rfl
    | skipped there serving reaching popped unwritable =>
      have here' : (Gateway.sessions (letIn _ _ _))[id]? = some t := here
      rw [sessions_letIn] at here'
      show _ <:+ written id (Gateway.journal (letIn _ _ _))
      rw [written_letIn]
      exact sets there here' List.suffix_rfl
    | @wrote other old service rest count there serving writing pos room fits whole =>
      rw [written]
      rcases getElem?_set_cases here with ⟨rfl, rfl⟩ | ⟨apart, same⟩
      · rw [if_pos rfl]
        obtain ⟨earlier, eq⟩ := ih there
        exact ⟨earlier, by rw [← eq, List.append_assoc]⟩
      · rw [if_neg (Ne.symm apart)]
        exact ih same
    | _ => exact ih here

/-! ## Fates -/

/-- A session carries exactly the envelopes that it took. -/
theorem mem_carried_iff {id : SessionId} {queue : QueueId} {e : Envelope} {before : List Event}
    (journal : List Event) :
    (∃ bytes, ⟨before, queue, e, bytes⟩ ∈ carried id journal) ↔
      .taken id queue e :: before <:+ journal := by
  induction journal with
  | nil => simp [carried]
  | cons event earlier ih =>
    rw [List.suffix_cons_iff]
    cases event with
    | taken other queue' e' =>
      simp only [carried, List.cons.injEq, Event.taken.injEq]
      by_cases same : other = id
      · rw [if_pos same]
        subst same
        rw [← ih]
        simp only [List.mem_cons, Carriage.mk.injEq, exists_or]
        grind
      · rw [if_neg same, ih]
        grind
    | wrote other bytes' =>
      simp only [carried, List.cons.injEq, reduceCtorEq, false_and, false_or]
      rw [← ih]
      by_cases same : other = id
      · rw [if_pos same]
        cases carries : carried id earlier with
        | nil => simp
        | cons c rest =>
          obtain ⟨before', queue', e', bytes⟩ := c
          simp only [List.mem_cons, Carriage.mk.injEq, exists_or]
          grind
      · rw [if_neg same]
    | _ => simpa only [carried, List.cons.injEq, reduceCtorEq, false_and, false_or] using ih

/-- Every envelope that a session took is written, being written, skipped or cut off. -/
theorem fate_of_mem_carried (h : Attained s g) {id : SessionId} {c : Carriage}
    (mem : c ∈ carried id g.journal) : Fate g id c.frame c.bytes := by
  have done : Settled g.settings.sessionLimit c → Fate g id c.frame c.bytes := by
    rintro (whole | ⟨⟨cause, error⟩, nothing⟩)
    · exact .complete whole
    · exact .skipped error nothing
  have w := carrying_of_attained h
  cases here : g.sessions[id]? with
  | none =>
    rw [w.unknown here] at mem
    exact absurd mem (by simp)
  | some t =>
    have step := w.known here
    cases phase : t.phase with
    | greeting deadline =>
      rw [phase] at step
      exact done (settled_of_greeting step c mem)
    | brokenDown =>
      rw [phase] at step
      rw [show carried id g.journal = [] from step] at mem
      exact absurd mem (by simp)
    | serving service =>
      rw [phase] at step
      by_cases writing : ∃ rest, service.sender = .writing rest
      · obtain ⟨rest, writing⟩ := writing
        obtain ⟨latest, earlier, eq, more, part, settled⟩ := step.1 rest writing
        rw [eq] at mem
        rcases List.mem_cons.1 mem with rfl | mem
        · exact .underway (service?_eq_some.2 ⟨t, here, phase⟩) writing more part
        · exact done (settled c mem)
      · exact done (step.2 (fun rest eq => writing ⟨rest, eq⟩) c mem)
    | ended reason =>
      rw [phase] at step
      rcases step with settled | ⟨rest, latest, earlier, eq, more, part, settled⟩
      · exact done (settled c mem)
      · rw [eq] at mem
        rcases List.mem_cons.1 mem with rfl | mem
        · exact .cut here phase more part
        · exact done (settled c mem)

theorem countP_letIn (waiting : Option DispatchId) (queue : QueueId) (limit : Nat) :
    (g.letIn waiting queue).journal.countP (unwritable limit) =
      g.journal.countP (unwritable limit) := by
  rcases journal_letIn g waiting queue with eq | ⟨caller, d, -, -, eq⟩
  · rw [eq]
  · rw [eq, List.countP_cons_of_neg (by simp [unwritable])]

/-- The counter of dropped frames counts the envelopes that were taken and cannot be written. -/
theorem framesDropped_of_attained (h : Attained s g) :
    g.metrics.value .framesDropped =
      (g.journal.countP (unwritable g.settings.sessionLimit) : Int) := by
  induction h with
  | refl => rfl
  | @tail g g' attained c ih =>
    cases c with
    | aside drops later stops => exact drops.1.trans ih
    | unanswered here serving read plain missed =>
      rw [Metrics.value_add, if_neg (by simp), ih, List.countP_cons_of_neg (by simp [unwritable])]
    | took here serving reaching popped encoded =>
      rw [settings_letIn, countP_letIn, metrics_letIn, List.countP_cons_of_neg, ih]
      simp [unwritable, encoded, Except.isOk, Except.toBool]
    | @skipped id t service taken cause here serving reaching popped error =>
      show (Metrics.add (Gateway.metrics (letIn _ _ _)) _ _).value _ =
        ((List.countP (unwritable (Gateway.settings (letIn _ _ _)).sessionLimit)
          (.skipped id taken.frame :: Gateway.journal (letIn _ _ _)) : Nat) : Int)
      rw [settings_letIn, metrics_letIn, Metrics.value_add, if_pos rfl,
        List.countP_cons_of_neg (by simp [unwritable]), countP_letIn, List.countP_cons_of_pos, ih]
      · rfl
      · simp [unwritable, error, Except.isOk, Except.toBool]
    | _ => exact ih

end Streams

/-! ## Delivery -/

/-- What a queue accepted is what was taken from it, in this order, and what is on it, which is
never more than its capacity. Each envelope was taken by a session that had registered last on the
queue when it last looked for a takeover, with nothing taken from the queue in between, and that
session wrote it, is writing it, skipped and counted it, or ended in the middle of it. A session that
takes another envelope later had still registered last when it took this one, so a superseded one
takes at most one more. A stream carries nothing else, and what waits in it for the worker was
written last. -/
theorem queue_delivery {s : Settings} {g : Gateway} (h : Reachable s g) (queue : QueueId) :
    (dequeued queue g.journal).map (·.2) ++ (g.registry.queue queue).frames =
        (enqueued queue g.journal).map (·.1) ∧
      (g.registry.queue queue).frames.length ≤ s.queueCapacity ∧
      (∀ {id e before}, .taken id queue e :: before <:+ g.journal →
        (∃ earlier registered, lastLook? id before = some earlier ∧
            tenant? queue earlier = some (id, registered) ∧
            dequeued queue before = dequeued queue earlier) ∧
          ∃ bytes, ⟨before, queue, e, bytes⟩ ∈ carried id g.journal ∧ Fate g id e bytes) ∧
      (∀ {id e e' before later}, .taken id queue e :: before <:+ later →
        .taken id queue e' :: later <:+ g.journal →
        ∃ registered, tenant? queue before = some (id, registered)) ∧
      (∀ id, written id g.journal = ((carried id g.journal).reverse.map (·.bytes)).flatten) ∧
      (∀ {id : SessionId} {t}, g.sessions[id]? = some t →
        t.outbound.buffered <:+ written id g.journal) ∧
      g.metrics.value .framesDropped = (g.journal.countP (unwritable s.sessionLimit) : Int) := by
  have attained := attained_of_reachable h
  have ledger := ledger_of_attained attained
  have settings := settings_of_attained attained
  refine ⟨(ledger.balance queue).symm, ?_, fun {id e before} taken => ⟨?_, ?_⟩,
    tenant_of_taken_before attained, ?_, ?_, ?_⟩
  · rw [← capacity_of_attained attained]
    exact ledger.bounded queue
  · exact tenant_of_taken attained taken
  · obtain ⟨bytes, mem⟩ := (mem_carried_iff g.journal).2 taken
    exact ⟨bytes, mem, fate_of_mem_carried attained mem⟩
  · exact written_of_attained attained
  · exact buffered_of_attained attained
  · rw [← settings]
    exact framesDropped_of_attained attained

/-- A node is taken over while the first of two dispatches is being written. -/
def takeoverRun : List Action :=
  join 0 100 keepaliveFrame ++ ask 0 "default_group" { command := .getItem } 1000 ++
    [.move (.place 0 0)] ++ fetch 0 ++ join 1 100 keepaliveFrame ++
    ask 1 "default_group" { command := .getItem } 1000 ++
    [.move (.place 1 0), .move (.write 0), .move (.retire 0), .move (.acquire 1)] ++ fetch 1 ++
    [.move (.write 1)]

/-- Each of the two envelopes goes to the session that had the node when it was taken. -/
theorem queue_delivery_takeover :
    Reachable sample (play sample takeoverRun) ∧
      (dequeued 0 (play sample takeoverRun).journal).map (·.1) = [0, 1] ∧
      (dequeued 0 (play sample takeoverRun).journal).map (·.2) ++
          ((play sample takeoverRun).registry.queue 0).frames =
        (enqueued 0 (play sample takeoverRun).journal).map (·.1) :=
  ⟨reachable_play sample takeoverRun, by decide +kernel,
    (queue_delivery (reachable_play sample takeoverRun) 0).1⟩

/-- A node is taken over after its session has looked for a takeover and before the session takes the
envelope on its queue. -/
def lateRun : List Action :=
  join 0 100 keepaliveFrame ++ ask 0 "default_group" { command := .getItem } 1000 ++
    [.move (.place 0 0), .move (.reach 0)] ++ join 1 100 keepaliveFrame ++ [.move (.take 0)]

/-- A session closes with an envelope on its queue, and the node connects again, which gives it a new
queue, before the session takes the envelope. -/
def drainRun : List Action :=
  join 0 100 keepaliveFrame ++ ask 0 "default_group" { command := .getItem } 1000 ++
    [.move (.place 0 0), .input (.send 0 restartFrame), .move (.receive 0), .move (.receive 0)] ++
    reported (.session 0) ++ join 1 100 keepaliveFrame ++ fetch 0

/-- What holds of the envelope that a session took last holds of one that it took. -/
theorem exists_carried_of_latest {id : SessionId} {journal : List Event} {P : Carriage → Prop}
    [DecidablePred P] (latest : (carried id journal).head?.any (fun c => decide (P c)) = true) :
    ∃ c ∈ carried id journal, P c := by
  obtain ⟨c, head, holds⟩ := (Option.any_eq_true _ _).1 latest
  exact ⟨c, List.mem_of_mem_head? head, of_decide_eq_true holds⟩

/-- A session takes an envelope from a queue on which another has registered by then. -/
theorem exists_carried_lateRun :
    ∃ c ∈ carried 0 (play sample lateRun).journal,
      (tenant? c.queue c.before).map (·.1) = some 1 :=
  exists_carried_of_latest (by decide +kernel)

/-- A session takes an envelope although its node has a newer connection. -/
theorem exists_carried_drainRun :
    ∃ c ∈ carried 0 (play sample drainRun).journal,
      ((registration? 0 c.before).bind fun mine =>
        registrar? mine.identity.node c.before).map (·.1) = some 1 :=
  exists_carried_of_latest (by decide +kernel)

/-- A session can take an envelope from its queue although another has registered on the queue by
then, and one that has closed can although its node has a newer connection. -/
theorem superseded_may_take :
    (¬ ∀ {s : Settings} {g : Gateway}, Reachable s g → ∀ {id queue e before},
      .taken id queue e :: before <:+ g.journal →
        ∃ registered, tenant? queue before = some (id, registered)) ∧
      ¬ ∀ {s : Settings} {g : Gateway}, Reachable s g → ∀ {id queue e before mine},
        .taken id queue e :: before <:+ g.journal → registration? id before = some mine →
          ∃ registered, registrar? mine.identity.node before = some (id, registered) := by
  constructor
  · intro claim
    obtain ⟨c, mem, other⟩ := exists_carried_lateRun
    obtain ⟨registered, mine⟩ := claim (reachable_play sample lateRun)
      ((mem_carried_iff _).1 ⟨c.bytes, mem⟩)
    rw [mine] at other
    exact absurd other (by simp)
  · intro claim
    obtain ⟨c, mem, other⟩ := exists_carried_drainRun
    obtain ⟨newest, latest, other⟩ := Option.map_eq_some_iff.1 other
    obtain ⟨mine, registered, latest⟩ := Option.bind_eq_some_iff.1 latest
    obtain ⟨service, same⟩ := claim (reachable_play sample drainRun)
      ((mem_carried_iff _).1 ⟨c.bytes, mem⟩) registered
    obtain rfl := Option.some.inj (latest.symm.trans same)
    exact absurd other (by simp)

end Switchboard.Gateway
