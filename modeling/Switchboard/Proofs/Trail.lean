import Switchboard.Proofs.Breakdown
import Switchboard.Proofs.Containment
import Switchboard.Proofs.Course

/-!
# The trail of a session

Most events of a journal are about one session (`Event.session?`); those about a session, latest first,
are its tale. A step of a session tells nothing of another one (`adds_of_deed`), and whatever is no step
of a session leaves both its stream and its tale alone (`stepOf_or_elsewhere`). So what becomes of a
session is read off its own steps.
-/

set_option autoImplicit false

namespace Switchboard

/-- The session whose node, stream or queue an event is about. -/
def Event.session? : Event → Option SessionId
  | .registered id _ | .closed id _ | .received id _ | .taken id _ _ | .skipped id _ | .wrote id _
  | .ended id _ | .queued _ _ (.closing id) => some id
  | .queued _ _ (.dispatch _) | .queued _ _ (.heartbeat _) | .opened _ _ | .delivered _ _
  | .looked _ | .resolved _ _ | .finished _ _ | .cancelled _ | .stopped _ | .tallied _ _
  | .published _ _ => none

/-- An event that neither registers a session nor is a frame that one reads. -/
def Event.isMinor : Event → Bool
  | .registered _ _ | .received _ _ => false
  | _ => true

namespace Gateway

/-- What the journal tells of a session, latest event first. -/
def tale (id : SessionId) (journal : List Event) : List Event :=
  journal.filter fun event => event.session? = some id

/-- The frames that were read, in their order. -/
def heard : List Event → List Envelope
  | [] => []
  | .received _ e :: before => heard before ++ [e]
  | _ :: before => heard before

/-- A step writes events of one kind into the journal. -/
def Adds (P : Event → Prop) (g g' : Gateway) : Prop :=
  ∃ news, g'.journal = news ++ g.journal ∧ ∀ event ∈ news, P event

/-- An event is about this session, or about none. -/
def About (id : SessionId) (event : Event) : Prop :=
  event.session? = none ∨ event.session? = some id

/-- An event is about this session or about none, and neither registers it nor is a frame. -/
def Minor (id : SessionId) (event : Event) : Prop := About id event ∧ event.isMinor = true

section Trail

variable {s : Settings} {g g' g'' : Gateway} {id other : SessionId} {P Q : Event → Prop}

theorem heard_append (news before : List Event) : heard (news ++ before) = heard before ++ heard news := by
  induction news with
  | nil => simp [heard]
  | cons event later ih =>
    cases event with
    | received id e => rw [List.cons_append, heard, heard, ih, List.append_assoc]
    | _ => exact ih

theorem heard_of_minor {news : List Event} (minor : ∀ event ∈ news, event.isMinor = true) :
    heard news = [] := by
  induction news with
  | nil => rfl
  | cons event later ih =>
    have rest := ih fun event mem => minor event (List.mem_cons_of_mem _ mem)
    cases event with
    | received id e => exact absurd (minor _ List.mem_cons_self) (by simp [Event.isMinor])
    | _ => exact rest

theorem tale_append (id : SessionId) (news before : List Event) :
    tale id (news ++ before) = tale id news ++ tale id before := List.filter_append ..

theorem Adds.refl (g : Gateway) : Adds P g g := ⟨[], rfl, by simp⟩

theorem Adds.of_same (journal : g'.journal = g.journal) : Adds P g g' := ⟨[], journal, by simp⟩

theorem Adds.of_event {event : Event} (journal : g'.journal = event :: g.journal) (kind : P event) :
    Adds P g g' := ⟨[event], journal, by simpa using kind⟩

theorem Adds.trans (first : Adds P g g') (second : Adds P g' g'') : Adds P g g'' := by
  obtain ⟨news, journal, kind⟩ := first
  obtain ⟨later, journal', kind'⟩ := second
  refine ⟨later ++ news, by rw [journal', journal, List.append_assoc], ?_⟩
  intro event mem
  rcases List.mem_append.1 mem with new | old
  · exact kind' event new
  · exact kind event old

theorem Adds.mono (adds : Adds P g g') (weaker : ∀ event, P event → Q event) : Adds Q g g' := by
  obtain ⟨news, journal, kind⟩ := adds
  exact ⟨news, journal, fun event mem => weaker event (kind event mem)⟩

theorem Adds.tale_eq (adds : Adds P g g') (foreign : ∀ event, P event → event.session? ≠ some id) :
    tale id g'.journal = tale id g.journal := by
  obtain ⟨news, journal, kind⟩ := adds
  have none : tale id news = [] := by
    rw [tale, List.filter_eq_nil_iff]
    intro event mem
    simpa using foreign event (kind event mem)
  rw [journal, tale_append, none, List.nil_append]

/-- Minor events add neither a frame nor a registration to the tale of a session. -/
theorem Adds.exists_tale (adds : Adds (Minor id) g g') :
    ∃ news, tale id g'.journal = news ++ tale id g.journal ∧ ∀ event ∈ news, event.isMinor = true := by
  obtain ⟨news, journal, kind⟩ := adds
  refine ⟨tale id news, by rw [journal, tale_append], ?_⟩
  intro event mem
  exact (kind event (List.mem_of_mem_filter mem)).2

/-- What is about one session is not about another. -/
theorem About.foreign {event : Event} (about : About other event) (apart : other ≠ id) :
    event.session? ≠ some id := by
  rcases about with none | some
  · rw [none]
    simp
  · rw [some]
    exact fun same => apart (Option.some.inj same)

/-! ## What the steps of a session tell -/

theorem adds_close (id : SessionId) (service : Service) : Adds (Minor id) g (g.close id service) := by
  rw [close]
  split
  · exact .refl g
  · rcases deregister_shape (g := g) id service with
      ⟨current, metrics, -, -, eq⟩ | ⟨members, q, -, -, eq⟩
    · rw [eq]
      exact .of_event rfl ⟨Or.inr rfl, rfl⟩
    · rw [eq]
      refine ⟨[.queued service.queue .keepalive (.closing id), .closed id true], rfl, ?_⟩
      intro event mem
      simp only [List.mem_cons, List.not_mem_nil, or_false] at mem
      rcases mem with rfl | rfl
      · exact ⟨Or.inr rfl, rfl⟩
      · exact ⟨Or.inr rfl, rfl⟩

theorem adds_finish (id : SessionId) (t : Session) (service : Service) (reason : SessionError) :
    Adds (Minor id) g (g.finish id t service reason) := by
  obtain ⟨-, -, -, journal⟩ := finish_rest g id t service reason
  exact (adds_close id service).trans (.of_event journal ⟨Or.inr rfl, rfl⟩)

theorem adds_letIn (id : SessionId) (waiting : Option DispatchId) (queue : QueueId) :
    Adds (Minor id) g (g.letIn waiting queue) := by
  rcases letIn_cases g waiting queue with ⟨eq, -⟩ | ⟨caller, d, -, -, eq⟩
  · rw [eq]
    exact .refl g
  · rw [eq]
    exact .of_event rfl ⟨Or.inl rfl, rfl⟩

theorem adds_afterTaking (id : SessionId) (service : Service) (taken : Queue.Taken DispatchId) :
    Adds (Minor id) g (g.afterTaking id service taken) :=
  Adds.trans (.of_event rfl ⟨Or.inr rfl, rfl⟩) (adds_letIn id _ _)

/-- A frame that is handled is told, and what comes of it. -/
theorem adds_handle (id : SessionId) (t : Session) (service : Service) (e : Envelope) :
    Adds (Minor id) (g.record (.received id e)) (g.handle id t service e) := by
  rcases handle_cases g id t service e with
    ⟨-, eq⟩ | ⟨ticket, replies, -, -, eq⟩ | ⟨replies, -, -, eq⟩ | ⟨replies, -, -, eq⟩ <;> rw [eq]
  · exact (adds_close id service).trans (.of_same rfl)
  · exact .of_event rfl ⟨Or.inl rfl, rfl⟩
  · exact .of_same rfl
  · exact .of_same rfl

/-- A frame that is handled is heard, behind those that were heard before. -/
theorem exists_tale_handle (id : SessionId) (u : Session) (service : Service) (e : Envelope) :
    ∃ news, tale id (g.handle id u service e).journal =
        news ++ .received id e :: tale id g.journal ∧ ∀ event ∈ news, event.isMinor = true := by
  obtain ⟨news, told, minor⟩ := (adds_handle (g := g) id u service e).exists_tale
  refine ⟨news, ?_, minor⟩
  rw [told]
  exact congrArg (news ++ ·) (List.filter_cons_of_pos (by simp [Event.session?]))

theorem heard_handle (id : SessionId) (u : Session) (service : Service) (e : Envelope) :
    heard (tale id (g.handle id u service e).journal) = heard (tale id g.journal) ++ [e] := by
  obtain ⟨news, told, minor⟩ := exists_tale_handle (g := g) id u service e
  rw [told, heard_append, heard_of_minor minor, List.append_nil, heard]

theorem heard_of_adds (adds : Adds (Minor id) g g') :
    heard (tale id g'.journal) = heard (tale id g.journal) := by
  obtain ⟨news, told, minor⟩ := adds.exists_tale
  rw [told, heard_append, heard_of_minor minor, List.append_nil]

theorem not_registered_of_minor {news : List Event} (minor : ∀ event ∈ news, event.isMinor = true)
    (other : SessionId) (service' : Service) : .registered other service' ∉ news := by
  intro mem
  exact absurd (minor _ mem) (by simp [Event.isMinor])

theorem adds_of_deed {m : Move} (deed : Deed g id m g') : Adds (About id) g g' := by
  have weaker : ∀ event, Minor id event → About id event := fun _ minor => minor.1
  cases deed with
  | dismissed reason how here greeting => exact .of_event rfl (Or.inr rfl)
  | enrolled e rest here greeting room => exact .of_event rfl (Or.inr rfl)
  | broke here greeting => exact .of_same rfl
  | finished reason how here serving => exact (adds_finish id _ _ reason).mono weaker
  | handled here serving read =>
    exact Adds.trans (.of_event rfl (Or.inr rfl)) ((adds_handle id _ _ _).mono weaker)
  | acquired here serving waiting free => exact .of_same rfl
  | retired here serving between notified => exact .of_same rfl
  | looked here serving idle current => exact .of_event rfl (Or.inl rfl)
  | missed here serving reaching empty => exact .of_same rfl
  | took here serving reaching first encoded =>
    exact ((adds_afterTaking id _ _).mono weaker).trans (.of_same rfl)
  | skipped here serving reaching first unwritable =>
    exact ((adds_afterTaking id _ _).mono weaker).trans (.of_event rfl (Or.inr rfl))
  | wrote here serving writing whole pos room le => exact .of_event rfl (Or.inr rfl)

/-- The scheduler runs a session: its sender looks around, or nothing happens. -/
theorem input_rouse (g : Gateway) (id : SessionId) :
    g.input (.rouse id) = g ∨ ∃ t service, g.sessions[id]? = some t ∧ t.phase = .serving service ∧
      g.input (.rouse id) = (g.setSender id t service .reaching).record (.looked id) := by
  rw [input]
  split
  · exact Or.inl rfl
  · cases h : g.reach id with
    | none => exact Or.inl rfl
    | some g' =>
      obtain ⟨⟨t, service⟩, serves, h⟩ := Option.bind_eq_some_iff.1 h
      obtain ⟨here, serving⟩ := serving?_eq_some.1 serves
      dsimp only at h
      split at h
      · exact Or.inr ⟨t, service, here, serving, (Option.some.inj h).symm⟩
      · exact absurd h (by simp)

/-- Of a session's steps, only its moves are told. -/
theorem tale_of_aside {a : Action} (own : StepOf id a) (step : g.act? a = some g')
    (aside : ∀ {m}, m ∈ sessionMoves id → a ≠ .move m) : tale id g'.journal = tale id g.journal := by
  cases own with
  | worker own =>
    obtain rfl := Option.some.inj step
    obtain ⟨change, eq⟩ := exists_onStream (g := g) own
    rw [eq, onStream]
    split <;> rfl
  | rouse =>
    obtain rfl := Option.some.inj step
    rcases input_rouse g id with same | ⟨t, service, -, -, eq⟩
    · rw [same]
    · rw [eq]
      rfl
  | tally =>
    obtain ⟨-, rfl⟩ := tally_eq_some (step?_of_move? step)
    rfl
  | publish =>
    obtain ⟨number, -, rfl⟩ := publish_eq_some (step?_of_move? step)
    rfl
  | move mem => exact absurd rfl (aside mem)

/-! ## What is no step of a session -/

theorem tale_of_turn {d : Dispatch} {dispatch : DispatchId} {m : Move}
    (turn : Turn g dispatch d m g') : tale id g'.journal = tale id g.journal := by
  cases turn <;> rfl

theorem tale_dispatch (group : String) (e : Envelope) (timeout : Nat) :
    tale id (g.dispatch group e timeout).journal = tale id g.journal := by
  obtain ⟨news, journal, told⟩ := journal_dispatch g group e timeout
  apply Adds.tale_eq (P := fun event => event.session? = none) ⟨news, journal, ?_⟩
  · intro event none
    rw [none]
    simp
  · intro event mem
    rcases told event mem with ⟨dispatch, c, rfl⟩ | ⟨dispatch, result, rfl⟩
    · rfl
    · rfl

theorem tale_beatAll (beat : HeartbeatId) : tale id (g.beatAll beat).journal = tale id g.journal := by
  obtain ⟨registry, metrics, news, shape, each⟩ := beatAll_shape (g := g) beat
  apply Adds.tale_eq (P := fun event => event.session? = none) ⟨news, by rw [shape], ?_⟩
  · intro event none
    rw [none]
    simp
  · intro event mem
    obtain ⟨queue, rfl⟩ := each event mem
    rfl

/-- What happens is a step of a session, or leaves it and its tale alone. -/
theorem stepOf_or_elsewhere (attained : Attained s g) {a : Action} (step : g.act? a = some g') :
    StepOf id a ∨ (g.sessions[id]? = none ∨ g'.sessions[id]? = g.sessions[id]?) ∧
      tale id g'.journal = tale id g.journal := by
  have same : g'.sessions = g.sessions → tale id g'.journal = tale id g.journal →
      StepOf id a ∨ (g.sessions[id]? = none ∨ g'.sessions[id]? = g.sessions[id]?) ∧
        tale id g'.journal = tale id g.journal :=
    fun sessions told => Or.inr ⟨Or.inr (by rw [sessions]), told⟩
  cases occurs_of_act step with
  | @deed _ other m _ how mem free deed =>
    by_cases mine : other = id
    · subst mine
      rcases how with rfl | ⟨rfl, -⟩
      · exact Or.inl (.move mem)
      · exact Or.inl .rouse
    · refine Or.inr ⟨Or.inr ((contained_of_deed attained deed).sessions (Ne.symm mine)), ?_⟩
      exact (adds_of_deed deed).tale_eq fun _ about => about.foreign mine
  | turn here free turn => exact same (sessions_of_turn turn) (tale_of_turn turn)
  | tallies due => exact same rfl rfl
  | publishes due => exact same rfl rfl
  | beats beat =>
    obtain ⟨registry, metrics, news, shape, -⟩ := beatAll_shape (g := g) beat
    exact same (by rw [shape]) (tale_beatAll beat)
  | stops beat => exact same rfl rfl
  | starts group e timeout => exact same (sessions_dispatch group e timeout) (tale_dispatch group e timeout)
  | forsakes here free waits => exact same rfl rfl
  | connects greeting =>
    refine Or.inr ⟨?_, rfl⟩
    cases here : g.sessions[id]? with
    | none => exact Or.inl rfl
    | some t => exact Or.inr ((List.getElem?_append_left (List.getElem?_eq_some_iff.1 here).1).trans here)
  | @streams i other t t' own here phase =>
    by_cases mine : other = id
    · subst mine
      exact Or.inl (.worker own)
    · exact Or.inr ⟨Or.inr (List.getElem?_set_ne mine), rfl⟩
  | around => exact same rfl rfl

/-! ## Sessions that there are not yet -/

theorem length_sessions_of_change (c : Change g g') :
    g.sessions.length ≤ g'.sessions.length := by
  cases c with
  | connected greeting inbound outbound => simp
  | took here serving reaching popped encoded =>
    rw [sessions_letIn]
    exact Nat.le_of_eq List.length_set.symm
  | skipped here serving reaching popped unwritable =>
    show _ ≤ (Gateway.sessions (letIn _ _ _)).length
    rw [sessions_letIn]
    exact Nat.le_of_eq List.length_set.symm
  | _ => first | exact Nat.le_refl _ | exact Nat.le_of_eq List.length_set.symm

/-- Sessions are only ever added. -/
theorem length_sessions_of_changes (run : Changes g g') :
    g.sessions.length ≤ g'.sessions.length := by
  induction run with
  | refl => exact Nat.le_refl _
  | tail _ c ih => exact Nat.le_trans ih (length_sessions_of_change c)

/-- A session that is not there yet takes no step of which anything is told. -/
theorem tale_of_absent (unknown : g.sessions[id]? = none) {a : Action} (own : StepOf id a)
    (step : g.act? a = some g') : tale id g'.journal = tale id g.journal := by
  by_cases moves : ∃ m ∈ sessionMoves id, a = .move m
  · obtain ⟨m, mem, rfl⟩ := moves
    have live := (deed_of_move mem step).isLive
    rw [unknown] at live
    exact absurd live (by simp)
  · exact tale_of_aside own step fun mem same => moves ⟨_, mem, same⟩

/-- Nothing is told of a session before it is there. -/
theorem tale_of_unknown (h : Reachable s g) (unknown : g.sessions[id]? = none) :
    tale id g.journal = [] := by
  induction h using Reachable.act_induction with
  | start => rfl
  | @step g a g' before after act ih =>
    have length := length_sessions_of_changes (changes_of_act act)
    have earlier : g.sessions[id]? = none := by
      rw [List.getElem?_eq_none_iff] at unknown ⊢
      exact Nat.le_trans length unknown
    rw [← ih earlier]
    rcases stepOf_or_elsewhere (attained_of_reachable before) act with own | ⟨-, same⟩
    · exact tale_of_absent earlier own act
    · exact same

end Trail

end Gateway

end Switchboard
