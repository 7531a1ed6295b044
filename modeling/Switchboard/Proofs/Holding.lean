import Switchboard.Proofs.Ledger

/-!
# Holding a queue and taking from it

At most one session at a time holds a queue (`exclusive_of_attained`). A sender looks for a takeover
before it takes an envelope, and was the tenant of its queue then, but need not be when it takes the
envelope; at least nobody else took one in between (`Poised`, `tenant_of_taken`).
-/

set_option autoImplicit false

namespace Switchboard

/-- The session waits for its first frame. -/
def Session.isGreeting (s : Session) : Bool :=
  match s.phase with
  | .greeting _ => true
  | .serving _ | .ended _ | .brokenDown => false

namespace Gateway

/-- At most one session at a time holds a queue. -/
def Exclusive (g : Gateway) : Prop :=
  ∀ {a b p q}, g.service? a = some p → g.service? b = some q → p.queue = q.queue →
    p.sender.holds = true → q.sender.holds = true → a = b

section Exclusive

variable {g g' : Gateway}

/-- A session that newly holds a queue must find it free. -/
theorem Exclusive.of_set (x : Exclusive g) {id : SessionId} {s t : Session}
    (here : g.sessions[id]? = some s) (sessions : g'.sessions = g.sessions.set id t)
    (fair : ∀ service', t.service? = some service' → service'.sender.holds = true →
      (∃ service, s.service? = some service ∧ service.queue = service'.queue ∧
        service.sender.holds = true) ∨ g.held service'.queue = false) : Exclusive g' := by
  have alone : ∀ {b p q}, t.service? = some p → g.service? b = some q → p.queue = q.queue →
      p.sender.holds = true → q.sender.holds = true → id = b := by
    intro b p q hp hq same holdsp holdsq
    rcases fair p hp holdsp with ⟨service, serves, queue, holds⟩ | free
    · exact x ((service?_of_here here).trans serves) hq (queue.trans same) holds holdsq
    · have held : g.held p.queue = true :=
        (held_eq_true_iff p.queue).2 ⟨b, q, hq, same.symm, holdsq⟩
      rw [free] at held
      exact absurd held (by simp)
  intro a b p q hp hq same holdsp holdsq
  rw [service?_of_set here sessions] at hp hq
  split at hp <;> split at hq
  · rename_i ha hb
    exact ha.symm.trans hb
  · rename_i ha hb
    exact ha ▸ alone hp hq same holdsp holdsq
  · rename_i ha hb
    exact hb ▸ (alone hq hp same.symm holdsq holdsp).symm
  · exact x hp hq same holdsp holdsq

theorem Exclusive.of_services (x : Exclusive g) (services : ∀ id, g'.service? id = g.service? id) :
    Exclusive g' := by
  intro a b p q hp hq
  rw [services] at hp hq
  exact x hp hq

/-- A session that serves its node and does not newly hold its queue. -/
theorem Exclusive.of_kept (x : Exclusive g) {id : SessionId} {s t : Session}
    {service : Service} {closed : Bool} {sender : Sender} {first : Option Envelope}
    (here : g.sessions[id]? = some s) (serving : s.phase = .serving service)
    (sessions : g'.sessions = g.sessions.set id t)
    (phase : t.phase = .serving { service with closed, sender, first })
    (holds : sender.holds = true → service.sender.holds = true) : Exclusive g' := by
  refine x.of_set here sessions fun other serves held => Or.inl ?_
  obtain rfl := Option.some.inj ((Session.service?_eq_some.2 phase).symm.trans serves)
  exact ⟨service, Session.service?_eq_some.2 serving, rfl, holds held⟩

theorem exclusive_of_change (x : Exclusive g) (c : Change g g') : Exclusive g' := by
  cases c with
  | connected greeting inbound outbound =>
    exact x.of_services (service?_of_connected (service?_of_greeting greeting) rfl)
  | streamed here phase inbound outbound =>
    refine x.of_services (service?_of_set_same here rfl ?_)
    rw [Session.service?, Session.service?, phase]
  | dismissed reason here greeting =>
    exact x.of_set here rfl fun _ h => absurd h (by simp [Session.service?])
  | broke here greeting =>
    exact x.of_set here rfl fun _ h => absurd h (by simp [Session.service?])
  | ended reason here serving past =>
    exact x.of_set here rfl fun _ h => absurd h (by simp [Session.service?])
  | enrolled e rest here greeting room =>
    -- a sender begins by waiting for its queue
    refine x.of_set here rfl fun service' h holds => ?_
    obtain rfl := Option.some.inj h
    exact absurd holds (by simp [newService, Sender.holds])
  | heeded here serving read aside => exact x.of_kept here serving rfl rfl fun holds => holds
  | answered here serving read plain handed =>
    exact x.of_kept here serving rfl rfl fun holds => holds
  | unanswered here serving read plain missed =>
    exact x.of_kept here serving rfl rfl fun holds => holds
  | closed current here serving fresh report =>
    exact x.of_kept here serving rfl rfl fun holds => holds
  | acquired here serving waiting free =>
    -- the one change by which a session comes to hold a queue, and nobody held it
    refine x.of_set here rfl fun service' h _ => Or.inr ?_
    obtain rfl := Option.some.inj h
    exact free
  | retired here serving between notified =>
    exact x.of_kept here serving rfl rfl fun holds => absurd holds (by simp [Sender.holds])
  -- between two frames, reaching for the next and writing it, a sender holds its queue throughout
  | looked here serving idle current =>
    exact x.of_kept here serving rfl rfl fun _ => by rw [idle, Sender.holds]
  | missed here serving reaching empty =>
    exact x.of_kept here serving rfl rfl fun _ => by rw [reaching, Sender.holds]
  | took here serving reaching popped encoded =>
    exact x.of_kept here serving (sessions_letIn _ _) rfl fun _ => by rw [reaching, Sender.holds]
  | wrote here serving writing pos room fits whole =>
    exact x.of_kept here serving rfl rfl fun _ => by rw [writing, Sender.holds]
  | skipped here serving reaching popped unwritable =>
    exact x.of_kept here serving (sessions_letIn _ _) rfl fun _ => by rw [reaching, Sender.holds]
  | _ => exact x.of_services fun _ => rfl

theorem exclusive_of_attained {s : Settings} (h : Attained s g) : Exclusive g := by
  induction h with
  | refl =>
    intro a b p q hp
    exact absurd hp (by simp [start, service?])
  | tail _ c ih => exact exclusive_of_change ih c

end Exclusive

/-! ## Takers -/

section Takers

variable {g g' : Gateway}

theorem journal_letIn (g : Gateway) (waiting : Option DispatchId) (queue : QueueId) :
    (g.letIn waiting queue).journal = g.journal ∨
      ∃ caller d, waiting = some caller ∧ g.dispatches[caller]? = some d ∧
        (g.letIn waiting queue).journal =
          .queued queue d.request (.dispatch caller) :: g.journal := by
  rcases letIn_cases g waiting queue with ⟨eq, -⟩ | ⟨caller, d, waits, here, eq⟩
  · exact Or.inl (by rw [eq])
  · exact Or.inr ⟨caller, d, waits, here, by rw [eq]⟩

/-- No change takes anything out of the journal. -/
theorem journal_of_change (c : Change g g') : g.journal <:+ g'.journal := by
  have letIn : ∀ {h : Gateway} (waiting : Option DispatchId) (queue : QueueId),
      g.journal <:+ h.journal → g.journal <:+ (h.letIn waiting queue).journal := by
    intro h waiting queue earlier
    rcases journal_letIn h waiting queue with eq | ⟨caller, d, -, -, eq⟩
    · rw [eq]
      exact earlier
    · rw [eq]
      exact earlier.trans (List.suffix_cons _ _)
  cases c with
  | took here serving reaching popped encoded => exact letIn _ _ (List.suffix_cons _ _)
  | skipped here serving reaching popped unwritable =>
    exact (letIn _ _ (List.suffix_cons _ _)).trans (List.suffix_cons _ _)
  | answered here serving read plain handed =>
    exact (List.suffix_cons _ _).trans (List.suffix_cons _ _)
  | begun group e timeout opened seen => exact List.suffix_cons _ _
  | _ => first | exact List.suffix_cons _ _ | exact List.suffix_rfl

theorem journal_of_changes (run : Changes g g') : g.journal <:+ g'.journal := by
  induction run with
  | refl => exact List.suffix_rfl
  | tail _ c ih => exact ih.trans (journal_of_change c)

/-- What letting a dispatch in adds to the journal is no envelope that was taken. -/
theorem taken_of_letIn {waiting : Option DispatchId} {queue queue' : QueueId} {id : SessionId}
    {e : Envelope} {before : List Event}
    (h : .taken id queue e :: before <:+ (g.letIn waiting queue').journal) :
    .taken id queue e :: before <:+ g.journal := by
  rcases journal_letIn g waiting queue' with eq | ⟨caller, d, -, -, eq⟩
  · rwa [eq] at h
  · rw [eq] at h
    rcases List.suffix_cons_iff.1 h with same | later
    · exact absurd same (by simp)
    · exact later

/-- Only a sender that holds its queue and has looked for a takeover takes an envelope. -/
theorem taken_of_change (c : Change g g') {id : SessionId} {queue : QueueId} {e : Envelope}
    {before : List Event} (h : .taken id queue e :: before <:+ g'.journal) :
    .taken id queue e :: before <:+ g.journal ∨
      before = g.journal ∧ ∃ s service taken, g.sessions[id]? = some s ∧
        s.phase = .serving service ∧ service.sender = .reaching ∧ service.queue = queue ∧
        (g.registry.queue queue).pop? = some taken ∧ taken.frame = e := by
  cases c with
  | took here serving reaching popped encoded =>
    refine (List.suffix_cons_iff.1 (taken_of_letIn h)).symm.imp_right fun same => ?_
    simp only [List.cons.injEq, Event.taken.injEq] at same
    obtain ⟨⟨rfl, rfl, rfl⟩, rfl⟩ := same
    exact ⟨rfl, _, _, _, here, serving, reaching, rfl, popped, rfl⟩
  | skipped here serving reaching popped unwritable =>
    have earlier := (List.suffix_cons_iff.1 h).resolve_left (by simp)
    refine (List.suffix_cons_iff.1 (taken_of_letIn earlier)).symm.imp_right fun same => ?_
    simp only [List.cons.injEq, Event.taken.injEq] at same
    obtain ⟨⟨rfl, rfl, rfl⟩, rfl⟩ := same
    exact ⟨rfl, _, _, _, here, serving, reaching, rfl, popped, rfl⟩
  | _ => exact Or.inl (by simpa [List.suffix_cons_iff, started, release, withdraw] using h)

/-- A session that is between two frames and not told to let go of its queue registered last on it: one
that was superseded has retired or is told to. -/
theorem Tenancy.tenant_of_idle (t : Tenancy g) {id : SessionId} {service : Service}
    (serves : g.service? id = some service) (idle : service.sender = .idle)
    (current : g.registry.notified service.signal = false) :
    ∃ first, tenant? service.queue g.journal = some (id, first) := by
  obtain ⟨tenant, first, latest, -, other⟩ := t.seated serves
  have mine : tenant = id := by
    by_contra apart
    rcases other apart with retired | told
    · exact absurd (idle.symm.trans retired) (by simp)
    · exact absurd (current.symm.trans told) (by simp)
  exact ⟨first, mine ▸ latest⟩

end Takers

/-! ## Registrations -/

section Registrations

variable {g g' : Gateway}

theorem registered_of_tenant {queue : QueueId} {id : SessionId} {service : Service}
    (journal : List Event) (h : tenant? queue journal = some (id, service)) :
    .registered id service ∈ journal := by
  induction journal with
  | nil => exact absurd h (by simp [tenant?])
  | cons event before ih =>
    cases event with
    | registered other registered =>
      rw [tenant?] at h
      split at h
      · obtain ⟨rfl, rfl⟩ := Prod.mk.inj (Option.some.inj h)
        exact List.mem_cons_self
      · exact List.mem_cons_of_mem _ (ih h)
    | _ => exact List.mem_cons_of_mem _ (ih h)

theorem queue_of_tenant {queue : QueueId} {id : SessionId} {service : Service}
    (journal : List Event) (h : tenant? queue journal = some (id, service)) :
    service.queue = queue := by
  induction journal with
  | nil => exact absurd h (by simp [tenant?])
  | cons event before ih =>
    cases event with
    | registered other registered =>
      rw [tenant?] at h
      split at h
      · rename_i same
        obtain ⟨-, rfl⟩ := Prod.mk.inj (Option.some.inj h)
        exact same
      · exact ih h
    | _ => exact ih h

/-- The phase of a session stays, or the session was live and does not wait for its first frame any
more. -/
theorem phase_of_change (c : Change g g') {id : SessionId} {s : Session}
    (here : g.sessions[id]? = some s) :
    ∃ s', g'.sessions[id]? = some s' ∧
      (s'.phase = s.phase ∨ s.isLive = true ∧ s'.isGreeting = false) := by
  have sets : ∀ {other : SessionId} {old new : Session}, g.sessions[other]? = some old →
      (new.phase = old.phase ∨ old.isLive = true ∧ new.isGreeting = false) →
      ∃ s', (g.sessions.set other new)[id]? = some s' ∧
        (s'.phase = s.phase ∨ s.isLive = true ∧ s'.isGreeting = false) := by
    intro other old new there goes
    obtain ⟨lt, -⟩ := List.getElem?_eq_some_iff.1 there
    rw [List.getElem?_set]
    by_cases same : other = id
    · subst same
      obtain rfl := Option.some.inj (there.symm.trans here)
      rw [if_pos rfl, if_pos lt]
      exact ⟨new, rfl, goes⟩
    · rw [if_neg same]
      exact ⟨s, here, Or.inl rfl⟩
  -- whoever greets or serves is live
  have greets : ∀ {old : Session} {deadline : Nat}, old.phase = .greeting deadline →
      old.isLive = true := fun greeting => by rw [Session.isLive, greeting]
  have serves : ∀ {old : Session} {service : Service}, old.phase = .serving service →
      old.isLive = true := fun serving => by rw [Session.isLive, serving]
  cases c with
  | @connected t deadline greeting inbound outbound =>
    refine ⟨s, ?_, Or.inl rfl⟩
    show (g.sessions ++ [t])[id]? = some s
    rw [List.getElem?_append_left (List.getElem?_eq_some_iff.1 here).1]
    exact here
  | streamed there phase inbound outbound => exact sets there (Or.inl phase)
  | dismissed reason there greeting => exact sets there (Or.inr ⟨greets greeting, rfl⟩)
  | broke there greeting => exact sets there (Or.inr ⟨greets greeting, rfl⟩)
  | enrolled e rest there greeting room => exact sets there (Or.inr ⟨greets greeting, rfl⟩)
  | heeded there serving read aside => exact sets there (Or.inr ⟨serves serving, rfl⟩)
  | answered there serving read plain handed => exact sets there (Or.inr ⟨serves serving, rfl⟩)
  | unanswered there serving read plain missed => exact sets there (Or.inr ⟨serves serving, rfl⟩)
  | closed current there serving fresh report => exact sets there (Or.inr ⟨serves serving, rfl⟩)
  | ended reason there serving past => exact sets there (Or.inr ⟨serves serving, rfl⟩)
  | acquired there serving waiting free => exact sets there (Or.inr ⟨serves serving, rfl⟩)
  | retired there serving between notified => exact sets there (Or.inr ⟨serves serving, rfl⟩)
  | looked there serving idle current => exact sets there (Or.inr ⟨serves serving, rfl⟩)
  | missed there serving reaching empty => exact sets there (Or.inr ⟨serves serving, rfl⟩)
  | took there serving reaching popped encoded =>
    rw [sessions_letIn]
    exact sets there (Or.inr ⟨serves serving, rfl⟩)
  | skipped there serving reaching popped unwritable =>
    show ∃ s', (Gateway.sessions (letIn _ _ _))[id]? = some s' ∧ _
    rw [sessions_letIn]
    exact sets there (Or.inr ⟨serves serving, rfl⟩)
  | wrote there serving writing pos room fits whole =>
    exact sets there (Or.inr ⟨serves serving, rfl⟩)
  | _ => exact ⟨s, here, Or.inl rfl⟩

/-- A session that got its first frame never waits for it again. -/
theorem isGreeting_of_change (c : Change g g') {id : SessionId} {s : Session}
    (here : g.sessions[id]? = some s) (past : s.isGreeting = false) :
    ∃ s', g'.sessions[id]? = some s' ∧ s'.isGreeting = false := by
  obtain ⟨s', here', same | ⟨-, past'⟩⟩ := phase_of_change c here
  · refine ⟨s', here', ?_⟩
    rw [Session.isGreeting, same]
    exact past
  · exact ⟨s', here', past'⟩

theorem registered_of_letIn {waiting : Option DispatchId} {queue : QueueId} {id : SessionId}
    {service : Service} (mem : .registered id service ∈ (g.letIn waiting queue).journal) :
    .registered id service ∈ g.journal := by
  rcases journal_letIn g waiting queue with eq | ⟨caller, d, -, -, eq⟩
  · rwa [eq] at mem
  · rw [eq] at mem
    simpa using mem

theorem registration?_letIn (waiting : Option DispatchId) (queue : QueueId) (id : SessionId) :
    registration? id (g.letIn waiting queue).journal = registration? id g.journal := by
  rcases journal_letIn g waiting queue with eq | ⟨caller, d, -, -, eq⟩
  · rw [eq]
  · rw [eq]
    rfl

/-- The journal tells of no more than one registration of a session. -/
theorem registration_of_attained {s : Settings} (h : Attained s g) {id : SessionId}
    {service : Service} (mem : .registered id service ∈ g.journal) :
    registration? id g.journal = some service ∧
      ∃ t, g.sessions[id]? = some t ∧ t.isGreeting = false := by
  induction h with
  | refl => exact absurd mem (by simp [start])
  | @tail g g' attained c ih =>
    have old : .registered id service ∈ g.journal →
        registration? id g'.journal = registration? id g.journal →
        registration? id g'.journal = some service ∧
          ∃ t, g'.sessions[id]? = some t ∧ t.isGreeting = false := by
      intro earlier same
      obtain ⟨only, t, here, past⟩ := ih earlier
      exact ⟨same.trans only, isGreeting_of_change c here past⟩
    cases c with
    | @enrolled other t deadline e rest here greeting room =>
      rcases List.mem_cons.1 mem with new | earlier
      · obtain ⟨rfl, rfl⟩ := Event.registered.inj new
        obtain ⟨lt, -⟩ := List.getElem?_eq_some_iff.1 here
        exact ⟨if_pos rfl, _, List.getElem?_set_self lt, rfl⟩
      · -- a session that registered before does not wait for its first frame
        refine old earlier (if_neg ?_)
        rintro rfl
        obtain ⟨-, t', here', past⟩ := ih earlier
        obtain rfl := Option.some.inj (here.symm.trans here')
        exact absurd past (by simp [Session.isGreeting, greeting])
    | took here serving reaching popped encoded =>
      have earlier := registered_of_letIn mem
      exact old (by simpa using earlier) (registration?_letIn _ _ _)
    | skipped here serving reaching popped unwritable =>
      have earlier := registered_of_letIn ((List.mem_cons.1 mem).resolve_left (by simp))
      exact old (by simpa using earlier) (registration?_letIn _ _ _)
    | _ => exact old (by simpa [started, release, withdraw] using mem) rfl

/-- Who waits for its first frame has not registered. -/
theorem not_registered_of_greeting {s : Settings} (attained : Attained s g) {id : SessionId}
    {t : Session} {deadline : Nat} (here : g.sessions[id]? = some t)
    (greeting : t.phase = .greeting deadline) (first : Service) :
    .registered id first ∉ g.journal := by
  intro listed
  obtain ⟨-, t', here', past⟩ := registration_of_attained attained listed
  obtain rfl := Option.some.inj (here.symm.trans here')
  exact absurd past (by simp [Session.isGreeting, greeting])

/-- Only a session that waits for its first frame registers. -/
theorem registered_of_change (c : Change g g') {id : SessionId} {service : Service}
    {before : List Event} (h : .registered id service :: before <:+ g'.journal) :
    .registered id service :: before <:+ g.journal ∨
      before = g.journal ∧ ∃ s, g.sessions[id]? = some s ∧ s.isGreeting = true := by
  have letIn : ∀ {h : Gateway} {waiting : Option DispatchId} {queue : QueueId},
      .registered id service :: before <:+ (h.letIn waiting queue).journal →
      .registered id service :: before <:+ h.journal := by
    intro h waiting queue later
    rcases journal_letIn h waiting queue with eq | ⟨caller, d, -, -, eq⟩
    · rwa [eq] at later
    · rw [eq] at later
      exact (List.suffix_cons_iff.1 later).resolve_left (by simp)
  cases c with
  | @enrolled other s deadline e rest here greeting room =>
    rcases List.suffix_cons_iff.1 h with same | earlier
    · simp only [List.cons.injEq, Event.registered.injEq] at same
      obtain ⟨⟨rfl, -⟩, rfl⟩ := same
      exact Or.inr ⟨rfl, s, here, by rw [Session.isGreeting, greeting]⟩
    · exact Or.inl earlier
  | took here serving reaching popped encoded =>
    exact Or.inl ((List.suffix_cons_iff.1 (letIn h)).resolve_left (by simp))
  | skipped here serving reaching popped unwritable =>
    have earlier := (List.suffix_cons_iff.1 h).resolve_left (by simp)
    exact Or.inl ((List.suffix_cons_iff.1 (letIn earlier)).resolve_left (by simp))
  | _ => exact Or.inl (by simpa [List.suffix_cons_iff, started, release, withdraw] using h)

/-- A session registers at one moment only. -/
theorem registered_once {s : Settings} (attained : Attained s g) {id : SessionId}
    {first second : Service} {before before' : List Event}
    (h : .registered id first :: before <:+ g.journal)
    (h' : .registered id second :: before' <:+ g.journal) : before = before' := by
  induction attained with
  | refl => exact absurd h (by simp [start])
  | @tail g g' attained c ih =>
    -- a session that registered before does not wait for its first frame
    have past : ∀ {service : Service} {before : List Event},
        .registered id service :: before <:+ g.journal →
        ∀ t, g.sessions[id]? = some t → t.isGreeting = false := by
      intro service before earlier t here
      obtain ⟨-, t', here', past⟩ :=
        registration_of_attained attained (earlier.subset List.mem_cons_self)
      rwa [Option.some.inj (here.symm.trans here')]
    rcases registered_of_change c h with earlier | ⟨rfl, t, here, greeting⟩
    · rcases registered_of_change c h' with earlier' | ⟨-, t, here, greeting⟩
      · exact ih earlier earlier'
      · exact absurd (past earlier t here) (by simp [greeting])
    · rcases registered_of_change c h' with earlier' | ⟨rfl, -⟩
      · exact absurd (past earlier' t here) (by simp [greeting])
      · rfl

/-- A session that registered last on a queue has done so ever since it registered: once another has
taken its place it does not come back. -/
theorem tenant_of_later {s : Settings} (attained : Attained s g) {queue : QueueId}
    {id : SessionId} {first service : Service} {middle later : List Event}
    (within : later <:+ g.journal) (latest : tenant? queue later = some (id, first))
    (earlier : middle <:+ later) (listed : .registered id service ∈ middle) :
    tenant? queue middle = some (id, first) := by
  induction later with
  | nil =>
    obtain rfl := List.suffix_nil.1 earlier
    exact latest
  | cons event before ih =>
    rcases List.suffix_cons_iff.1 earlier with rfl | sooner
    · exact latest
    · refine ih ((List.suffix_cons _ _).trans within) ?_ sooner
      cases event with
      | registered other registered =>
        rw [tenant?] at latest
        split at latest
        · -- the session would have registered here again
          obtain ⟨rfl, rfl⟩ := Prod.mk.inj (Option.some.inj latest)
          obtain ⟨newer, older, split⟩ := List.append_of_mem listed
          have second : .registered other service :: older <:+ before :=
            List.IsSuffix.trans ⟨newer, split.symm⟩ sooner
          have same := registered_once attained within
            (second.trans ((List.suffix_cons _ _).trans within))
          have fewer := second.length_le
          rw [same, List.length_cons] at fewer
          omega
        · exact latest
      | _ => exact latest

end Registrations

/-! ## Looks -/

/-- What had happened when the sender of a session last looked for a takeover and saw none. -/
def lastLook? (id : SessionId) : List Event → Option (List Event)
  | [] => none
  | .looked other :: before => if other = id then some before else lastLook? id before
  | _ :: before => lastLook? id before

/-- Every sender that reaches for its queue did so as the one that registered last on the queue when
it looked for a takeover, and nothing has been taken from the queue since. -/
def Poised (g : Gateway) : Prop :=
  ∀ id service, g.service? id = some service → service.sender = .reaching →
    ∃ earlier first, lastLook? id g.journal = some earlier ∧
      tenant? service.queue earlier = some (id, first) ∧
      dequeued service.queue g.journal = dequeued service.queue earlier

section Looks

variable {g g' : Gateway}

theorem lastLook?_letIn (waiting : Option DispatchId) (queue : QueueId) (id : SessionId) :
    lastLook? id (g.letIn waiting queue).journal = lastLook? id g.journal := by
  rcases journal_letIn g waiting queue with eq | ⟨caller, d, -, -, eq⟩ <;> rw [eq]
  rfl

theorem dequeued_letIn (waiting : Option DispatchId) (queue queue' : QueueId) :
    dequeued queue' (g.letIn waiting queue).journal = dequeued queue' g.journal := by
  rcases journal_letIn g waiting queue with eq | ⟨caller, d, -, -, eq⟩ <;> rw [eq]
  rfl

/-- What was taken from a queue stays taken. -/
theorem dequeued_mono {journal journal' : List Event} (later : journal <:+ journal')
    (queue : QueueId) : dequeued queue journal <+: dequeued queue journal' := by
  induction journal' with
  | nil =>
    obtain rfl := List.suffix_nil.1 later
    exact List.prefix_rfl
  | cons event before ih =>
    rcases List.suffix_cons_iff.1 later with rfl | earlier
    · exact List.prefix_rfl
    · refine (ih earlier).trans ?_
      cases event with
      | taken other queue' e =>
        rw [dequeued]
        split
        · exact List.prefix_append _ _
        · exact List.prefix_rfl
      | _ => exact List.prefix_rfl

/-- The last look of a session is in the journal. -/
theorem suffix_of_lastLook? {id : SessionId} {journal earlier : List Event}
    (h : lastLook? id journal = some earlier) : .looked id :: earlier <:+ journal := by
  induction journal with
  | nil => exact absurd h (by simp [lastLook?])
  | cons event before ih =>
    cases event with
    | looked other =>
      rw [lastLook?] at h
      split at h
      · rename_i same
        obtain rfl := same
        obtain rfl := Option.some.inj h
        exact List.suffix_rfl
      · exact (ih h).trans (List.suffix_cons _ _)
    | _ => exact (ih h).trans (List.suffix_cons _ _)

/-- Every sender that reaches for its queue did so before. -/
def Lingers (g g' : Gateway) : Prop :=
  ∀ id service', g'.service? id = some service' → service'.sender = .reaching →
    ∃ service, g.service? id = some service ∧ service.queue = service'.queue ∧
      service.sender = .reaching

theorem Lingers.of_services (services : ∀ id, g'.service? id = g.service? id) : Lingers g g' :=
  fun id service' serves reaching => ⟨service', services id ▸ serves, rfl, reaching⟩

/-- One session changes, and does not start to reach for its queue. -/
theorem Lingers.of_set {id : SessionId} {s t : Session} (here : g.sessions[id]? = some s)
    (sessions : g'.sessions = g.sessions.set id t)
    (kept : ∀ service', t.service? = some service' → service'.sender = .reaching →
      ∃ service, s.service? = some service ∧ service.queue = service'.queue ∧
        service.sender = .reaching) : Lingers g g' := by
  intro id' service' serves reaching
  rw [service?_of_set here sessions] at serves
  split at serves
  · rename_i same
    rw [← same, service?_of_here here]
    exact kept service' serves reaching
  · exact ⟨service', serves, rfl, reaching⟩

/-- One session changes, and what its sender does does not. -/
theorem Lingers.of_same {id : SessionId} {s t : Session} {service service' : Service}
    (here : g.sessions[id]? = some s) (serving : s.phase = .serving service)
    (sessions : g'.sessions = g.sessions.set id t) (phase : t.phase = .serving service')
    (queue : service.queue = service'.queue) (sender : service.sender = service'.sender) :
    Lingers g g' := by
  refine .of_set here sessions fun other serves reaching => ?_
  obtain rfl := Option.some.inj ((Session.service?_eq_some.2 phase).symm.trans serves)
  exact ⟨service, Session.service?_eq_some.2 serving, queue, sender.trans reaching⟩

/-- One session changes, and its sender does not reach for the queue. -/
theorem Lingers.of_other {id : SessionId} {s t : Session} {service' : Service}
    (here : g.sessions[id]? = some s) (sessions : g'.sessions = g.sessions.set id t)
    (phase : t.phase = .serving service') (other : service'.sender ≠ .reaching) : Lingers g g' := by
  refine .of_set here sessions fun service serves reaching => ?_
  obtain rfl := Option.some.inj ((Session.service?_eq_some.2 phase).symm.trans serves)
  exact absurd reaching other

/-- A sender comes to reach for its queue by a look, which sees no takeover. -/
theorem lingers_of_change (c : Change g g') :
    (∃ id s service, g.sessions[id]? = some s ∧ s.phase = .serving service ∧
        service.sender = .idle ∧ g.registry.notified service.signal = false ∧
        g'.sessions =
          g.sessions.set id { s with phase := .serving { service with sender := .reaching } } ∧
        g'.journal = .looked id :: g.journal) ∨
      (Lingers g g' ∧ ∀ id, lastLook? id g'.journal = lastLook? id g.journal) := by
  have gone : ∀ {s : Session} {phase : Phase}, ({ s with phase } : Session).service? = none →
      ∀ service', ({ s with phase } : Session).service? = some service' →
        service'.sender = .reaching → ∃ service, s.service? = some service ∧
          service.queue = service'.queue ∧ service.sender = .reaching :=
    fun none _ some => absurd (none.symm.trans some) (by simp)
  cases c with
  | looked here serving idle current =>
    exact Or.inl ⟨_, _, _, here, serving, idle, current, rfl, rfl⟩
  | connected greeting inbound outbound =>
    exact Or.inr ⟨.of_services (service?_of_connected (service?_of_greeting greeting) rfl),
      fun _ => rfl⟩
  | streamed here phase inbound outbound =>
    refine Or.inr ⟨.of_services (service?_of_set_same here rfl ?_), fun _ => rfl⟩
    rw [Session.service?, Session.service?, phase]
  | dismissed reason here greeting => exact Or.inr ⟨.of_set here rfl (gone rfl), fun _ => rfl⟩
  | broke here greeting => exact Or.inr ⟨.of_set here rfl (gone rfl), fun _ => rfl⟩
  | ended reason here serving past => exact Or.inr ⟨.of_set here rfl (gone rfl), fun _ => rfl⟩
  | enrolled e rest here greeting room =>
    exact Or.inr ⟨.of_other here rfl rfl (by simp [newService]), fun _ => rfl⟩
  | heeded here serving read aside =>
    exact Or.inr ⟨.of_same here serving rfl rfl rfl rfl, fun _ => rfl⟩
  | answered here serving read plain handed =>
    exact Or.inr ⟨.of_same here serving rfl rfl rfl rfl, fun _ => rfl⟩
  | unanswered here serving read plain missed =>
    exact Or.inr ⟨.of_same here serving rfl rfl rfl rfl, fun _ => rfl⟩
  | closed current here serving fresh report =>
    exact Or.inr ⟨.of_same here serving rfl rfl rfl rfl, fun _ => rfl⟩
  | acquired here serving waiting free =>
    exact Or.inr ⟨.of_other here rfl rfl (by simp), fun _ => rfl⟩
  | retired here serving between notified =>
    exact Or.inr ⟨.of_other here rfl rfl (by simp), fun _ => rfl⟩
  | missed here serving reaching empty =>
    exact Or.inr ⟨.of_other here rfl rfl (by simp), fun _ => rfl⟩
  | wrote here serving writing pos room fits whole =>
    exact Or.inr ⟨.of_other here rfl rfl (senderWith_ne_reaching _), fun _ => rfl⟩
  | took here serving reaching popped encoded =>
    exact Or.inr ⟨.of_other here (sessions_letIn _ _) rfl (by simp), lastLook?_letIn _ _⟩
  | skipped here serving reaching popped unwritable =>
    exact Or.inr ⟨.of_other here (sessions_letIn _ _) rfl (by simp), lastLook?_letIn _ _⟩
  | _ => exact Or.inr ⟨.of_services fun _ => rfl, fun _ => rfl⟩

/-- A sender that reaches for its queue after a run did so before, or has looked for a takeover on the
way. -/
theorem reaching_of_changes (run : Changes g g') {id : SessionId} {service' : Service}
    (serves : g'.service? id = some service') (reaching : service'.sender = .reaching) :
    (∃ service, g.service? id = some service ∧ service.queue = service'.queue ∧
        service.sender = .reaching) ∨
      ∃ earlier, lastLook? id g'.journal = some earlier ∧ g.journal <:+ earlier := by
  induction run generalizing service' with
  | refl => exact Or.inl ⟨service', serves, rfl, reaching⟩
  | @tail h g' before c ih =>
    rcases lingers_of_change c with
      ⟨other, s, service, here, serving, -, -, sessions, journal⟩ | ⟨lingers, looks⟩
    · rw [journal, lastLook?]
      rw [service?_of_set here sessions] at serves
      split at serves
      · rename_i same
        exact Or.inr ⟨h.journal, if_pos same, journal_of_changes before⟩
      · rename_i apart
        rw [if_neg apart]
        exact ih serves reaching
    · obtain ⟨service, serves, queue, reaching⟩ := lingers id service' serves reaching
      rw [looks, ← queue]
      exact ih serves reaching

/-- No sender starts to reach for its queue, and nothing is looked for or taken. -/
theorem Poised.frame (p : Poised g) (lingers : Lingers g g')
    (looks : ∀ id, lastLook? id g'.journal = lastLook? id g.journal)
    (taken : ∀ queue, dequeued queue g'.journal = dequeued queue g.journal) : Poised g' := by
  intro id service' serves reaching
  obtain ⟨service, before, queue, reaching'⟩ := lingers id service' serves reaching
  obtain ⟨earlier, first, look, tenant, same⟩ := p id service before reaching'
  rw [← queue]
  exact ⟨earlier, first, (looks id).trans look, tenant, (taken _).trans same⟩

/-- A sender that takes an envelope is alone with its queue, and does not reach for it any more. -/
theorem Poised.taken (p : Poised g) (x : Exclusive g) {id : SessionId} {s t : Session}
    {service : Service} {e : Envelope} (here : g.sessions[id]? = some s)
    (serving : s.phase = .serving service) (reaching : service.sender = .reaching)
    (sessions : g'.sessions = g.sessions.set id t)
    {service'' : Service} (phase : t.phase = .serving service'')
    (done : service''.sender ≠ .reaching)
    (looks : ∀ id, lastLook? id g'.journal = lastLook? id g.journal)
    (taken : ∀ queue, dequeued queue g'.journal =
      dequeued queue (.taken id service.queue e :: g.journal)) : Poised g' := by
  intro id' service' serves reaching'
  rw [service?_of_set here sessions] at serves
  split at serves
  · obtain rfl := Option.some.inj ((Session.service?_eq_some.2 phase).symm.trans serves)
    exact absurd reaching' done
  · rename_i other
    obtain ⟨earlier, first, look, tenant, same⟩ := p id' service' serves reaching'
    refine ⟨earlier, first, (looks id').trans look, tenant, ?_⟩
    -- two senders do not hold one queue
    have apart : service.queue ≠ service'.queue := fun queue =>
      other (x (service?_eq_some.2 ⟨s, here, serving⟩) serves queue (by rw [reaching]; rfl)
        (by rw [reaching']; rfl))
    rw [taken, dequeued, if_neg apart, same]

theorem poised_of_change (t : Tenancy g) (x : Exclusive g) (p : Poised g) (c : Change g g') :
    Poised g' := by
  rcases lingers_of_change c with
    ⟨id, s, service, here, serving, idle, current, sessions, journal⟩ | ⟨lingers, looks⟩
  · -- the sender that has just looked reaches for its queue now
    have serves := service?_eq_some.2 ⟨s, here, serving⟩
    intro id' service' serves' reaching
    rw [service?_of_set here sessions] at serves'
    rw [journal, lastLook?]
    split at serves'
    · rename_i same
      obtain rfl := Option.some.inj serves'
      obtain ⟨first, latest⟩ := t.tenant_of_idle serves idle current
      exact ⟨g.journal, first, if_pos same, same ▸ latest, rfl⟩
    · rename_i other
      obtain ⟨earlier, first, look, tenant, same⟩ := p id' service' serves' reaching
      exact ⟨earlier, first, (if_neg other).trans look, tenant, same⟩
  · cases c with
    | took here serving reaching popped encoded =>
      exact p.taken x here serving reaching (sessions_letIn _ _) rfl (by simp) looks
        (dequeued_letIn _ _)
    | skipped here serving reaching popped unwritable =>
      exact p.taken x here serving reaching (sessions_letIn _ _) rfl (by simp) looks
        (dequeued_letIn _ _)
    | _ => exact p.frame lingers looks fun _ => rfl

theorem poised_of_attained {s : Settings} (h : Attained s g) : Poised g := by
  induction h with
  | refl =>
    intro id service serves
    exact absurd serves (by simp [start, service?])
  | tail attained c ih =>
    exact poised_of_change (tenancy_of_attained attained) (exclusive_of_attained attained) ih c

/-- An envelope is taken by a session that had registered last on its queue when it last looked for a
takeover, and nothing was taken from the queue in between. -/
theorem tenant_of_taken {s : Settings} (attained : Attained s g) {id : SessionId}
    {queue : QueueId} {e : Envelope} {before : List Event}
    (h : .taken id queue e :: before <:+ g.journal) :
    ∃ earlier first, lastLook? id before = some earlier ∧
      tenant? queue earlier = some (id, first) ∧
      dequeued queue before = dequeued queue earlier := by
  induction attained with
  | refl => exact absurd h (by simp [start])
  | tail attained c ih =>
    rcases taken_of_change c h with earlier | ⟨rfl, t, service, taken, here, serving, reaching,
      rfl, -, -⟩
    · exact ih earlier
    · exact poised_of_attained attained _ _ (service?_eq_some.2 ⟨t, here, serving⟩) reaching

/-- A session that takes another envelope from its queue later was still the one that registered last
when it took this one: it has looked for a takeover in between. -/
theorem tenant_of_taken_before {s : Settings} (attained : Attained s g) {id : SessionId}
    {queue : QueueId} {e e' : Envelope} {before later : List Event}
    (first : .taken id queue e :: before <:+ later)
    (second : .taken id queue e' :: later <:+ g.journal) :
    ∃ registered, tenant? queue before = some (id, registered) := by
  have within : later <:+ g.journal := (List.suffix_cons _ _).trans second
  obtain ⟨earlier, registered, look, tenant, -⟩ := tenant_of_taken attained (first.trans within)
  obtain ⟨earlier', registered', look', tenant', same⟩ := tenant_of_taken attained second
  have seen : earlier' <:+ later := (List.suffix_cons _ _).trans (suffix_of_lastLook? look')
  -- nothing was taken since the second look, so it came after the first envelope was taken
  have between : .taken id queue e :: before <:+ earlier' := by
    rcases List.suffix_or_suffix_of_suffix first seen with after | before'
    · exact after
    · rcases List.suffix_cons_iff.1 before' with rfl | before'
      · exact List.suffix_rfl
      · have fewer := (dequeued_mono before' queue).length_le
        have more := (dequeued_mono first queue).length_le
        rw [dequeued, if_pos rfl, List.length_append, List.length_singleton, same] at more
        omega
  have listed : .registered id registered ∈ before :=
    ((List.suffix_cons _ _).trans (suffix_of_lastLook? look)).subset (registered_of_tenant _ tenant)
  exact ⟨registered', tenant_of_later attained (seen.trans within) tenant'
    ((List.suffix_cons _ _).trans between) listed⟩

end Looks

end Gateway

end Switchboard
