import Mathlib.Algebra.BigOperators.Group.Finset.Piecewise
import Switchboard.Proofs.Handshake
import Switchboard.Proofs.KeySequence
import Switchboard.Proofs.Meters
import Switchboard.Proofs.Placement

/-!
# Who came, who left, and what the counters say

A session is counted when it registers and when it ends, if it registered before, and never between
(`Footed`, `footed_of_deed`). So the counters of active and of closed sessions count the sessions that
registered and did not end, and those that ended, by reason (`SessionsCounted`). The counter of stale
deregistrations (`StaleCounted`) counts the closing actions of sessions whose node another one had
registered by then (`overtaken`, `isStale_of_attained`).
-/

set_option autoImplicit false

namespace Switchboard

/-- What ended a session, if it ended. -/
def Session.end? (s : Session) : Option SessionError :=
  match s.phase with
  | .ended reason => some reason
  | _ => none

/-- A session found its node with another owner when it did its closing actions. -/
def Event.isStale : Event → Bool
  | .closed _ current => !current
  | _ => false

namespace Gateway

/-- Where a session stands that registered: it was ended by something, or by nothing yet. -/
def footing (g : Gateway) (id : SessionId) : Option (Option SessionError) :=
  (registration? id g.journal).map fun _ => (g.sessions[id]?).bind Session.end?

/-- The sessions that registered and of which this holds. -/
def joiners (g : Gateway) (p : Option SessionError → Bool) : Finset SessionId :=
  (Finset.range g.sessions.length).filter fun id => (g.footing id).any p = true

/-- The session had registered its node, and since then another connection did. -/
def isOvertaken (id : SessionId) (journal : List Event) : Bool :=
  (registration? id journal).any fun mine =>
    (registrar? mine.identity.node journal).map (·.2.key) != some mine.key

/-- The sessions that did their closing actions when another connection had registered their node. -/
def overtaken : List Event → List SessionId
  | [] => []
  | .closed id _ :: before => if isOvertaken id before then id :: overtaken before else overtaken before
  | _ :: before => overtaken before

/-- Only one session gets another footing. -/
structure Steps (id : SessionId) (g g' : Gateway) : Prop where
  length : g'.sessions.length = g.sessions.length
  others : ∀ {other}, other ≠ id → g'.footing other = g.footing other

/-- What a step of a session does to its footing and to the counters of sessions. -/
inductive Footed (g : Gateway) (id : SessionId) (g' : Gateway) : Prop
  | joins (before : g.footing id = none) (after : g'.footing id = some none)
      (active : g'.metrics.value .sessionsActive = g.metrics.value .sessionsActive + 1)
      (closed : ∀ label,
        g'.metrics.value (.sessionsClosed label) = g.metrics.value (.sessionsClosed label))
  | leaves (reason : SessionError) (before : g.footing id = some none)
      (after : g'.footing id = some (some reason))
      (active : g'.metrics.value .sessionsActive = g.metrics.value .sessionsActive - 1)
      (closed : ∀ label, g'.metrics.value (.sessionsClosed label) =
        g.metrics.value (.sessionsClosed label) + if reason.reason = label then 1 else 0)
  | stays (same : g'.footing id = g.footing id)
      (active : g'.metrics.value .sessionsActive = g.metrics.value .sessionsActive)
      (closed : ∀ label,
        g'.metrics.value (.sessionsClosed label) = g.metrics.value (.sessionsClosed label))

/-- The counters of active and of closed sessions count those that registered and did not end, and those
that registered and ended, by the reason. -/
structure SessionsCounted (g : Gateway) : Prop where
  active : g.metrics.value .sessionsActive = (g.joiners Option.isNone).card
  closed : ∀ label, g.metrics.value (.sessionsClosed label) =
    (g.joiners fun ended => ended.any fun reason => reason.reason = label).card

/-- The counter of stale deregistrations counts the closing actions that found a node with another
owner. -/
def StaleCounted (g : Gateway) : Prop :=
  g.metrics.value .staleDeregistrations = g.journal.countP Event.isStale

/-! ## Footing -/

section Footing

variable {s : Settings} {g g' : Gateway} {id : SessionId} {t u : Session}

theorem registered_of_registration? {journal : List Event} {first : Service}
    (h : registration? id journal = some first) : .registered id first ∈ journal := by
  induction journal with
  | nil => exact absurd h (by simp [registration?])
  | cons event before ih =>
    cases event with
    | registered other service =>
      rw [registration?] at h
      split at h
      · rename_i same
        obtain rfl := Option.some.inj h
        rw [same]
        exact List.mem_cons_self
      · exact List.mem_cons_of_mem _ (ih h)
    | _ => exact List.mem_cons_of_mem _ (ih h)

/-- A session that waits for its first frame has no footing. -/
theorem registration?_of_greeting (attained : Attained s g) {deadline : Nat}
    (here : g.sessions[id]? = some t) (greeting : t.phase = .greeting deadline) :
    registration? id g.journal = none := by
  cases listed : registration? id g.journal with
  | none => rfl
  | some first =>
    exact absurd (registered_of_registration? listed)
      (not_registered_of_greeting attained here greeting first)

theorem exists_registration?_of_serving (attained : Attained s g) {service : Service}
    (here : g.sessions[id]? = some t) (serving : t.phase = .serving service) :
    ∃ first, registration? id g.journal = some first := by
  obtain ⟨first, listed, -⟩ :=
    (owned_of_attained attained).seats (service?_eq_some.2 ⟨t, here, serving⟩)
  exact ⟨first, (registration_of_attained attained listed).1⟩

/-- There are no sessions with a footing but those that connected. -/
theorem footing_of_unknown (attained : Attained s g) (unknown : g.sessions.length ≤ id) :
    g.footing id = none := by
  cases listed : registration? id g.journal with
  | none => rw [footing, listed, Option.map_none]
  | some first =>
    obtain ⟨-, t, here, -⟩ :=
      registration_of_attained attained (registered_of_registration? listed)
    rw [List.getElem?_eq_none unknown] at here
    exact absurd here (by simp)

theorem footing_of_here (here : g.sessions[id]? = some t) :
    g.footing id = (registration? id g.journal).map fun _ => t.end? := by
  rw [footing, here, Option.bind_some]

/-- A session that changes by itself is the only one with another footing. -/
theorem steps_of_set (sessions : g'.sessions = g.sessions.set id u)
    (registration : ∀ {other}, other ≠ id →
      registration? other g'.journal = registration? other g.journal) : Steps id g g' where
  length := by rw [sessions, List.length_set]
  others {other} apart := by
    rw [footing, footing, registration apart, sessions, List.getElem?_set_ne (Ne.symm apart)]

theorem footing_of_set (here : g.sessions[id]? = some t)
    (sessions : g'.sessions = g.sessions.set id u) :
    g'.footing id = (registration? id g'.journal).map fun _ => u.end? := by
  apply footing_of_here
  rw [sessions]
  exact List.getElem?_set_self (List.getElem?_eq_some_iff.1 here).1

/-- The number of sessions of which something holds changes with the one that takes a step. -/
theorem card_joiners (steps : Steps id g g') (lt : id < g.sessions.length)
    (p : Option SessionError → Bool) :
    (g'.joiners p).card + (if (g.footing id).any p = true then 1 else 0) =
      (g.joiners p).card + if (g'.footing id).any p = true then 1 else 0 := by
  have mem : id ∈ Finset.range g.sessions.length := Finset.mem_range.2 lt
  have others : ∑ other ∈ (Finset.range g.sessions.length).erase id,
        (if (g'.footing other).any p = true then 1 else 0) =
      ∑ other ∈ (Finset.range g.sessions.length).erase id,
        if (g.footing other).any p = true then 1 else 0 :=
    Finset.sum_congr rfl fun other away => by rw [steps.others (Finset.ne_of_mem_erase away)]
  rw [joiners, joiners, steps.length, Finset.card_filter, Finset.card_filter,
    ← Finset.add_sum_erase _ _ mem, ← Finset.add_sum_erase (Finset.range g.sessions.length) _ mem,
    others]
  omega

theorem joiners_eq_of_footing (attained : Attained s g)
    (length : g.sessions.length ≤ g'.sessions.length) (same : ∀ id, g'.footing id = g.footing id)
    (p : Option SessionError → Bool) : g'.joiners p = g.joiners p := by
  ext id
  rw [joiners, joiners, Finset.mem_filter, Finset.mem_filter, Finset.mem_range, Finset.mem_range, same]
  constructor
  · rintro ⟨-, holds⟩
    refine ⟨?_, holds⟩
    by_contra beyond
    rw [footing_of_unknown attained (Nat.le_of_not_lt beyond)] at holds
    exact absurd holds (by simp)
  · rintro ⟨lt, holds⟩
    exact ⟨Nat.lt_of_lt_of_le lt length, holds⟩

end Footing

/-! ## The steps of a session -/

section Steps

variable {s : Settings} {g g' : Gateway} {id : SessionId} {t u : Session} {service : Service}

/-- Something that happens without the counters of sessions. -/
theorem Footed.of_values (same : g'.footing id = g.footing id)
    (values : ∀ series : Series, series ≠ .staleDeregistrations → series ≠ .repliesDropped →
      series ≠ .framesDropped → g'.metrics.value series = g.metrics.value series) :
    Footed g id g' :=
  .stays same (values _ (by simp) (by simp) (by simp)) fun _ => values _ (by simp) (by simp) (by simp)

/-- A session that goes on serving keeps its footing. -/
theorem footing_of_serving {service' : Service} (here : g.sessions[id]? = some t)
    (serving : t.phase = .serving service) (sessions : g'.sessions = g.sessions.set id u)
    (serving' : u.phase = .serving service')
    (registration : registration? id g'.journal = registration? id g.journal) :
    g'.footing id = g.footing id := by
  rw [footing_of_set here sessions, footing_of_here here, registration, Session.end?, serving',
    Session.end?, serving]

theorem exists_sessions_handle (id : SessionId) (u : Session) (service : Service) (e : Envelope) :
    ∃ service', (g.handle id u { service with first := none } e).sessions =
      g.sessions.set id { u with phase := .serving service' } := by
  cases control : e.command.isControl with
  | true => exact ⟨_, (handle_of_control g id u service control).1⟩
  | false => exact ⟨_, (handle_of_plain g id u _ control).1⟩

/-- A session that serves and goes on changes nothing that its counters show. -/
theorem footed_of_serving {service' : Service} (here : g.sessions[id]? = some t)
    (serving : t.phase = .serving service) (sessions : g'.sessions = g.sessions.set id u)
    (serving' : u.phase = .serving service') (keyless : Keyless g g')
    (values : ∀ series : Series, series ≠ .staleDeregistrations → series ≠ .repliesDropped →
      series ≠ .framesDropped → g'.metrics.value series = g.metrics.value series) :
    Steps id g g' ∧ Footed g id g' :=
  ⟨steps_of_set sessions fun _ => keyless.registration _,
    .of_values (footing_of_serving here serving sessions serving' (keyless.registration id)) values⟩

/-- A session that never got its first frame leaves no trace in the counters. -/
theorem footed_of_unregistered (attained : Attained s g) {deadline : Nat}
    (here : g.sessions[id]? = some t) (greeting : t.phase = .greeting deadline)
    (sessions : g'.sessions = g.sessions.set id u) (keyless : ∀ other,
      registration? other g'.journal = registration? other g.journal)
    (metrics : g'.metrics = g.metrics) : Steps id g g' ∧ Footed g id g' := by
  have none := registration?_of_greeting attained here greeting
  refine ⟨steps_of_set sessions fun _ => keyless _, .of_values ?_ fun _ _ _ _ => by rw [metrics]⟩
  rw [footing_of_set here sessions, footing_of_here here, keyless, none, Option.map_none,
    Option.map_none]

/-- A session that registers its node joins those that are active. -/
theorem footed_enroll (attained : Attained s g) {deadline : Nat} (e : Envelope) (rest : List UInt8)
    (here : g.sessions[id]? = some t) (greeting : t.phase = .greeting deadline) :
    Steps id g (g.enroll id t e rest) ∧ Footed g id (g.enroll id t e rest) := by
  have none := registration?_of_greeting attained here greeting
  have sessions : (g.enroll id t e rest).sessions = g.sessions.set id _ := rfl
  have metrics : (g.enroll id t e rest).metrics = g.metrics.add .sessionsActive 1 := rfl
  have journal : (g.enroll id t e rest).journal =
    .registered id (g.newService e) :: g.journal := rfl
  refine ⟨steps_of_set sessions fun apart => ?_, .joins ?_ ?_ ?_ fun label => ?_⟩
  · rw [journal, registration?, if_neg (Ne.symm apart)]
  · rw [footing_of_here here, none, Option.map_none]
  · rw [footing_of_set here sessions, journal, registration?, if_pos rfl]
    rfl
  · rw [metrics, Metrics.value_add, if_pos rfl]
  · rw [metrics, Metrics.value_add, if_neg (by simp)]

/-- A session that ends leaves those that are active, and is counted under its reason. -/
theorem footed_finish (attained : Attained s g) (reason : SessionError)
    (here : g.sessions[id]? = some t) (serving : t.phase = .serving service) :
    Steps id g (g.finish id t service reason) ∧ Footed g id (g.finish id t service reason) := by
  obtain ⟨first, registered⟩ := exists_registration?_of_serving attained here serving
  have registration := (keyless_finish (g := g) id t service reason).registration
  have values : ∀ series : Series, series ≠ .staleDeregistrations →
      (g.close id service).metrics.value series = g.metrics.value series :=
    fun _ stale => value_close stale id service
  refine ⟨steps_of_set (sessions_finish t service reason) fun _ => registration _,
    .leaves reason ?_ ?_ ?_ fun label => ?_⟩
  · rw [footing_of_here here, registered, Option.map_some, Session.end?, serving]
  · rw [footing_of_set here (sessions_finish t service reason), registration, registered,
      Option.map_some, Session.end?]
  · rw [metrics_finish, Metrics.value_add, if_neg (by simp), Metrics.value_add, if_pos rfl,
      values _ (by simp), Int.sub_eq_add_neg]
  · have before : ((g.close id service).metrics.add .sessionsActive (-1)).value
        (.sessionsClosed label) = g.metrics.value (.sessionsClosed label) := by
      rw [Metrics.value_add, if_neg (by simp), values _ (by simp)]
    rw [metrics_finish, Metrics.value_add, before]
    by_cases same : reason.reason = label
    · rw [if_pos (congrArg Series.sessionsClosed same), if_pos same]
    · rw [if_neg (by simpa using same), if_neg same, Int.add_zero]

/-- The counters follow the footing of the session that takes a step. -/
theorem footed_of_deed (attained : Attained s g) {m : Move} (deed : Deed g id m g') :
    Steps id g g' ∧ Footed g id g' := by
  -- registering and ending change the footing of the session, and nothing else does
  cases deed with
  | dismissed reason how here greeting =>
    exact footed_of_unregistered attained here greeting rfl (fun _ => rfl) rfl
  | broke here greeting =>
    exact footed_of_unregistered attained here greeting rfl (fun _ => rfl) rfl
  | enrolled e rest here greeting room => exact footed_enroll attained e rest here greeting
  | finished reason how here serving => exact footed_finish attained reason here serving
  | @handled t service e inbound here serving read =>
    obtain ⟨service', sessions⟩ := exists_sessions_handle (g := g) id { t with inbound } service e
    exact footed_of_serving here serving sessions rfl (keyless_handle _ _ _ _)
      fun _ stale dropped _ => value_handle stale dropped _ _ _ _
  | acquired here serving waiting free =>
    exact footed_of_serving here serving rfl rfl (.of_same rfl rfl) fun _ _ _ _ => rfl
  | retired here serving between notified =>
    exact footed_of_serving here serving rfl rfl (.of_same rfl rfl) fun _ _ _ _ => rfl
  | looked here serving idle current =>
    exact footed_of_serving here serving rfl rfl (.of_event rfl rfl (by simp)) fun _ _ _ _ => rfl
  | missed here serving reaching empty =>
    exact footed_of_serving here serving rfl rfl (.of_same rfl rfl) fun _ _ _ _ => rfl
  | @took t service taken bytes here serving reaching first encoded =>
    have sessions : ((g.afterTaking id service taken).setSender id t service
        (.writing bytes)).sessions =
          g.sessions.set id { t with phase := .serving { service with sender := .writing bytes } } := by
      rw [setSender, setSession, sessions_afterTaking]
    refine footed_of_serving here serving sessions rfl ?_ fun series _ _ _ => ?_
    · exact (keyless_afterTaking _ _ _).trans (.of_same rfl rfl)
    · exact congrArg (Metrics.value · series) (metrics_afterTaking _ _ _)
  | @skipped t service taken cause here serving reaching first unwritable =>
    have sessions : ((((g.afterTaking id service taken).setSender id t service .idle).count
        .framesDropped 1).record (.skipped id taken.frame)).sessions =
          g.sessions.set id { t with phase := .serving { service with sender := .idle } } := by
      show (Gateway.sessions (afterTaking _ _ _ _)).set _ _ = _
      rw [sessions_afterTaking]
    refine footed_of_serving here serving sessions rfl ?_ fun series _ _ dropped => ?_
    · exact (keyless_afterTaking _ _ _).trans (.of_event rfl rfl (by simp))
    · show ((Gateway.metrics (afterTaking _ _ _ _)).add _ _).value series = _
      rw [Metrics.value_add, if_neg (Ne.symm dropped), metrics_afterTaking]
  | wrote here serving writing whole pos room le =>
    exact footed_of_serving here serving rfl rfl (.of_event rfl rfl (by simp)) fun _ _ _ _ => rfl

end Steps

/-! ## What is no step of a session -/

section Elsewhere

variable {s : Settings} {g g' : Gateway}

theorem joiners_of_keyless (attained : Attained s g) (keyless : Keyless g g')
    (length : g.sessions.length ≤ g'.sessions.length)
    (ends : ∀ id : SessionId,
      (g'.sessions[id]?).bind Session.end? = (g.sessions[id]?).bind Session.end?)
    (p : Option SessionError → Bool) : g'.joiners p = g.joiners p :=
  joiners_eq_of_footing attained length
    (fun id => by rw [footing, footing, keyless.registration, ends]) p

/-- What happens is a step of one session, or leaves the sessions and their counters alone. -/
theorem footed_or_elsewhere (attained : Attained s g) {a : Action} (occurs : Occurs g a g') :
    (∃ id, id < g.sessions.length ∧ Steps id g g' ∧ Footed g id g') ∨
      (∀ p, g'.joiners p = g.joiners p) ∧
        ∀ series : Series, series.party = .sessions →
          g'.metrics.value series = g.metrics.value series := by
  -- the sessions stay as they are
  have same (keyless : Keyless g g') (sessions : g'.sessions = g.sessions) (p) :
      g'.joiners p = g.joiners p :=
    joiners_of_keyless attained keyless (by rw [sessions]) (fun id => by rw [sessions]) p
  cases occurs with
  | @deed _ id m g' how mem free deed =>
    have lt : id < g.sessions.length := by
      by_contra beyond
      have live := deed.isLive
      rw [List.getElem?_eq_none (Nat.le_of_not_lt beyond)] at live
      exact absurd live (by simp)
    exact Or.inl ⟨id, lt, footed_of_deed attained deed⟩
  | turn here free turn =>
    exact Or.inr ⟨same (keyless_of_turn turn) (sessions_of_turn turn),
      fun _ mine => value_of_turn turn (by simp [mine])⟩
  | tallies due => exact Or.inr ⟨same (.of_event rfl rfl (by simp)) rfl, fun _ _ => rfl⟩
  | publishes due =>
    exact Or.inr ⟨same (.of_event rfl rfl (by simp)) rfl,
      fun _ mine => value_publish (g := g) (by simp [mine]) _ _⟩
  | beats id =>
    obtain ⟨registry, metrics, news, shape, -⟩ := beatAll_shape (g := g) id
    refine Or.inr ⟨same (keyless_of_occurs (.beats id) (by simp)) (by rw [shape]), fun _ mine => ?_⟩
    exact (value_beatAll (by simp [mine]) id).1
  | stops id => exact Or.inr ⟨same (.of_event rfl rfl (by simp)) rfl, fun _ _ => rfl⟩
  | starts group e timeout =>
    exact Or.inr ⟨same (keyless_dispatch group e timeout) (sessions_dispatch group e timeout),
      fun _ _ => by rw [metrics_dispatch]⟩
  | forsakes here free waits => exact Or.inr ⟨same (.of_event rfl rfl (by simp)) rfl, fun _ _ => rfl⟩
  | @connects buffer t deadline greeting =>
    refine Or.inr ⟨joiners_of_keyless attained (.of_same rfl rfl) (by simp) fun id => ?_,
      fun _ _ => rfl⟩
    have fresh : t.end? = none := by rw [Session.end?, greeting]
    rcases Nat.lt_trichotomy id g.sessions.length with lt | rfl | gt
    · rw [List.getElem?_append_left lt]
    · rw [List.getElem?_concat_length, Option.bind_some, fresh,
        List.getElem?_eq_none (Nat.le_refl _), Option.bind_none]
    · rw [List.getElem?_eq_none (Nat.le_of_lt gt), List.getElem?_eq_none]
      rw [List.length_append]
      exact gt
  | @streams i id t u own here phase =>
    refine Or.inr ⟨joiners_of_keyless attained (.of_same rfl rfl) (by simp) fun other => ?_,
      fun _ _ => rfl⟩
    have same : u.end? = t.end? := by rw [Session.end?, phase, ← Session.end?]
    by_cases mine : id = other
    · rw [← mine, List.getElem?_set_self (List.getElem?_eq_some_iff.1 here).1, here,
        Option.bind_some, Option.bind_some, same]
    · rw [List.getElem?_set_ne mine]
  | around => exact Or.inr ⟨same (.of_same rfl rfl) rfl, fun _ _ => rfl⟩

/-- The counters of sessions count them. -/
theorem sessionsCounted_of_reachable (h : Reachable s g) : SessionsCounted g := by
  refine holds_of_reachable ⟨rfl, fun _ => rfl⟩ (fun {g a g'} reached counted occurs => ?_) h
  rcases footed_or_elsewhere (attained_of_reachable reached) occurs with
    ⟨id, lt, steps, footed⟩ | ⟨joiners, values⟩
  · have card := card_joiners steps lt
    -- the session goes from one set of sessions to another, or stays in its own
    cases footed with
    | joins before after active closed =>
      simp only [before, after] at card
      refine ⟨?_, fun label => ?_⟩
      · have more : (g'.joiners Option.isNone).card = (g.joiners Option.isNone).card + 1 := by
          simpa using card Option.isNone
        rw [active, counted.active, more, Nat.cast_succ]
      · have same : (g'.joiners fun ended => ended.any fun reason => reason.reason = label).card =
            (g.joiners fun ended => ended.any fun reason => reason.reason = label).card := by
          simpa using card fun ended => ended.any fun reason => reason.reason = label
        rw [closed, counted.closed, same]
    | leaves reason before after active closed =>
      simp only [before, after] at card
      refine ⟨?_, fun label => ?_⟩
      · have fewer : (g'.joiners Option.isNone).card + 1 = (g.joiners Option.isNone).card := by
          simpa using card Option.isNone
        rw [active, counted.active, ← fewer, Nat.cast_succ, Int.add_sub_cancel]
      · have more : (g'.joiners fun ended => ended.any fun reason => reason.reason = label).card =
            (g.joiners fun ended => ended.any fun reason => reason.reason = label).card +
              if reason.reason = label then 1 else 0 := by
          simpa using card fun ended => ended.any fun reason => reason.reason = label
        rw [closed, counted.closed, more]
        split <;> simp
    | stays same active closed =>
      simp only [same] at card
      refine ⟨?_, fun label => ?_⟩
      · rw [active, counted.active, Nat.add_right_cancel (card _)]
      · rw [closed, counted.closed, Nat.add_right_cancel (card _)]
  · refine ⟨?_, fun label => ?_⟩
    · rw [values _ rfl, counted.active, joiners]
    · rw [values _ rfl, counted.closed, joiners]

end Elsewhere

/-! ## Stale deregistrations -/

section Stale

variable {s : Settings} {g g' : Gateway}

/-- What is no closing action of a session without its node is not counted. -/
theorem StaleCounted.of_news (counted : StaleCounted g) (news : List Event)
    (journal : g'.journal = news ++ g.journal) (quiet : ∀ event ∈ news, event.isStale = false)
    (same : g'.metrics.value .staleDeregistrations = g.metrics.value .staleDeregistrations) :
    StaleCounted g' := by
  have none : news.countP Event.isStale = 0 :=
    List.countP_eq_zero.2 fun event mem => by simp [quiet event mem]
  rw [StaleCounted, same, counted, journal, List.countP_append, none, Nat.zero_add]

theorem StaleCounted.of_same (counted : StaleCounted g) (journal : g'.journal = g.journal)
    (same : g'.metrics.value .staleDeregistrations = g.metrics.value .staleDeregistrations) :
    StaleCounted g' :=
  counted.of_news [] journal (by simp) same

theorem StaleCounted.of_event (counted : StaleCounted g) {event : Event}
    (journal : g'.journal = event :: g.journal) (quiet : event.isStale = false)
    (same : g'.metrics.value .staleDeregistrations = g.metrics.value .staleDeregistrations) :
    StaleCounted g' :=
  counted.of_news [event] journal (by simpa using quiet) same

/-- The closing actions of a session are counted if the node was lost. -/
theorem staleCounted_close (counted : StaleCounted g) (id : SessionId) (service : Service) :
    StaleCounted (g.close id service) := by
  rw [close]
  split
  · exact counted
  · obtain ⟨current, news, metrics, journal, queued⟩ := deregister_counts (g := g) id service
    have quiet : news.countP Event.isStale = 0 :=
      List.countP_eq_zero.2 fun event mem => by simp [queued event mem, Event.isStale]
    rw [StaleCounted] at counted
    rw [StaleCounted, metrics, journal, List.countP_append, quiet, List.countP_cons]
    cases current with
    | true => simpa [Event.isStale] using counted
    | false => simp [Event.isStale, Metrics.value_add, counted]

theorem staleCounted_letIn (counted : StaleCounted g) (waiting : Option DispatchId)
    (queue : QueueId) : StaleCounted (g.letIn waiting queue) := by
  rcases letIn_cases g waiting queue with ⟨eq, -⟩ | ⟨caller, d, -, -, eq⟩
  · rwa [eq]
  · rw [eq]
    exact counted.of_event rfl rfl rfl

theorem staleCounted_afterTaking (counted : StaleCounted g) (id : SessionId) (service : Service)
    (taken : Queue.Taken DispatchId) : StaleCounted (g.afterTaking id service taken) := by
  have popped : StaleCounted ({ g with
      registry := g.registry.setQueue service.queue taken.queue }.record
        (.taken id service.queue taken.frame)) := counted.of_event rfl rfl rfl
  exact staleCounted_letIn popped _ _

theorem staleCounted_handle (counted : StaleCounted g) (id : SessionId) (t : Session)
    (service : Service) (e : Envelope) : StaleCounted (g.handle id t service e) := by
  have read : StaleCounted (g.record (.received id e)) := counted.of_event rfl rfl rfl
  rcases handle_cases g id t service e with
    ⟨-, eq⟩ | ⟨ticket, replies, -, -, eq⟩ | ⟨replies, -, -, eq⟩ | ⟨replies, -, -, eq⟩ <;> rw [eq]
  · exact (staleCounted_close read id service).of_same rfl rfl
  · exact read.of_event rfl rfl rfl
  · exact read.of_same rfl ((Metrics.value_add _ _ _ _).trans (if_neg (by simp)))
  · exact read.of_same rfl rfl

theorem staleCounted_of_deed (counted : StaleCounted g) {id : SessionId} {m : Move}
    (deed : Deed g id m g') : StaleCounted g' := by
  -- counting in another series does not matter
  have other : ∀ {h : Gateway} (series : Series) (amount : Int), series ≠ .staleDeregistrations →
      StaleCounted h → StaleCounted (h.count series amount) := fun series amount foreign counted =>
    counted.of_same rfl ((Metrics.value_add _ _ _ _).trans (if_neg foreign))
  cases deed with
  | dismissed reason how here greeting => exact counted.of_event rfl rfl rfl
  | enrolled e rest here greeting room =>
    exact (other .sessionsActive 1 (by simp) counted).of_event rfl rfl rfl
  | broke here greeting => exact counted.of_same rfl rfl
  | @finished m t service reason how here serving =>
    have closed := other (.sessionsClosed reason.reason) 1 (by simp)
      (other .sessionsActive (-1) (by simp) (staleCounted_close counted id service))
    exact closed.of_event rfl rfl rfl
  | handled here serving read => exact staleCounted_handle counted _ _ _ _
  | acquired here serving waiting free => exact counted.of_same rfl rfl
  | retired here serving between notified => exact counted.of_same rfl rfl
  | looked here serving idle current => exact counted.of_event rfl rfl rfl
  | missed here serving reaching empty => exact counted.of_same rfl rfl
  | took here serving reaching first encoded =>
    exact (staleCounted_afterTaking counted _ _ _).of_same rfl rfl
  | @skipped t service taken cause here serving reaching first unwritable =>
    have dropped := other .framesDropped 1 (by simp)
      (staleCounted_afterTaking counted id service taken)
    exact dropped.of_event rfl rfl rfl
  | wrote here serving writing whole pos room le => exact counted.of_event rfl rfl rfl

theorem staleCounted_of_turn (counted : StaleCounted g) {id : DispatchId} {d : Dispatch} {m : Move}
    (turn : Turn g id d m g') : StaleCounted g' := by
  have same : g'.metrics.value .staleDeregistrations = g.metrics.value .staleDeregistrations :=
    value_of_turn turn (by simp [Series.party])
  cases turn with
  | passed placing chosen shut => exact counted.of_same rfl same
  | joined placing chosen live full => exact counted.of_same rfl same
  | movedOn blocked shut => exact counted.of_same rfl same
  | _ => exact counted.of_event rfl rfl same

theorem staleCounted_of_occurs (counted : StaleCounted g) {a : Action} (occurs : Occurs g a g') :
    StaleCounted g' := by
  cases occurs with
  | deed how mem free deed => exact staleCounted_of_deed counted deed
  | turn here free turn => exact staleCounted_of_turn counted turn
  | tallies due => exact counted.of_event rfl rfl rfl
  | publishes due =>
    exact counted.of_event rfl rfl (value_publish (g := g) (by simp [Series.party]) _ _)
  | beats id =>
    obtain ⟨registry, metrics, news, shape, each⟩ := beatAll_shape (g := g) id
    refine counted.of_news news (by rw [shape]) (fun event mem => ?_)
      (value_beatAll (by simp [Series.party]) id).1
    obtain ⟨queue, rfl⟩ := each event mem
    rfl
  | stops id => exact counted.of_event rfl rfl rfl
  | starts group e timeout =>
    obtain ⟨news, journal, told⟩ := journal_dispatch g group e timeout
    refine counted.of_news news journal (fun event mem => ?_) (by rw [metrics_dispatch])
    rcases told event mem with ⟨id, c, rfl⟩ | ⟨id, result, rfl⟩ <;> rfl
  | forsakes here free waits => exact counted.of_event rfl rfl rfl
  | connects greeting => exact counted.of_same rfl rfl
  | streams own here phase => exact counted.of_same rfl rfl
  | around => exact counted.of_same rfl rfl

theorem staleCounted_of_reachable (h : Reachable s g) : StaleCounted g :=
  holds_of_reachable rfl (fun _ counted occurs => staleCounted_of_occurs counted occurs) h

/-! ### Overtaken sessions -/

/-- A session that serves and has not closed has its node exactly if it was not overtaken. -/
theorem removed_iff_not_overtaken (attained : Attained s g) {id : SessionId} {service : Service}
    (serves : g.service? id = some service) (fresh : service.closed = false) :
    (∃ members, (g.registry.deregister service.identity.group service.identity.node
      service.key).1 = .removed members) ↔ isOvertaken id g.journal = false := by
  have owned := owned_of_attained attained
  obtain ⟨first, listed, seat⟩ := owned.seats serves
  obtain ⟨identity, key, -, -⟩ := Service.seat_eq_seat.1 seat
  have mine := (registration_of_attained attained listed).1
  rw [isOvertaken, mine, Option.any_some, bne_eq_false_iff_eq, Option.map_eq_some_iff, ← identity,
    ← key]
  rcases Registry.deregister_cases g.registry first.identity.group first.identity.node first.key with
    ⟨entry, registered, same, group, eq⟩ | ⟨lost, eq⟩
  · refine iff_of_true ⟨_, by rw [eq]⟩ ?_
    cases latest : registrar? first.identity.node g.journal with
    | none => exact absurd (registered.symm.trans (owned.unknown latest)) (by simp)
    | some pair =>
      -- the registry has the node as its latest connection registered it
      rw [owned.standing latest] at registered
      split at registered
      · refine ⟨pair, rfl, ?_⟩
        rw [← same, ← Option.some.inj registered]
        rfl
      · exact absurd registered (by simp)
  · refine iff_of_false ?_ ?_
    · rintro ⟨members, removed⟩
      rw [eq] at removed
      exact absurd removed (by simp)
    · rintro ⟨⟨other, last⟩, latest, same⟩
      have listed' := (registered_of_registrar? latest).1
      obtain rfl := owned.keysApart listed' listed same
      obtain rfl := registered_inj attained listed' listed
      refine lost last.entry ?_ ⟨rfl, rfl⟩
      rw [owned.standing latest, inOffice_of_service? serves, fresh, if_pos (by rfl)]

theorem isStale_letIn (waiting : Option DispatchId) (queue : QueueId) :
    (g.letIn waiting queue).journal.countP Event.isStale = g.journal.countP Event.isStale ∧
      overtaken (g.letIn waiting queue).journal = overtaken g.journal := by
  rcases letIn_cases g waiting queue with ⟨eq, -⟩ | ⟨caller, d, -, -, eq⟩
  · rw [eq]
    exact ⟨rfl, rfl⟩
  · rw [eq]
    exact ⟨rfl, rfl⟩

/-- Who found its node with another owner had been overtaken. -/
theorem isStale_of_attained (h : Attained s g) :
    g.journal.countP Event.isStale = (overtaken g.journal).length := by
  induction h with
  | refl => rfl
  | @tail g g' attained c ih =>
    cases c with
    | @closed id t service current here serving fresh report =>
      have kept := removed_iff_not_overtaken attained (service?_eq_some.2 ⟨t, here, serving⟩) fresh
      rw [← report] at kept
      rw [List.countP_cons, ih, overtaken, Event.isStale]
      cases current with
      | true => simp [kept.1 rfl]
      | false =>
        have lost : isOvertaken id g.journal = true := by
          simpa using fun opened => Bool.false_ne_true (kept.2 opened)
        simp [lost]
    | took here serving reaching popped encoded =>
      rw [(isStale_letIn _ _).1, (isStale_letIn _ _).2]
      exact ih
    | skipped here serving reaching popped unwritable =>
      show (Gateway.journal (letIn _ _ _)).countP Event.isStale =
        (overtaken (Gateway.journal (letIn _ _ _))).length
      rw [(isStale_letIn _ _).1, (isStale_letIn _ _).2]
      exact ih
    | _ => exact ih

end Stale

end Gateway

end Switchboard
