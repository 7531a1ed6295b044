import Switchboard.Proofs.Deadline
import Switchboard.Proofs.Meters

/-!
# Gauges that are set afterwards

Whoever registers or removes a node, opens a slot or gives one back has to read the number of nodes or
of open slots afterwards, and then to set the gauge. Others can come in between any two of these steps.
So a gauge shows the number that was published last (`Shown.values`), which is the one that its reporter
had read before (`Shown.published`), in an earlier state of the run (`exists_read_of_tallied`): it lags
behind (`Lags`). The number that was read last need not be the one that was published last. It is the
number of nodes as long as no session has still to read it (`Shown.nodes`).

A dispatch that waits for room or for its reply has set the gauge, and is not held up
(`isReporting_of_waiting`).
-/

set_option autoImplicit false

namespace Switchboard

/-- A number is read for a gauge, or a gauge is set. -/
def Event.isReading : Event → Bool
  | tallied _ _ | published _ _ => true
  | _ => false

/-- The dispatch waits for room in a queue, or for its reply. -/
def Progress.isWaiting : Progress → Bool
  | blocked _ _ | awaiting => true
  | placing _ | resolved _ | done _ | cancelled => false

namespace Gateway

/-- The number that was published last in a series. -/
def lastPublished (series : Series) : List Event → Nat
  | [] => 0
  | .published r number :: before =>
    if r.series = series then number else lastPublished series before
  | _ :: before => lastPublished series before

/-- The number that was read last for a series. -/
def lastTallied (series : Series) : List Event → Nat
  | [] => 0
  | .tallied r number :: before =>
    if r.series = series then number else lastTallied series before
  | _ :: before => lastTallied series before

/-- The number that a session or dispatch read last. -/
def readingOf? (r : Reporter) : List Event → Option Nat
  | [] => none
  | .tallied r' number :: before => if r' = r then some number else readingOf? r before
  | _ :: before => readingOf? r before

/-- No number is read and no gauge is set. Only `r` may have a gauge to set afterwards, and has if the
nodes are not the same. -/
structure Unread (r : Reporter) (g g' : Gateway) : Prop where
  news : ∃ news, g'.journal = news ++ g.journal ∧ ∀ event ∈ news, event.isReading = false
  others : ∀ {r'}, r' ≠ r → g'.reports.get? r' = g.reports.get? r'
  own : g'.reports.get? r = g.reports.get? r ∨ g'.reports.get? r = some none
  nodes : g'.registry.nodes = g.registry.nodes ∨
    r.series = .nodesRegistered ∧ g'.reports.get? r = some none

/-- What happens to the gauges and to those who have one to set. -/
inductive Gauges (g g' : Gateway) : Prop
  | unread (r : Reporter) (same : Unread r g g')
      (values : ∀ series : Series, series.party = .reporters →
        g'.metrics.value series = g.metrics.value series)
  | tallies {r : Reporter} (due : g.reports.get? r = some none)
      (after : g' = { g with reports := g.reports.insert r (some (g.reading r)) }.record
        (.tallied r (g.reading r)))
  | publishes {r : Reporter} {number : Nat} (due : g.reports.get? r = some (some number))
      (after : g' = ({ g with reports := g.reports.erase r }.gauge r.series number).record
        (.published r number))

/-- What the gauges show. -/
structure Shown (g : Gateway) : Prop where
  values : ∀ series : Series, series.party = .reporters →
    g.metrics.value series = lastPublished series g.journal
  /-- Who is to set a gauge to a number read it last. -/
  read : ∀ {r number}, g.reports.get? r = some (some number) →
    readingOf? r g.journal = some number
  /-- Nobody sets a gauge to anything but the number it read last. -/
  published : ∀ {r number before}, .published r number :: before <:+ g.journal →
    readingOf? r before = some number
  /-- The number that was read last is the number of nodes, unless somebody is about to read it. -/
  nodes : (∃ r : Reporter, r.series = .nodesRegistered ∧ g.reports.get? r = some none) ∨
    g.registry.nodeCount = lastTallied .nodesRegistered g.journal

/-- A gauge that is set afterwards: it lags behind the number that it is to show. -/
structure Lags (s : Settings) (g : Gateway) (series : Series) : Prop where
  /-- It shows the number that was published last. -/
  shown : g.metrics.value series = lastPublished series g.journal
  /-- Nobody publishes anything but the number it read last. -/
  published : ∀ {r number before}, .published r number :: before <:+ g.journal →
    readingOf? r before = some number
  /-- A number was right when it was read. -/
  read : ∀ {r number before}, .tallied r number :: before <:+ g.journal →
    ∃ earlier, Reachable s earlier ∧ Leads earlier g ∧ earlier.journal = before ∧
      earlier.reading r = number

/-! ## Where no number is read -/

section Unread

variable {g g' : Gateway} {r : Reporter}

theorem Unread.of_news (news : List Event) (journal : g'.journal = news ++ g.journal)
    (quiet : ∀ event ∈ news, event.isReading = false) (reports : g'.reports = g.reports)
    (nodes : g'.registry.nodes = g.registry.nodes) : Unread r g g' where
  news := ⟨news, journal, quiet⟩
  others _ := by rw [reports]
  own := Or.inl (by rw [reports])
  nodes := Or.inl nodes

theorem Unread.of_same (journal : g'.journal = g.journal) (reports : g'.reports = g.reports)
    (nodes : g'.registry.nodes = g.registry.nodes) : Unread r g g' :=
  .of_news [] journal (by simp) reports nodes

theorem Unread.of_event {event : Event} (journal : g'.journal = event :: g.journal)
    (quiet : event.isReading = false) (reports : g'.reports = g.reports)
    (nodes : g'.registry.nodes = g.registry.nodes) : Unread r g g' :=
  .of_news [event] journal (by simpa using quiet) reports nodes

/-- From then on `r` has a gauge to set. -/
theorem Unread.of_report (news : List Event) (journal : g'.journal = news ++ g.journal)
    (quiet : ∀ event ∈ news, event.isReading = false)
    (reports : g'.reports = g.reports.insert r none)
    (nodes : g'.registry.nodes = g.registry.nodes ∨ r.series = .nodesRegistered) :
    Unread r g g' where
  news := ⟨news, journal, quiet⟩
  others apart := by rw [reports, Assoc.get?_insert, if_neg (Ne.symm apart)]
  own := Or.inr (by rw [reports, Assoc.get?_insert, if_pos rfl])
  nodes := nodes.imp_right fun mine => ⟨mine, by rw [reports, Assoc.get?_insert, if_pos rfl]⟩

theorem Unread.trans {h : Gateway} (first : Unread r g h) (second : Unread r h g') :
    Unread r g g' where
  news := by
    obtain ⟨earlier, journal, quiet⟩ := first.news
    obtain ⟨later, journal', quiet'⟩ := second.news
    refine ⟨later ++ earlier, by rw [journal', journal, List.append_assoc], fun event mem => ?_⟩
    exact (List.mem_append.1 mem).elim (quiet' event) (quiet event)
  others apart := (second.others apart).trans (first.others apart)
  own := by
    rcases second.own with same | due
    · rw [same]
      exact first.own
    · exact Or.inr due
  nodes := by
    rcases second.nodes with same | due
    · rw [same]
      -- who was to set the gauge before still is
      refine first.nodes.imp_right fun ⟨mine, due⟩ => ⟨mine, ?_⟩
      exact second.own.elim (fun same => same.trans due) id
    · exact Or.inr due

/-- Who was to read a number still is. -/
theorem Unread.due (same : Unread r g g') {r' : Reporter} (due : g.reports.get? r' = some none) :
    g'.reports.get? r' = some none := by
  by_cases own : r' = r
  · subst own
    exact same.own.elim (fun kept => kept.trans due) id
  · rw [same.others own, due]

theorem unread_letIn (waiting : Option DispatchId) (queue : QueueId) :
    Unread r g (g.letIn waiting queue) := by
  rcases letIn_cases g waiting queue with ⟨eq, -⟩ | ⟨caller, d, -, -, eq⟩
  · rw [eq]
    exact .of_same rfl rfl rfl
  · rw [eq]
    exact .of_event rfl rfl rfl rfl

theorem unread_afterTaking (id : SessionId) (service : Service)
    (taken : Queue.Taken DispatchId) : Unread r g (g.afterTaking id service taken) := by
  have popped : Unread r g ({ g with
      registry := g.registry.setQueue service.queue taken.queue }.record
        (.taken id service.queue taken.frame)) := .of_event rfl rfl rfl rfl
  exact popped.trans (unread_letIn _ _)

theorem unread_close (id : SessionId) (service : Service) :
    Unread (.session id) g (g.close id service) := by
  rw [close]
  split
  · exact .of_same rfl rfl rfl
  · rcases deregister_shape (g := g) id service with
      ⟨current, metrics, -, -, eq⟩ | ⟨members, q, -, -, eq⟩ <;> rw [eq]
    · exact .of_report [.closed id current] rfl (by simp [Event.isReading]) rfl (Or.inr rfl)
    · exact .of_report [.queued service.queue .keepalive (.closing id), .closed id true] rfl
        (by simp [Event.isReading]) rfl (Or.inr rfl)

theorem unread_handle (id : SessionId) (t : Session) (service : Service) (e : Envelope) :
    Unread (.session id) g (g.handle id t service e) := by
  have heard : Unread (.session id) g (g.record (.received id e)) := .of_event rfl rfl rfl rfl
  refine heard.trans ?_
  rcases handle_cases g id t service e with
    ⟨-, eq⟩ | ⟨ticket, replies, -, -, eq⟩ | ⟨replies, -, -, eq⟩ | ⟨replies, -, -, eq⟩ <;> rw [eq]
  · exact (unread_close id service).trans (.of_same rfl rfl rfl)
  · exact .of_event rfl rfl rfl rfl
  · exact .of_same rfl rfl rfl
  · exact .of_same rfl rfl rfl

theorem unread_of_deed {id : SessionId} {m : Move} (deed : Deed g id m g') :
    Unread (.session id) g g' := by
  cases deed with
  | dismissed reason how here greeting => exact .of_event rfl rfl rfl rfl
  | enrolled e rest here greeting room =>
    exact .of_report [_] rfl (by simp [Event.isReading]) rfl (Or.inr rfl)
  | broke here greeting => exact .of_same rfl rfl rfl
  | finished reason how here serving =>
    exact (unread_close id _).trans (.of_event rfl rfl rfl rfl)
  | handled here serving read => exact unread_handle _ _ _ _
  | acquired here serving waiting free => exact .of_same rfl rfl rfl
  | retired here serving between notified => exact .of_same rfl rfl rfl
  | looked here serving idle current => exact .of_event rfl rfl rfl rfl
  | missed here serving reaching empty => exact .of_same rfl rfl rfl
  | took here serving reaching first encoded =>
    exact (unread_afterTaking _ _ _).trans (.of_same rfl rfl rfl)
  | skipped here serving reaching first unwritable =>
    exact (unread_afterTaking _ _ _).trans (.of_event rfl rfl rfl rfl)
  | wrote here serving writing whole pos room le => exact .of_event rfl rfl rfl rfl

theorem unread_resolve (id : DispatchId) (d : Dispatch) (result : DispatchResult) :
    Unread r g (g.resolve id d result) := by
  obtain ⟨queues, -, same⟩ := OnlyQueues.withdraw g id d
  refine .of_event (journal_resolve _ _ _) rfl rfl ?_
  show (g.withdraw id d).registry.nodes = _
  rw [same]

theorem unread_of_turn {id : DispatchId} {d : Dispatch} {m : Move} (turn : Turn g id d m g') :
    Unread (.dispatch id) g g' := by
  cases turn with
  | passed placing chosen shut => exact .of_same rfl rfl rfl
  | placed placing chosen live pushed => exact .of_event rfl rfl rfl rfl
  | joined placing chosen live full => exact .of_same rfl rfl rfl
  | movedOn blocked shut => exact .of_same rfl rfl rfl
  | concluded certain =>
    exact .of_report [.finished id _] rfl (by simp [Event.isReading]) rfl (Or.inl rfl)
  | _ => exact unread_resolve _ _ _

theorem unread_dispatch (group : String) (e : Envelope) (timeout : Nat) :
    Unread (.dispatch g.dispatches.length) g (g.dispatch group e timeout) := by
  have opens : ∀ replies, Unread (.dispatch g.dispatches.length) g
      (g.slotted (g.newDispatch group e timeout) replies) := fun replies =>
    .of_report [.opened g.dispatches.length g.ids.next.1] rfl (by simp [Event.isReading]) rfl
      (Or.inl rfl)
  have starts := starts_dispatch g group e timeout
  generalize g.dispatch group e timeout = g' at starts ⊢
  cases starts with
  | collides taken =>
    have drawn : Unread (.dispatch g.dispatches.length) g (g.drawn (g.newDispatch group e timeout)) :=
      .of_same rfl rfl rfl
    exact drawn.trans (unread_resolve _ _ _)
  | @fails claim replies cause opened => exact (opens replies).trans (unread_resolve _ _ _)
  | @places claim replies left opened => exact (opens replies).trans (.of_same rfl rfl rfl)

theorem gauges_of_occurs {a : Action} (occurs : Occurs g a g') : Gauges g g' := by
  cases occurs with
  | @deed _ id m _ how mem free deed =>
    exact .unread (.session id) (unread_of_deed deed)
      fun _ mine => value_of_deed deed (by simp [mine])
  | @turn id d m _ here free turn =>
    exact .unread (.dispatch id) (unread_of_turn turn)
      fun _ mine => value_of_turn turn (by simp [mine])
  | tallies due => exact .tallies due rfl
  | publishes due => exact .publishes due rfl
  | beats id =>
    obtain ⟨registry, metrics, news, shape, each⟩ := beatAll_shape (g := g) id
    have kept : ∀ series : Series, series.party = .reporters →
        (g.beatAll id).metrics.value series = g.metrics.value series ∧
          (g.beatAll id).registry.nodes = g.registry.nodes :=
      fun _ mine => value_beatAll (by simp [mine]) id
    refine .unread (.session 0) (.of_news news (by rw [shape]) (fun event mem => ?_) (by rw [shape])
      (kept .nodesRegistered rfl).2) fun series mine => (kept series mine).1
    obtain ⟨queue, rfl⟩ := each event mem
    rfl
  | starts group e timeout =>
    exact .unread _ (unread_dispatch group e timeout) fun _ _ => by rw [metrics_dispatch]
  | @forsakes id d here free waits =>
    obtain ⟨queues, -, same⟩ := OnlyQueues.withdraw g id d
    refine .unread (.dispatch id) (.of_event rfl rfl rfl ?_) fun _ _ => rfl
    show (g.withdraw id d).registry.nodes = _
    rw [same]
  | stops id => exact .unread (.session 0) (.of_event rfl rfl rfl rfl) fun _ _ => rfl
  | _ => exact .unread (.session 0) (.of_same rfl rfl rfl) fun _ _ => rfl

end Unread

/-! ## What a gauge shows -/

section Shown

variable {s : Settings} {g g' : Gateway}

/-- What is neither read nor published makes no difference. -/
theorem readings_of_news {news : List Event} (quiet : ∀ event ∈ news, event.isReading = false)
    (before : List Event) :
    (∀ series, lastPublished series (news ++ before) = lastPublished series before) ∧
      (∀ series, lastTallied series (news ++ before) = lastTallied series before) ∧
      ∀ r, readingOf? r (news ++ before) = readingOf? r before := by
  induction news with
  | nil => exact ⟨fun _ => rfl, fun _ => rfl, fun _ => rfl⟩
  | cons event rest ih =>
    have mine := quiet event List.mem_cons_self
    rw [List.cons_append]
    cases event with
    | tallied r number => exact absurd mine (by simp [Event.isReading])
    | published r number => exact absurd mine (by simp [Event.isReading])
    | _ => exact ih fun other mem => quiet other (List.mem_cons_of_mem _ mem)

/-- What tells of a reading was there before. -/
theorem suffix_of_quiet {news before earlier : List Event} {event : Event}
    (quiet : ∀ event ∈ news, event.isReading = false) (reading : event.isReading = true)
    (within : event :: earlier <:+ news ++ before) : event :: earlier <:+ before := by
  induction news with
  | nil => exact within
  | cons first rest ih =>
    rcases List.suffix_cons_iff.1 within with now | old
    · obtain ⟨rfl, -⟩ := List.cons.inj now
      exact absurd (reading.symm.trans (quiet event List.mem_cons_self)) (by simp)
    · exact ih (fun other mem => quiet other (List.mem_cons_of_mem _ mem)) old

/-- Who has still to read its number has to after another read a number of its own. -/
theorem due_of_tallied {r r' : Reporter} (due : g.reports.get? r' = some none) (other : r ≠ r')
    (number : Nat) : (g.reports.insert r (some number)).get? r' = some none := by
  rw [Assoc.get?_insert, if_neg other, due]

/-- Who has still to read its number has to after another published one. -/
theorem due_of_published {r r' : Reporter} {number : Nat}
    (read : g.reports.get? r = some (some number)) (due : g.reports.get? r' = some none) :
    (g.reports.erase r).get? r' = some none := by
  rw [Assoc.get?_erase, if_neg, due]
  rintro rfl
  exact absurd (read.symm.trans due) (by simp)

theorem Shown.unread (shown : Shown g) {r : Reporter} (same : Unread r g g')
    (values : ∀ series : Series, series.party = .reporters →
      g'.metrics.value series = g.metrics.value series) : Shown g' := by
  obtain ⟨news, journal, quiet⟩ := same.news
  obtain ⟨published, tallied, reading⟩ := readings_of_news quiet g.journal
  rw [← journal] at published tallied reading
  constructor
  case values =>
    intro series mine
    rw [values series mine, shown.values series mine, published]
  case read =>
    intro r' number due
    rw [reading]
    by_cases own : r' = r
    · subst own
      rcases same.own with kept | fresh
      · exact shown.read (kept.symm.trans due)
      · exact absurd (fresh.symm.trans due) (by simp)
    · exact shown.read ((same.others own).symm.trans due)
  case published =>
    intro r' number before within
    rw [journal] at within
    exact shown.published (suffix_of_quiet quiet rfl within)
  case nodes =>
    rcases same.nodes with kept | ⟨mine, due⟩
    · rw [Registry.nodeCount, kept, tallied]
      exact shown.nodes.imp_left fun ⟨r', mine, due⟩ => ⟨r', mine, same.due due⟩
    · exact Or.inl ⟨r, mine, due⟩

theorem Shown.tallies (shown : Shown g) (r : Reporter) :
    Shown ({ g with reports := g.reports.insert r (some (g.reading r)) }.record
      (.tallied r (g.reading r))) := by
  constructor
  case values => exact shown.values
  case read =>
    intro r' number due
    show (if r = r' then _ else _) = _
    have due : (g.reports.insert r (some (g.reading r))).get? r' = some (some number) := due
    rw [Assoc.get?_insert] at due
    split
    · rename_i own
      rw [if_pos own] at due
      exact Option.some.inj due
    · rename_i other
      rw [if_neg other] at due
      exact shown.read due
  case published =>
    intro r' number before within
    exact shown.published ((List.suffix_cons_iff.1 within).resolve_left (by simp))
  case nodes =>
    cases r with
    | session id => exact Or.inr (if_pos rfl).symm
    | dispatch id =>
      -- the other gauge is read for
      refine shown.nodes.imp_left fun ⟨r', mine, due⟩ => ⟨r', mine, due_of_tallied due ?_ _⟩
      rintro rfl
      exact absurd mine (by simp [Reporter.series])

theorem Shown.publishes (shown : Shown g) {r : Reporter} {number : Nat}
    (due : g.reports.get? r = some (some number)) :
    Shown (({ g with reports := g.reports.erase r }.gauge r.series number).record
      (.published r number)) := by
  constructor
  case values =>
    intro series mine
    show (g.metrics.set _ _).value series = ((if _ then _ else _ : Nat) : Int)
    rw [Metrics.value_set]
    split
    · rfl
    · exact shown.values series mine
  case read =>
    intro r' number' due'
    have due' : (g.reports.erase r).get? r' = some (some number') := due'
    rw [Assoc.get?_erase] at due'
    split at due'
    · exact absurd due' (by simp)
    · exact shown.read due'
  case published =>
    intro r' number' before within
    rcases List.suffix_cons_iff.1 within with now | earlier
    · obtain ⟨event, rfl⟩ := List.cons.inj now
      obtain ⟨rfl, rfl⟩ := Event.published.inj event
      exact shown.read due
    · exact shown.published earlier
  case nodes =>
    refine shown.nodes.imp_left ?_
    rintro ⟨r', mine, due'⟩
    exact ⟨r', mine, due_of_published due due'⟩

theorem Shown.step (shown : Shown g) (gauges : Gauges g g') : Shown g' := by
  cases gauges with
  | unread r same values => exact shown.unread same values
  | @tallies r due after => exact after ▸ shown.tallies r
  | publishes due after => exact after ▸ shown.publishes due

theorem shown_of_reachable (h : Reachable s g) : Shown g := by
  refine holds_of_reachable ?start (fun _ shown occurs => shown.step (gauges_of_occurs occurs)) h
  case start =>
    exact ⟨fun _ _ => rfl, fun due => absurd due (by simp [start]),
      fun within => absurd within (by simp [start]), Or.inr rfl⟩

/-- Where nothing goes on by itself, the number of nodes is the one that was read last. -/
theorem Quiescent.nodeCount_eq (quiet : Quiescent g) (h : Reachable s g) :
    g.registry.nodeCount = lastTallied .nodesRegistered g.journal := by
  refine (shown_of_reachable h).nodes.resolve_left ?_
  rintro ⟨r, -, due⟩
  have busy := quiet.isReporting r
  rw [Gateway.isReporting, due] at busy
  exact absurd busy (by simp)

/-- A number that was read was right at that moment of the run. -/
theorem exists_read_of_tallied (h : Reachable s g) {r : Reporter} {number : Nat}
    {before : List Event} (within : .tallied r number :: before <:+ g.journal) :
    ∃ earlier, Reachable s earlier ∧ Leads earlier g ∧ earlier.journal = before ∧
      earlier.reading r = number := by
  induction h using Reachable.act_induction with
  | start => exact absurd within (by simp [start])
  | @step g a g' reached after act ih =>
    have further : .tallied r number :: before <:+ g.journal → ∃ earlier, Reachable s earlier ∧
        Leads earlier g' ∧ earlier.journal = before ∧ earlier.reading r = number := by
      intro old
      obtain ⟨earlier, reached', run, rest⟩ := ih old
      exact ⟨earlier, reached', run.tail ⟨a, act⟩, rest⟩
    cases gauges_of_occurs (occurs_of_act act) with
    | unread r' same values =>
      obtain ⟨news, journal, quiet⟩ := same.news
      rw [journal] at within
      exact further (suffix_of_quiet quiet rfl within)
    | @tallies r' due after =>
      subst after
      rcases List.suffix_cons_iff.1 within with now | old
      · obtain ⟨event, rfl⟩ := List.cons.inj now
        obtain ⟨rfl, rfl⟩ := Event.tallied.inj event
        exact ⟨g, reached, .single ⟨a, act⟩, rfl, rfl⟩
      · exact further old
    | publishes due after =>
      subst after
      exact further ((List.suffix_cons_iff.1 within).resolve_left (by simp))

theorem lags_of_reachable (h : Reachable s g) {series : Series} (mine : series.party = .reporters) :
    Lags s g series where
  shown := (shown_of_reachable h).values series mine
  published := (shown_of_reachable h).published
  read := exists_read_of_tallied h

end Shown

/-! ## Dispatches that wait -/

section Waiting

variable {s : Settings} {g g' : Gateway}

theorem dispatches_close (id : SessionId) (service : Service) :
    (g.close id service).dispatches = g.dispatches := by
  rw [close]
  split
  · rfl
  · rcases deregister_shape (g := g) id service with
      ⟨current, metrics, -, -, eq⟩ | ⟨members, q, -, -, eq⟩ <;> rw [eq]

theorem dispatches_handle (id : SessionId) (t : Session) (service : Service) (e : Envelope) :
    (g.handle id t service e).dispatches = g.dispatches := by
  rcases handle_cases g id t service e with
    ⟨-, eq⟩ | ⟨ticket, replies, -, -, eq⟩ | ⟨replies, -, -, eq⟩ | ⟨replies, -, -, eq⟩ <;> rw [eq]
  · exact dispatches_close (g := g.record (.received id e)) id service
  all_goals rfl

/-- A session leaves the dispatches alone, but the one that it lets in where it takes an envelope. -/
theorem dispatches_of_deed (ledger : Ledger g) {id : SessionId} {m : Move} (deed : Deed g id m g') :
    g'.dispatches = g.dispatches ∨ ∃ caller d queue left, g.dispatches[caller]? = some d ∧
      d.progress = .blocked queue left ∧
      g'.dispatches = g.dispatches.set caller { d with progress := .awaiting } := by
  have takes : ∀ {service : Service} {taken : Queue.Taken DispatchId},
      (g.registry.queue service.queue).pop? = some taken →
      (g.afterTaking id service taken).dispatches = g.dispatches ∨
        ∃ caller d queue left, g.dispatches[caller]? = some d ∧ d.progress = .blocked queue left ∧
          (g.afterTaking id service taken).dispatches =
            g.dispatches.set caller { d with progress := .awaiting } := by
    intro service taken popped
    rw [afterTaking]
    rcases letIn_cases ({ g with
        registry := g.registry.setQueue service.queue taken.queue }.record
          (.taken id service.queue taken.frame)) taken.served service.queue with
      ⟨eq, -⟩ | ⟨caller, d, served, here, eq⟩ <;> rw [eq]
    · exact Or.inl rfl
    · obtain ⟨left, blocked⟩ := ledger.blocked_of_served popped served here
      exact Or.inr ⟨caller, d, service.queue, left, here, blocked, rfl⟩
  cases deed with
  | finished reason how here serving => exact Or.inl (dispatches_close id _)
  | handled here serving read => exact Or.inl (dispatches_handle id _ _ _)
  | took here serving reaching first encoded => exact takes first
  | skipped here serving reaching first unwritable => exact takes first
  | _ => exact Or.inl rfl

/-- What a dispatch does next: only where it returns does it have a gauge to set. -/
theorem Turn.dispatches {id : DispatchId} {d : Dispatch} {m : Move} (turn : Turn g id d m g') :
    ∃ progress, g'.dispatches = g.dispatches.set id { d with progress } ∧
      (progress.isWaiting = true → g'.reports = g.reports) := by
  cases turn with
  | concluded certain => exact ⟨_, rfl, fun waits => absurd waits (by simp [Progress.isWaiting])⟩
  | _ => exact ⟨_, rfl, fun _ => rfl⟩

/-- Every dispatch that waits has set its gauge. -/
def Punctual (g : Gateway) : Prop :=
  ∀ (id : DispatchId) (x : Dispatch), g.dispatches[id]? = some x → x.progress.isWaiting = true →
    g.reports.get? (.dispatch id) = none

theorem isReporting_eq_false {r : Reporter} :
    g.isReporting r = false ↔ g.reports.get? r = none := by
  rw [isReporting, Option.isSome_eq_false_iff, Option.isNone_iff_eq_none]

theorem Punctual.of_set (p : Punctual g) {id : DispatchId} {d : Dispatch}
    (dispatches : g'.dispatches = g.dispatches.set id d)
    (own : d.progress.isWaiting = true → g'.reports.get? (.dispatch id) = none)
    (others : ∀ other, other ≠ id →
      g'.reports.get? (.dispatch other) = g.reports.get? (.dispatch other)) : Punctual g' := by
  intro other x here waits
  rw [dispatches] at here
  rcases getElem?_set_cases here with ⟨rfl, rfl⟩ | ⟨apart, old⟩
  · exact own waits
  · exact (others other apart).trans (p other x old waits)

theorem Punctual.of_same (p : Punctual g) (dispatches : g'.dispatches = g.dispatches)
    (reports : ∀ id, g.reports.get? (.dispatch id) = none →
      g'.reports.get? (.dispatch id) = none) : Punctual g' :=
  fun id x here waits => reports id (p id x (dispatches ▸ here) waits)

theorem punctual_dispatch (p : Punctual g) (group : String) (e : Envelope) (timeout : Nat) :
    Punctual (g.dispatch group e timeout) := by
  obtain ⟨old, new, dispatches, tries⟩ : ∃ old new, (g.dispatch group e timeout).dispatches =
      (g.dispatches ++ [old]).set g.dispatches.length new ∧ new.progress.isWaiting = false := by
    have starts := starts_dispatch g group e timeout
    generalize g.dispatch group e timeout = g' at starts ⊢
    cases starts with
    | collides taken => exact ⟨g.newDispatch group e timeout, _, rfl, rfl⟩
    | fails cause opened => exact ⟨g.newDispatch group e timeout, _, rfl, rfl⟩
    | places opened => exact ⟨g.newDispatch group e timeout, _, rfl, rfl⟩
  intro id x here waits
  rw [dispatches] at here
  rcases getElem?_set_cases here with ⟨rfl, rfl⟩ | ⟨apart, there⟩
  · exact absurd (waits.symm.trans tries) (by simp)
  · have known := (getElem?_concat_cases there).resolve_right fun last => apart last.1
    exact ((unread_dispatch group e timeout).others (by simpa using apart)).trans (p id x known waits)

theorem punctual_of_occurs (ledger : Ledger g) (p : Punctual g) {a : Action}
    (occurs : Occurs g a g') : Punctual g' := by
  cases occurs with
  | deed how mem free deed =>
    have reports : ∀ id, g'.reports.get? (.dispatch id) = g.reports.get? (.dispatch id) :=
      fun id => (unread_of_deed deed).others (by simp)
    rcases dispatches_of_deed ledger deed with same | ⟨caller, d, queue, left, there, blocked, same⟩
    · exact p.of_same same fun id none => (reports id).trans none
    · refine p.of_set same (fun _ => ?_) fun other _ => reports other
      exact (reports caller).trans (p caller d there (by rw [blocked]; rfl))
  | turn here free turn =>
    obtain ⟨progress, same, reports⟩ := turn.dispatches
    refine p.of_set same (fun waits => ?_) fun other apart =>
      (unread_of_turn turn).others (by simpa using apart)
    rw [reports waits]
    exact isReporting_eq_false.1 free
  | @tallies r due =>
    refine p.of_same rfl fun id none => ?_
    show (Assoc.insert _ _ _).get? _ = _
    rw [Assoc.get?_insert, if_neg, none]
    rintro rfl
    exact absurd (due.symm.trans none) (by simp)
  | @publishes r number due =>
    refine p.of_same rfl fun id none => ?_
    show (Assoc.erase _ _).get? _ = _
    rw [Assoc.get?_erase, none, ite_self]
  | beats id =>
    obtain ⟨registry, metrics, news, shape, -⟩ := beatAll_shape (g := g) id
    exact p.of_same (by rw [shape]) fun id none => by rw [shape]; exact none
  | starts group e timeout => exact punctual_dispatch p group e timeout
  | forsakes here free waits =>
    exact p.of_set rfl (fun waits => absurd waits (by simp [Progress.isWaiting])) fun _ _ => rfl
  | _ => exact p.of_same rfl fun _ none => none

/-- A dispatch that waits for room or for its reply has no gauge to set. -/
theorem isReporting_of_waiting (h : Reachable s g) {id : DispatchId} {x : Dispatch}
    (here : g.dispatches[id]? = some x) (waits : x.progress.isWaiting = true) :
    g.isReporting (.dispatch id) = false := by
  have punctual : Punctual g := by
    refine holds_of_reachable (P := Punctual) (fun id x here => ?_) (fun reached p occurs => ?_) h
    · exact absurd here (by simp [start])
    · exact punctual_of_occurs (ledger_of_attained (attained_of_reachable reached)) p occurs
  exact isReporting_eq_false.2 (punctual id x here waits)

/-- Who has a gauge to set can set it at once, and nothing else happens. -/
theorem leads_reported {r : Reporter} (due : g.reports.get? r = some none) :
    ∃ metrics reports, reports.get? r = none ∧
      (∀ r', r' ≠ r → reports.get? r' = g.reports.get? r') ∧
      Leads g { g with
        metrics
        reports
        journal := .published r (g.reading r) :: .tallied r (g.reading r) :: g.journal } := by
  have read : (g.reports.insert r (some (g.reading r))).get? r = some (some (g.reading r)) := by
    rw [Assoc.get?_insert, if_pos rfl]
  refine ⟨g.metrics.set r.series (g.reading r), (g.reports.insert r (some (g.reading r))).erase r,
    ?_, fun r' apart => ?_, ?_⟩
  · rw [Assoc.get?_erase, if_pos rfl]
  · rw [Assoc.get?_erase, if_neg (Ne.symm apart), Assoc.get?_insert, if_neg (Ne.symm apart)]
  · have tallied : g.move? (.tally r) =
        some ({ g with reports := g.reports.insert r (some (g.reading r)) }.record
          (.tallied r (g.reading r))) :=
      move?_eq_some.2 ⟨rfl, by simp [Gateway.step?, tally, due]⟩
    refine .tail (.single ⟨.move (.tally r), tallied⟩)
      ⟨.move (.publish r), move?_eq_some.2 ⟨rfl, ?_⟩⟩
    simp [Gateway.step?, publish, record, read, gauge]

/-- Nothing is in the way of who has a gauge to set. -/
theorem exists_reported (g : Gateway) (r : Reporter) :
    ∃ g', Leads g g' ∧ g'.dispatches = g.dispatches ∧ g'.isReporting r = false := by
  match due : g.reports.get? r with
  | none => exact ⟨g, .refl, rfl, isReporting_eq_false.2 due⟩
  | some none =>
    obtain ⟨metrics, reports, free, -, run⟩ := leads_reported due
    exact ⟨_, run, rfl, isReporting_eq_false.2 free⟩
  | some (some number) =>
    have step : g.move? (.publish r) =
        some (({ g with reports := g.reports.erase r }.gauge r.series number).record
          (.published r number)) :=
      move?_eq_some.2 ⟨rfl, by simp [Gateway.step?, publish, due]⟩
    refine ⟨_, .single ⟨.move (.publish r), step⟩, rfl, isReporting_eq_false.2 ?_⟩
    show (g.reports.erase r).get? r = none
    rw [Assoc.get?_erase, if_pos rfl]

/-- Nothing is in the way of a dispatch whose result is certain: it can return. -/
theorem exists_returned {id : DispatchId} {x : Dispatch} {result : DispatchResult}
    (here : g.dispatches[id]? = some x) (certain : x.progress.result? = some result) :
    ∃ later, Leads g later ∧
      later.dispatches[id]? = some { x with progress := .done result } := by
  cases progress : x.progress with
  | resolved result' =>
    obtain rfl : result' = result := by simpa [progress, Progress.result?] using certain
    obtain ⟨g', run, same, free⟩ := exists_reported g (.dispatch id)
    rw [← same] at here
    obtain ⟨later, step, after⟩ : ∃ later, g'.conclude id = some later ∧
        later.dispatches[id]? = some { x with progress := .done result' } := by
      obtain ⟨lt, -⟩ := List.getElem?_eq_some_iff.1 here
      rw [conclude, here, Option.bind_eq_bind, Option.bind_some]
      simp only [progress, Option.some.injEq, exists_eq_left']
      exact List.getElem?_set_self lt
    exact ⟨later, run.tail ⟨.move (.conclude id), move?_eq_some.2 ⟨free, step⟩⟩, after⟩
  | done result' =>
    obtain rfl : result' = result := by simpa [progress, Progress.result?] using certain
    exact ⟨g, .refl, by rw [here, ← progress]⟩
  | _ => exact absurd certain (by simp [progress, Progress.result?])

end Waiting

end Gateway

end Switchboard
