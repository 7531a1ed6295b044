import Mathlib.Data.List.Perm.Basic
import Switchboard.Proofs.Deadline
import Switchboard.Proofs.Occurrence

/-!
# The course of a dispatch through its candidates

An action turns a dispatch, lets it in from the queue it waits in, cancels it, or has nothing to do
with it (`Bearing`, `bearing_of_act`). Along a run the candidates that a dispatch turned to are noted
(`tried`), and the queues that it found closed, when it turned to them or while it waited in them
(`refusals`). Whatever the order, those tried and those left are the candidates that it saw at its
start, and all those tried before the last one refused it (`Course`, `course_of_run`).
-/

set_option autoImplicit false

namespace Switchboard.Gateway

/-- The queue that took the envelope of a dispatch, and the envelope, if the event tells of it. -/
def acceptance? (id : DispatchId) : Event → Option (QueueId × Envelope)
  | .queued queue e (.dispatch other) => if other = id then some (queue, e) else none
  | _ => none

/-- How often the envelope of a dispatch was taken, and by which queues, latest first. -/
def acceptances (id : DispatchId) (journal : List Event) : List (QueueId × Envelope) :=
  journal.filterMap (acceptance? id)

theorem acceptances_queued (id : DispatchId) (queue : QueueId) (e : Envelope)
    (journal : List Event) :
    acceptances id (.queued queue e (.dispatch id) :: journal) =
      (queue, e) :: acceptances id journal :=
  List.filterMap_cons_some (if_pos rfl)

/-- The dispatch that takes an action. -/
def Action.dispatch? : Action → Option DispatchId
  | .move m => m.dispatch?
  | .input (.cancel id) => some id
  | .input _ => none

/-! ## What has nothing to do with a dispatch -/

/-- A dispatch stays as it is, and no queue takes its envelope. -/
structure Apart (id : DispatchId) (g g' : Gateway) : Prop where
  dispatch : g'.dispatches[id]? = g.dispatches[id]?
  acceptances : acceptances id g'.journal = acceptances id g.journal

section Apart

variable {id : DispatchId} {g g' g'' : Gateway} {x : Dispatch}

theorem Apart.refl (g : Gateway) : Apart id g g := ⟨rfl, rfl⟩

theorem Apart.trans (first : Apart id g g') (second : Apart id g' g'') : Apart id g g'' :=
  ⟨second.dispatch.trans first.dispatch, second.acceptances.trans first.acceptances⟩

/-- News of something else has nothing to do with a dispatch. -/
theorem Apart.of_news (news : List Event) (dispatch : g'.dispatches[id]? = g.dispatches[id]?)
    (journal : g'.journal = news ++ g.journal)
    (others : ∀ event ∈ news, acceptance? id event = none) : Apart id g g' := by
  refine ⟨dispatch, ?_⟩
  rw [Gateway.acceptances, journal, List.filterMap_append, List.filterMap_eq_nil_iff.2 others,
    List.nil_append]
  rfl

theorem Apart.of_event {event : Event} (dispatch : g'.dispatches[id]? = g.dispatches[id]?)
    (journal : g'.journal = event :: g.journal) (other : acceptance? id event = none) :
    Apart id g g' :=
  .of_news [event] dispatch journal fun _ mem => List.mem_singleton.1 mem ▸ other

theorem Apart.of_same (dispatches : g'.dispatches = g.dispatches) (journal : g'.journal = g.journal) :
    Apart id g g' :=
  .of_news [] (by rw [dispatches]) journal (by simp)

/-- What another dispatch does with itself has nothing to do with this one. -/
theorem Apart.of_set {other : DispatchId} {d : Dispatch} {event : Event} (ne : other ≠ id)
    (dispatches : g'.dispatches = g.dispatches.set other d) (journal : g'.journal = event :: g.journal)
    (elsewhere : acceptance? id event = none) : Apart id g g' :=
  .of_event (by rw [dispatches, List.getElem?_set_ne ne]) journal elsewhere

theorem acceptance?_of_ne {other : DispatchId} (ne : other ≠ id) (queue : QueueId) (e : Envelope) :
    acceptance? id (.queued queue e (.dispatch other)) = none :=
  if_neg ne

/-- A move of another dispatch has nothing to do with this one. -/
theorem apart_of_turn {other : DispatchId} {d : Dispatch} {m : Move} (ne : other ≠ id)
    (turn : Turn g other d m g') : Apart id g g' := by
  cases turn with
  | passed placing chosen shut =>
    exact .of_news [] (List.getElem?_set_ne ne) rfl (by simp)
  | placed placing chosen live pushed => exact .of_set ne rfl rfl (acceptance?_of_ne ne _ _)
  | joined placing chosen live full =>
    exact .of_news [] (List.getElem?_set_ne ne) rfl (by simp)
  | movedOn blocked shut => exact .of_news [] (List.getElem?_set_ne ne) rfl (by simp)
  | exhausted placing => exact .of_set ne rfl rfl rfl
  | replied awaiting seen => exact .of_set ne rfl rfl rfl
  | abandoned awaiting seen => exact .of_set ne rfl rfl rfl
  | lapsed waits due => exact .of_set ne rfl rfl rfl
  | concluded certain => exact .of_set ne rfl rfl rfl

theorem apart_close (session : SessionId) (service : Service) :
    Apart id g (g.close session service) := by
  rw [close]
  split
  · exact .refl g
  · rcases deregister_shape (g := g) session service with
      ⟨current, metrics, -, -, eq⟩ | ⟨members, q, -, -, eq⟩
    · rw [eq]
      exact .of_event rfl rfl rfl
    · rw [eq]
      exact .of_news [.queued service.queue .keepalive (.closing session),
        .closed session true] rfl rfl (by simp [acceptance?])

theorem apart_finish (session : SessionId) (s : Session) (service : Service) (reason : SessionError) :
    Apart id g (g.finish session s service reason) := by
  obtain ⟨-, -, dispatches, journal⟩ := finish_rest g session s service reason
  exact (apart_close session service).trans (.of_event (by rw [dispatches]) journal rfl)

theorem apart_handle (session : SessionId) (s : Session) (service : Service) (e : Envelope) :
    Apart id g (g.handle session s service e) := by
  have read : Apart id g (g.record (.received session e)) := .of_event rfl rfl rfl
  refine read.trans ?_
  rcases handle_cases g session s service e with
    ⟨-, eq⟩ | ⟨ticket, replies, -, -, eq⟩ | ⟨replies, -, -, eq⟩ | ⟨replies, -, -, eq⟩ <;> rw [eq]
  · exact (apart_close session service).trans (.of_same rfl rfl)
  · exact .of_event rfl rfl rfl
  · exact .of_same rfl rfl
  · exact .of_same rfl rfl

/-- A dispatch that starts tells that it has its id, that its result is certain, or both. -/
theorem journal_dispatch (g : Gateway) (group : String) (e : Envelope) (timeout : Nat) :
    ∃ news, (g.dispatch group e timeout).journal = news ++ g.journal ∧
      ∀ event ∈ news, (∃ id c, event = .opened id c) ∨ ∃ id result, event = .resolved id result := by
  have starts := starts_dispatch g group e timeout
  generalize g.dispatch group e timeout = g' at starts ⊢
  cases starts with
  | collides taken =>
    exact ⟨[.resolved g.dispatches.length (.error (.collision g.ids.next.1))], rfl, by simp⟩
  | fails cause opened =>
    exact ⟨[.resolved g.dispatches.length (.error cause), .opened g.dispatches.length g.ids.next.1],
      rfl, by simp⟩
  | places opened => exact ⟨[.opened g.dispatches.length g.ids.next.1], rfl, by simp⟩

theorem acceptances_dispatch (g : Gateway) (group : String) (e : Envelope) (timeout : Nat) :
    acceptances id (g.dispatch group e timeout).journal = acceptances id g.journal := by
  obtain ⟨news, journal, told⟩ := journal_dispatch g group e timeout
  have others : ∀ event ∈ news, acceptance? id event = none := by
    intro event mem
    rcases told event mem with ⟨other, c, rfl⟩ | ⟨other, result, rfl⟩
    · rfl
    · rfl
  rw [acceptances, journal, List.filterMap_append, List.filterMap_eq_nil_iff.2 others,
    List.nil_append]
  rfl

theorem apart_dispatch (here : g.dispatches[id]? = some x) (group : String) (e : Envelope)
    (timeout : Nat) : Apart id g (g.dispatch group e timeout) := by
  obtain ⟨claim, attempts, progress, dispatches, -⟩ := dispatch_opening g group e timeout
  refine ⟨?_, acceptances_dispatch g group e timeout⟩
  rw [dispatches, List.getElem?_append_left (List.getElem?_eq_some_iff.1 here).1]

end Apart

/-! ## What an action has to do with a dispatch -/

/-- What an action has to do with a dispatch. -/
inductive Bearing (g : Gateway) (id : DispatchId) (x : Dispatch) : Action → Gateway → Prop
  /-- The dispatch takes a move. -/
  | turned {m : Move} {g' : Gateway} (turn : Turn g id x m g') : Bearing g id x (.move m) g'
  /-- Its caller goes away. -/
  | forsaken (undecided : x.progress.isSettled = false) :
      Bearing g id x (.input (.cancel id))
        ((((g.withdraw id x).release x).setDispatch id { x with progress := .cancelled }).record
          (.cancelled id))
  /-- Room comes free in the queue in which it waits, which takes its envelope. -/
  | served {a : Action} {g' : Gateway} {queue : QueueId} {left : List Candidate}
      (foreign : ∀ m, a = .move m → m.dispatch? ≠ some id)
      (blocked : x.progress = .blocked queue left)
      (after : g'.dispatches[id]? = some { x with progress := .awaiting })
      (accepted : acceptances id g'.journal = (queue, x.request) :: acceptances id g.journal) :
      Bearing g id x a g'
  | apart {a : Action} {g' : Gateway} (foreign : ∀ m, a = .move m → m.dispatch? ≠ some id)
      (apart : Apart id g g') : Bearing g id x a g'

section Bearing

variable {id : DispatchId} {g g' : Gateway} {x : Dispatch} {a : Action}

/-- A move that no dispatch takes and that leaves a dispatch alone. -/
theorem Bearing.of_foreign {m : Move} (foreign : m.dispatch? = none) (apart : Apart id g g') :
    Bearing g id x (.move m) g' := by
  refine .apart (fun m' same => ?_) apart
  obtain rfl := Action.move.inj same
  simp [foreign]

/-- An input that leaves a dispatch alone. -/
theorem Bearing.of_input {i : Input} (apart : Apart id g g') : Bearing g id x (.input i) g' :=
  .apart (fun _ same => absurd same (by simp)) apart

theorem dispatch?_of_turn {d : Dispatch} {m : Move} (turn : Turn g id d m g') :
    m.dispatch? = some id := by
  cases turn <;> rfl

/-- A session is no dispatch. -/
theorem dispatch?_of_session {session : SessionId} {m : Move} (mem : m ∈ sessionMoves session) :
    m.dispatch? = none := by
  simp only [sessionMoves, List.mem_cons, List.not_mem_nil, or_false] at mem
  rcases mem with rfl | rfl | rfl | rfl | rfl | rfl | rfl | rfl | rfl <;> rfl

/-- Letting somebody in lets in this dispatch or leaves it alone. -/
theorem apart_or_served (g : Gateway) (waiting : Option DispatchId) (queue : QueueId) :
    Apart id g (g.letIn waiting queue) ∨
      ∃ x, waiting = some id ∧ g.dispatches[id]? = some x ∧
        (g.letIn waiting queue).dispatches[id]? = some { x with progress := .awaiting } ∧
        acceptances id (g.letIn waiting queue).journal =
          (queue, x.request) :: acceptances id g.journal := by
  rcases letIn_cases g waiting queue with ⟨eq, -⟩ | ⟨caller, d, waits, there, eq⟩
  · rw [eq]
    exact Or.inl (.refl g)
  · rw [eq]
    by_cases mine : caller = id
    · subst mine
      obtain ⟨lt, -⟩ := List.getElem?_eq_some_iff.1 there
      refine Or.inr ⟨d, waits, there, List.getElem?_set_self lt, ?_⟩
      exact List.filterMap_cons_some (if_pos rfl)
    · exact Or.inl (.of_set mine rfl rfl (acceptance?_of_ne mine _ _))

/-- Taking an envelope off a queue lets in at most the dispatch that waited there first. -/
theorem bearing_afterTaking (l : Ledger g) (here : g.dispatches[id]? = some x)
    (foreign : ∀ m, a = .move m → m.dispatch? ≠ some id) {session : SessionId} {service : Service}
    {taken : Queue.Taken DispatchId}
    (first : (g.registry.queue service.queue).pop? = some taken)
    (after : Apart id (g.afterTaking session service taken) g') : Bearing g id x a g' := by
  have told : Apart id g ({ g with
      registry := g.registry.setQueue service.queue taken.queue }.record
        (.taken session service.queue taken.frame)) := .of_event rfl rfl rfl
  rw [afterTaking] at after
  generalize ({ g with
      registry := g.registry.setQueue service.queue taken.queue }.record
        (.taken session service.queue taken.frame)) = popped at told after
  rcases apart_or_served popped taken.served service.queue with
    apart | ⟨y, served, there, awaiting, accepted⟩
  · exact .apart foreign ((told.trans apart).trans after)
  · obtain rfl := Option.some.inj (there.symm.trans (told.dispatch.trans here))
    obtain ⟨left, blocked⟩ := l.blocked_of_served first served here
    refine .served foreign blocked (after.dispatch.trans awaiting) ?_
    rw [after.acceptances, accepted, told.acceptances]

/-- A move of a session lets in at most the dispatch that waited first in the queue of the session. -/
theorem bearing_of_deed (l : Ledger g) (here : g.dispatches[id]? = some x)
    (foreign : ∀ m, a = .move m → m.dispatch? ≠ some id) {session : SessionId} {m : Move}
    (deed : Deed g session m g') : Bearing g id x a g' := by
  have apart : Apart id g g' → Bearing g id x a g' := .apart foreign
  cases deed with
  | dismissed reason how there greeting => exact apart (.of_event rfl rfl rfl)
  | enrolled e rest there greeting room => exact apart (.of_event rfl rfl rfl)
  | broke there greeting => exact apart (.of_same rfl rfl)
  | finished reason how there serving => exact apart (apart_finish _ _ _ _)
  | handled there serving read => exact apart (apart_handle _ _ _ _)
  | acquired there serving waiting free => exact apart (.of_same rfl rfl)
  | retired there serving between notified => exact apart (.of_same rfl rfl)
  | looked there serving idle current => exact apart (.of_event rfl rfl rfl)
  | missed there serving reaching empty => exact apart (.of_same rfl rfl)
  | took there serving reaching first encoded =>
    exact bearing_afterTaking l here foreign first (.of_same rfl rfl)
  | skipped there serving reaching first unwritable =>
    exact bearing_afterTaking l here foreign first (.of_event rfl rfl rfl)
  | wrote there serving writing whole pos room le => exact apart (.of_event rfl rfl rfl)

/-- What an action has to do with a dispatch is one of these things. -/
theorem bearing_of_act (l : Ledger g) (here : g.dispatches[id]? = some x) (h : g.act? a = some g') :
    Bearing g id x a g' := by
  cases occurs_of_act h with
  | deed how mem free deed =>
    refine bearing_of_deed l here (fun m same => ?_) deed
    rcases how with rfl | ⟨rfl, -⟩
    · obtain rfl := Action.move.inj same
      simp [dispatch?_of_session mem]
    · exact absurd same (by simp)
  | @turn other d m _ there free turn =>
    by_cases mine : other = id
    · subst mine
      obtain rfl := Option.some.inj (there.symm.trans here)
      exact .turned turn
    · refine .apart (fun m' same => ?_) (apart_of_turn mine turn)
      obtain rfl := Action.move.inj same
      rw [dispatch?_of_turn turn]
      exact fun same => mine (Option.some.inj same)
  | tallies due => exact .of_foreign rfl (.of_event rfl rfl rfl)
  | publishes due => exact .of_foreign rfl (.of_event rfl rfl rfl)
  | beats beat =>
    obtain ⟨registry, metrics, news, shape, each⟩ := beatAll_shape (g := g) beat
    refine .of_foreign rfl (.of_news news ?_ ?_ fun event mem => ?_)
    · rw [shape]
    · rw [shape]
    · obtain ⟨queue, rfl⟩ := each event mem
      rfl
  | stops beat => exact .of_foreign rfl (.of_event rfl rfl rfl)
  | starts group e timeout => exact .of_input (apart_dispatch here group e timeout)
  | @forsakes other d there free waits =>
    by_cases mine : other = id
    · subst mine
      obtain rfl := Option.some.inj (there.symm.trans here)
      exact .forsaken waits
    · exact .of_input (.of_set mine rfl rfl rfl)
  | connects greeting => exact .of_input (.of_same rfl rfl)
  | streams own there phase => exact .of_input (.of_same rfl rfl)
  | around => exact .of_input (.of_same rfl rfl)

end Bearing

/-! ## Candidates that are tried, and queues that refuse -/

/-- The candidate that a dispatch turns to. -/
def tries? (g : Gateway) (id : DispatchId) : Action → Option Candidate
  | .move (.place other choice) =>
    if other = id then
      (g.dispatches[id]?).bind fun x =>
        match x.progress with
        | .placing left => left[choice]?
        | _ => none
    else none
  | _ => none

/-- The queue that a dispatch finds closed, when it turns to it or while it waits in it. -/
def refusal? (g : Gateway) (id : DispatchId) : Action → Option QueueId
  | .move (.place other choice) =>
    (g.tries? id (.move (.place other choice))).bind fun c =>
      if g.isOpen c.queue then none else some c.queue
  | .move (.moveOn other) =>
    if other = id then
      (g.dispatches[id]?).bind fun x =>
        match x.progress with
        | .blocked queue _ => if g.isOpen queue then none else some queue
        | _ => none
    else none
  | _ => none

/-- The candidates that a dispatch turns to while these actions happen, in order. -/
def tried (id : DispatchId) : Gateway → List Action → List Candidate
  | _, [] => []
  | g, a :: rest =>
    match g.act? a with
    | some g' => (g.tries? id a).toList ++ tried id g' rest
    | none => tried id g rest

/-- The queues that a dispatch finds closed while these actions happen, in order. -/
def refusals (id : DispatchId) : Gateway → List Action → List QueueId
  | _, [] => []
  | g, a :: rest =>
    match g.act? a with
    | some g' => (g.refusal? id a).toList ++ refusals id g' rest
    | none => refusals id g rest

/-- How far a dispatch has come that saw the candidates `cs` and counted `n`: which of them it tried,
which queues refused it, and which queues took its envelope. -/
inductive Course (cs : List Candidate) (group : String) (n : Nat) (request : Envelope) :
    Progress → List Candidate → List QueueId → List (QueueId × Envelope) → Prop
  /-- It failed when it started. -/
  | prompt {p : Progress} {cause : DispatchError} (result : p.result? = some (.error cause))
      (shows : cause.isPrompt = true) : Course cs group n request p [] [] []
  /-- All those it tried refused it. -/
  | searching {tried left : List Candidate} (all : (tried ++ left).Perm cs) :
      Course cs group n request (.placing left) tried (tried.map (·.queue)) []
  /-- It waits in the queue of the last one. -/
  | waiting {before left : List Candidate} {c : Candidate} (all : (before ++ c :: left).Perm cs) :
      Course cs group n request (.blocked c.queue left) (before ++ [c]) (before.map (·.queue)) []
  /-- The queue of the last one took its envelope. -/
  | accepted {p : Progress} {before left : List Candidate} {c : Candidate}
      (all : (before ++ c :: left).Perm cs) (placed : p.isPlacing = false)
      (fate : ∀ cause, p.result? = some (.error cause) → ∃ d, cause = .timeout d) :
      Course cs group n request p (before ++ [c]) (before.map (·.queue)) [(c.queue, request)]
  /-- All of them refused it. -/
  | failed {p : Progress} {tried : List Candidate} (all : tried.Perm cs)
      (result : p.result? = some (.error (.dispatchFailed group n))) :
      Course cs group n request p tried (tried.map (·.queue)) []
  /-- Its time ran out while it waited. -/
  | lapsed {p : Progress} {before left : List Candidate} {c : Candidate} {d : Duration}
      (all : (before ++ c :: left).Perm cs) (result : p.result? = some (.error (.timeout d))) :
      Course cs group n request p (before ++ [c]) (before.map (·.queue)) []
  /-- Its caller went away before any queue took its envelope. -/
  | forsaken {tried left : List Candidate} {refused : List QueueId} (all : (tried ++ left).Perm cs) :
      Course cs group n request .cancelled tried refused []

section Course

variable {cs tried left : List Candidate} {group : String} {n : Nat} {request : Envelope} {p : Progress}
  {queue : QueueId} {refused : List QueueId} {taken : List (QueueId × Envelope)}

theorem Course.of_placing (course : Course cs group n request p tried refused taken)
    (placing : p = .placing left) :
    (tried ++ left).Perm cs ∧ refused = tried.map (·.queue) ∧ taken = [] := by
  subst placing
  cases course with
  | searching all => exact ⟨all, rfl, rfl⟩
  | accepted all placed fate => exact absurd placed (by simp [Progress.isPlacing])
  | prompt same shows => exact absurd same (by simp [Progress.result?])
  | failed all same => exact absurd same (by simp [Progress.result?])
  | lapsed all same => exact absurd same (by simp [Progress.result?])

theorem Course.of_blocked (course : Course cs group n request p tried refused taken)
    (blocked : p = .blocked queue left) :
    ∃ before c, queue = c.queue ∧ tried = before ++ [c] ∧ (before ++ c :: left).Perm cs ∧
      refused = before.map (·.queue) ∧ taken = [] := by
  subst blocked
  cases course with
  | waiting all => exact ⟨_, _, rfl, rfl, all, rfl, rfl⟩
  | accepted all placed fate => exact absurd placed (by simp [Progress.isPlacing])
  | prompt same shows => exact absurd same (by simp [Progress.result?])
  | failed all same => exact absurd same (by simp [Progress.result?])
  | lapsed all same => exact absurd same (by simp [Progress.result?])

theorem Course.of_awaiting (course : Course cs group n request p tried refused taken)
    (awaiting : p = .awaiting) :
    ∃ before c left, tried = before ++ [c] ∧ (before ++ c :: left).Perm cs ∧
      refused = before.map (·.queue) ∧ taken = [(c.queue, request)] := by
  subst awaiting
  cases course with
  | accepted all placed fate => exact ⟨_, _, _, rfl, all, rfl, rfl⟩
  | prompt same shows => exact absurd same (by simp [Progress.result?])
  | failed all same => exact absurd same (by simp [Progress.result?])
  | lapsed all same => exact absurd same (by simp [Progress.result?])

/-- A candidate that is tried is one of those left. -/
theorem perm_of_chosen {choice : Nat} {c : Candidate} (all : (tried ++ left).Perm cs)
    (chosen : left[choice]? = some c) : (tried ++ c :: left.eraseIdx choice).Perm cs := by
  obtain ⟨lt, rfl⟩ := List.getElem?_eq_some_iff.1 chosen
  exact ((List.getElem_cons_eraseIdx_perm lt).append_left tried).trans all

theorem Course.passes (course : Course cs group n request p tried refused taken)
    (placing : p = .placing left) {choice : Nat} {c : Candidate} (chosen : left[choice]? = some c) :
    Course cs group n request (.placing (left.eraseIdx choice)) (tried ++ [c])
      (refused ++ [c.queue]) taken := by
  obtain ⟨all, rfl, rfl⟩ := course.of_placing placing
  have next : Course cs group n request (.placing (left.eraseIdx choice)) (tried ++ [c])
      ((tried ++ [c]).map (·.queue)) [] :=
    .searching (by simpa using perm_of_chosen all chosen)
  simpa using next

theorem Course.places (course : Course cs group n request p tried refused taken)
    (placing : p = .placing left) {choice : Nat} {c : Candidate} (chosen : left[choice]? = some c) :
    Course cs group n request .awaiting (tried ++ [c]) refused ((c.queue, request) :: taken) := by
  obtain ⟨all, rfl, rfl⟩ := course.of_placing placing
  exact .accepted (perm_of_chosen all chosen) rfl (by simp [Progress.result?])

theorem Course.joins (course : Course cs group n request p tried refused taken)
    (placing : p = .placing left) {choice : Nat} {c : Candidate} (chosen : left[choice]? = some c) :
    Course cs group n request (.blocked c.queue (left.eraseIdx choice)) (tried ++ [c]) refused
      taken := by
  obtain ⟨all, rfl, rfl⟩ := course.of_placing placing
  exact .waiting (perm_of_chosen all chosen)

theorem Course.movesOn (course : Course cs group n request p tried refused taken)
    (blocked : p = .blocked queue left) :
    Course cs group n request (.placing left) tried (refused ++ [queue]) taken := by
  obtain ⟨before, c, rfl, rfl, all, rfl, rfl⟩ := course.of_blocked blocked
  have next : Course cs group n request (.placing left) (before ++ [c])
      ((before ++ [c]).map (·.queue)) [] :=
    .searching (by simpa using all)
  simpa using next

theorem Course.fails (course : Course cs group n request p tried refused taken)
    (placing : p = .placing []) :
    Course cs group n request (.resolved (.error (.dispatchFailed group n))) tried refused taken := by
  obtain ⟨all, rfl, rfl⟩ := course.of_placing placing
  exact .failed (by simpa using all) rfl

theorem Course.gets (course : Course cs group n request p tried refused taken)
    (blocked : p = .blocked queue left) :
    Course cs group n request .awaiting tried refused ((queue, request) :: taken) := by
  obtain ⟨before, c, rfl, rfl, all, rfl, rfl⟩ := course.of_blocked blocked
  exact .accepted all rfl (by simp [Progress.result?])

theorem Course.lapses (course : Course cs group n request p tried refused taken)
    (blocked : p = .blocked queue left) (d : Duration) :
    Course cs group n request (.resolved (.error (.timeout d))) tried refused taken := by
  obtain ⟨before, c, rfl, rfl, all, rfl, rfl⟩ := course.of_blocked blocked
  exact .lapsed all rfl

/-- A dispatch that waits for its reply goes on without trying anybody. -/
theorem Course.settles (course : Course cs group n request p tried refused taken)
    (awaiting : p = .awaiting) {result : DispatchResult}
    (fate : ∀ cause, result = .error cause → ∃ d, cause = .timeout d) :
    Course cs group n request (.resolved result) tried refused taken := by
  obtain ⟨before, c, left, rfl, all, rfl, rfl⟩ := course.of_awaiting awaiting
  exact .accepted all rfl fun cause same => fate cause (Option.some.inj same)

/-- A dispatch that returns its result has tried nobody since that was certain. -/
theorem Course.returns (course : Course cs group n request p tried refused taken)
    {result : DispatchResult} (certain : p = .resolved result) :
    Course cs group n request (.done result) tried refused taken := by
  subst certain
  cases course with
  | prompt same shows => exact .prompt same shows
  | accepted all placed fate => exact .accepted all rfl fate
  | failed all same => exact .failed all same
  | lapsed all same => exact .lapsed all same

/-- A dispatch whose caller goes away tries nobody any more. -/
theorem Course.forsakes (course : Course cs group n request p tried refused taken)
    (undecided : p.isSettled = false) :
    Course cs group n request .cancelled tried refused taken := by
  have waits := (Progress.isSettled_eq_false.1 undecided).2
  cases course with
  | prompt same shows => exact absurd (waits.symm.trans same) (by simp)
  | searching all => exact .forsaken all
  | waiting all => exact .forsaken (by simpa using all)
  | accepted all placed fate => exact .accepted all rfl (by simp [Progress.result?])
  | failed all same => exact absurd (waits.symm.trans same) (by simp)
  | lapsed all same => exact absurd (waits.symm.trans same) (by simp)
  | forsaken all => exact .forsaken all

/-- Those that were tried are among the candidates, each as often as it was tried. -/
theorem Course.exists_left (course : Course cs group n request p tried refused taken) :
    ∃ left, (tried ++ left).Perm cs := by
  cases course with
  | prompt same shows => exact ⟨cs, .refl _⟩
  | searching all => exact ⟨_, all⟩
  | waiting all => exact ⟨_, by simpa using all⟩
  | accepted all placed fate => exact ⟨_, by simpa using all⟩
  | failed all same => exact ⟨[], by simpa using all⟩
  | lapsed all same => exact ⟨_, by simpa using all⟩
  | forsaken all => exact ⟨_, all⟩

/-- At most one queue takes the envelope: that of the candidate tried last, and all those tried
before it refused. -/
theorem Course.taken_cases (course : Course cs group n request p tried refused taken) :
    taken = [] ∨ ∃ before c, tried = before ++ [c] ∧ refused = before.map (·.queue) ∧
      taken = [(c.queue, request)] := by
  cases course with
  | accepted all placed fate => exact Or.inr ⟨_, _, rfl, rfl, rfl⟩
  | _ => exact Or.inl rfl

/-- A dispatch that failed, but not for want of time, or that has its envelope on no queue yet, never
had it on one. -/
theorem Course.taken_eq_nil (course : Course cs group n request p tried refused taken)
    (early : p.isPlacing = true ∨
      ∃ cause, p.result? = some (.error cause) ∧ ∀ d, cause ≠ .timeout d) :
    taken = [] := by
  cases course with
  | accepted all placed fate =>
    rcases early with placing | ⟨cause, failed, timely⟩
    · exact absurd (placed.symm.trans placing) (by simp)
    · obtain ⟨d, same⟩ := fate cause failed
      exact absurd same (timely d)
  | _ => rfl

/-- A dispatch that has a result failed for want of a queue exactly if it saw somebody and all those
it saw refused it. -/
theorem Course.failed_iff (course : Course cs group n request p tried refused taken)
    (empty : cs = [] → ∃ cause, p.result? = some (.error cause) ∧ cause.isPrompt = true) :
    (∃ named m, p.result? = some (.error (.dispatchFailed named m))) ↔
      cs ≠ [] ∧ refused.Perm (cs.map (·.queue)) ∧ ∃ result, p.result? = some result := by
  -- one that was not tried to the end has candidates that did not refuse
  have fewer : ∀ {before left : List Candidate} {c : Candidate}, (before ++ c :: left).Perm cs →
      ¬ (before.map (·.queue)).Perm (cs.map (·.queue)) := by
    intro before left c all refused
    have length := refused.length_eq
    have length' := all.length_eq
    simp only [List.length_map, List.length_append, List.length_cons] at length length'
    omega
  constructor
  · rintro ⟨named, m, failed⟩
    cases course with
    | prompt same shows =>
      obtain rfl := Except.error.inj (Option.some.inj (same.symm.trans failed))
      exact absurd shows (by simp [DispatchError.isPrompt])
    | accepted all placed fate =>
      obtain ⟨d, same⟩ := fate _ failed
      exact absurd same (by simp)
    | failed all same =>
      refine ⟨fun none => ?_, all.map _, _, failed⟩
      obtain ⟨cause, same, shows⟩ := empty none
      obtain rfl := Except.error.inj (Option.some.inj (same.symm.trans failed))
      exact absurd shows (by simp [DispatchError.isPrompt])
    | lapsed all same => exact absurd (same.symm.trans failed) (by simp)
    | _ => exact absurd failed (by simp [Progress.result?])
  · rintro ⟨some, refused, result, certain⟩
    cases course with
    | prompt same shows => exact absurd (List.map_eq_nil_iff.1 refused.nil_eq.symm) some
    | accepted all placed fate => exact absurd refused (fewer all)
    | failed all same => exact ⟨_, _, same⟩
    | lapsed all same => exact absurd refused (fewer all)
    | _ => exact absurd certain (by simp [Progress.result?])

/-- A dispatch that failed for want of a queue says how many candidates it counted. -/
theorem Course.failed_eq (course : Course cs group n request p tried refused taken)
    {named : String} {m : Nat} (failed : p.result? = some (.error (.dispatchFailed named m))) :
    named = group ∧ m = n := by
  cases course with
  | prompt same shows =>
    obtain rfl := Except.error.inj (Option.some.inj (same.symm.trans failed))
    exact absurd shows (by simp [DispatchError.isPrompt])
  | accepted all placed fate =>
    obtain ⟨d, same⟩ := fate _ failed
    exact absurd same (by simp)
  | failed all same =>
    have told := Except.error.inj (Option.some.inj (failed.symm.trans same))
    exact DispatchError.dispatchFailed.inj told
  | lapsed all same => exact absurd (same.symm.trans failed) (by simp)
  | _ => exact absurd failed (by simp [Progress.result?])

end Course

section Run

variable {id : DispatchId} {g g' : Gateway} {x : Dispatch} {cs before : List Candidate}
  {refused : List QueueId}

theorem tries?_place (here : g.dispatches[id]? = some x) {left : List Candidate}
    (placing : x.progress = .placing left) (choice : Nat) :
    g.tries? id (.move (.place id choice)) = left[choice]? := by
  rw [tries?, if_pos rfl, here, Option.bind_some, placing]

theorem refusal?_place {choice : Nat} {c : Candidate}
    (turns : g.tries? id (.move (.place id choice)) = some c) :
    g.refusal? id (.move (.place id choice)) = if g.isOpen c.queue then none else some c.queue := by
  rw [refusal?, turns, Option.bind_some]

@[simp]
theorem acceptances_resolve (d : Dispatch) (result : DispatchResult) :
    acceptances id (g.resolve id d result).journal = acceptances id g.journal :=
  rfl

@[simp]
theorem acceptances_afterConcluding (d : Dispatch) (result : DispatchResult) :
    acceptances id (g.afterConcluding id d result).journal = acceptances id g.journal :=
  rfl

theorem refusal?_moveOn (here : g.dispatches[id]? = some x) {queue : QueueId}
    {left : List Candidate} (blocked : x.progress = .blocked queue left)
    (shut : g.isOpen queue = false) : g.refusal? id (.move (.moveOn id)) = some queue := by
  simp [refusal?, here, blocked, shut]

/-- A dispatch tries nobody by what others do, and finds nothing closed. -/
theorem untried_of_foreign {a : Action} (foreign : ∀ m, a = .move m → m.dispatch? ≠ some id) :
    g.tries? id a = none ∧ g.refusal? id a = none := by
  cases a with
  | input i => exact ⟨rfl, rfl⟩
  | move m =>
    have other := foreign m rfl
    cases m with
    | place caller choice =>
      have ne : caller ≠ id := fun same => other (congrArg some same)
      have none : g.tries? id (.move (.place caller choice)) = none := if_neg ne
      exact ⟨none, by rw [refusal?, none, Option.bind_none]⟩
    | moveOn caller => exact ⟨rfl, if_neg fun same => other (congrArg some same)⟩
    | _ => exact ⟨rfl, rfl⟩

/-- What a move of its own does for a dispatch that tries the candidates `cs`, having tried those
before. -/
theorem course_of_turn (here : g.dispatches[id]? = some x)
    (course : Course cs x.group x.attempts x.request x.progress before refused
      (acceptances id g.journal)) {m : Move} (turn : Turn g id x m g') :
    ∃ progress, g'.dispatches[id]? = some { x with progress } ∧
      Course cs x.group x.attempts x.request progress (before ++ (g.tries? id (.move m)).toList)
        (refused ++ (g.refusal? id (.move m)).toList) (acceptances id g'.journal) := by
  obtain ⟨lt, -⟩ := List.getElem?_eq_some_iff.1 here
  have stays : ∀ progress, (g.dispatches.set id { x with progress })[id]? =
      some { x with progress } := fun _ => List.getElem?_set_self lt
  cases turn with
  | passed placing chosen shut =>
    have turns := (tries?_place here placing _).trans chosen
    refine ⟨_, stays _, ?_⟩
    rw [turns, refusal?_place turns, shut]
    exact course.passes placing chosen
  | placed placing chosen live pushed =>
    have turns := (tries?_place here placing _).trans chosen
    refine ⟨_, stays _, ?_⟩
    rw [turns, refusal?_place turns, live, if_pos rfl, Option.toList_none, List.append_nil]
    have placed := course.places placing chosen
    rwa [← acceptances_queued] at placed
  | joined placing chosen live full =>
    have turns := (tries?_place here placing _).trans chosen
    refine ⟨_, stays _, ?_⟩
    rw [turns, refusal?_place turns, live, if_pos rfl, Option.toList_none, List.append_nil]
    exact course.joins placing chosen
  | movedOn blocked shut =>
    refine ⟨_, stays _, ?_⟩
    rw [refusal?_moveOn here blocked shut, show g.tries? id (.move (.moveOn id)) = none from rfl,
      Option.toList_none, List.append_nil]
    exact course.movesOn blocked
  | exhausted placing =>
    refine ⟨_, stays _, ?_⟩
    simpa [tries?, refusal?] using course.fails placing
  | replied awaiting read =>
    refine ⟨_, stays _, ?_⟩
    simpa [tries?, refusal?] using course.settles awaiting (by simp)
  | abandoned awaiting read =>
    refine ⟨_, stays _, ?_⟩
    simpa [tries?, refusal?] using course.settles awaiting (by simp)
  | lapsed waits due =>
    refine ⟨_, stays _, ?_⟩
    rcases waits with ⟨queue, left, blocked, -⟩ | ⟨awaiting, -⟩
    · simpa [tries?, refusal?] using course.lapses blocked x.timeout
    · simpa [tries?, refusal?] using course.settles awaiting (by simp)
  | concluded certain =>
    refine ⟨_, stays _, ?_⟩
    simpa [tries?, refusal?] using course.returns certain

/-- What an action does for a dispatch that tries the candidates `cs`, having tried those before. -/
theorem course_of_act (l : Ledger g) (here : g.dispatches[id]? = some x)
    (course : Course cs x.group x.attempts x.request x.progress before refused
      (acceptances id g.journal)) {a : Action} (h : g.act? a = some g') :
    ∃ progress, g'.dispatches[id]? = some { x with progress } ∧
      Course cs x.group x.attempts x.request progress (before ++ (g.tries? id a).toList)
        (refused ++ (g.refusal? id a).toList) (acceptances id g'.journal) := by
  cases bearing_of_act l here h with
  | turned turn => exact course_of_turn here course turn
  | forsaken undecided =>
    obtain ⟨lt, -⟩ := List.getElem?_eq_some_iff.1 here
    refine ⟨.cancelled, List.getElem?_set_self lt, ?_⟩
    simp only [tries?, refusal?, Option.toList_none, List.append_nil]
    exact course.forsakes undecided
  | served foreign blocked after accepted =>
    obtain ⟨nobody, nothing⟩ := untried_of_foreign (g := g) foreign
    refine ⟨.awaiting, after, ?_⟩
    rw [accepted, nobody, nothing]
    simpa using course.gets blocked
  | apart foreign apart =>
    obtain ⟨nobody, nothing⟩ := untried_of_foreign (g := g) foreign
    refine ⟨x.progress, apart.dispatch.trans here, ?_⟩
    rw [apart.acceptances, nobody, nothing]
    simpa using course

/-- What a run does for a dispatch that tries the candidates `cs`, having tried those before. -/
theorem course_of_run {s : Settings} (actions : List Action) (h : Reachable s g)
    (here : g.dispatches[id]? = some x)
    (course : Course cs x.group x.attempts x.request x.progress before refused
      (acceptances id g.journal)) :
    ∃ progress, (actions.foldl perform g).dispatches[id]? = some { x with progress } ∧
      Course cs x.group x.attempts x.request progress (before ++ tried id g actions)
        (refused ++ refusals id g actions) (acceptances id (actions.foldl perform g).journal) := by
  -- induction on the actions, for all that was tried and refused before
  induction actions generalizing g x before refused with
  | nil => exact ⟨x.progress, here, by simpa [tried, refusals] using course⟩
  | cons a rest ih =>
    rw [List.foldl_cons, perform, tried, refusals]
    cases step : g.act? a with
    | none => exact ih h here course
    | some g' =>
      obtain ⟨progress, here', course'⟩ :=
        course_of_act (ledger_of_attained (attained_of_reachable h)) here course step
      simpa using ih (reachable_of_act? h step) here' course'

end Run

end Switchboard.Gateway
