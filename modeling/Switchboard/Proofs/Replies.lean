import Switchboard.Proofs.Deadline
import Switchboard.Proofs.Posting

/-!
# What becomes of the replies of workers

A frame that a worker sends back under a correlation id goes to the dispatch whose slot is open under
that id, whichever session read it, and that dispatch can only return it, unless its caller goes away,
no queue had the request by then, or the dispatch had given up already and was about to give back its
slot (`Outcome`). Where no slot is open the frame is counted and dropped.

Main result: `reply_delivery`.
-/

set_option autoImplicit false

namespace Switchboard.Gateway

/-- What may have become of a dispatch for which this reply came, `before` being what had happened by
then. -/
inductive Outcome (g : Gateway) (id : DispatchId) (x : Dispatch) (e : Envelope)
    (before : List Event) : Prop
  /-- The reply is its result. -/
  | returned (certain : x.progress.result? = some (.ok e))
  /-- The reply is there for it to collect. -/
  | waiting (waits : x.progress.isSettled = false) (there : g.look x = .reply e)
  /-- Its caller went away. -/
  | forsaken (finished : x.progress = .cancelled)
  /-- It failed without its request ever being on a queue: the worker made the id up. -/
  | unasked {cause : DispatchError} (certain : x.progress.result? = some (.error cause))
      (never : ¬ Queued id g.journal)
  /-- It failed, and this was certain before the reply came. -/
  | late {cause : DispatchError} (certain : x.progress.result? = some (.error cause))
      (earlier : .resolved id (.error cause) ∈ before)

section Outcome

variable {g : Gateway} {id : DispatchId} {e : Envelope} {before : List Event}

/-- A reply that came for a dispatch carries the id on the envelope of that dispatch. -/
theorem Posted.request_of_answers (p : Posted g) (h : Answers g.journal id e before) :
    ∃ x, g.dispatches[id]? = some x ∧ x.request.correlationId = e.correlationId := by
  have named := p.single.matched h
  rw [p.named, Option.map_eq_some_iff] at named
  obtain ⟨claim, claimed, same⟩ := named
  obtain ⟨x, here, claimed⟩ := claim?_eq_some.1 claimed
  exact ⟨x, here, ((p.known here).stamp claimed).symm.trans same⟩

theorem Posted.outcome_of_answers (p : Posted g) {x : Dispatch}
    (h : Answers g.journal id e before) (here : g.dispatches[id]? = some x) :
    Outcome g id x e before := by
  have told := p.known here
  have answered := p.single.latest h
  have waiting : x.progress.isSettled = false → Outcome g id x e before := by
    intro waits
    obtain ⟨live, undecided⟩ := Progress.isSettled_eq_false.1 waits
    obtain ⟨claim, claimed⟩ := told.exists_claim undecided
    refine .waiting waits ?_
    rw [look, claimed]
    exact Correlation.Table.look_eq_reply.2 ((told.handed live claimed).trans answered)
  have decided : ∀ {result}, x.progress.result? = some result → Outcome g id x e before := by
    intro result certain
    cases result with
    | ok r =>
      obtain rfl := Option.some.inj (answered.symm.trans (told.returned certain))
      exact .returned certain
    | error cause =>
      rcases told.failed certain with never | late
      · exact .unasked certain never
      · exact .late certain (late h)
  cases progress : x.progress with
  | placing left => exact waiting (by rw [progress]; rfl)
  | blocked queue left => exact waiting (by rw [progress]; rfl)
  | awaiting => exact waiting (by rw [progress]; rfl)
  | cancelled => exact .forsaken progress
  | resolved result => exact decided (by rw [progress]; rfl)
  | done result => exact decided (by rw [progress]; rfl)

/-- A dispatch whose request is on a queue collects its reply if it can. -/
theorem Quiescent.settled_of_outcome (quiet : Quiescent g) (p : Posted g) {x : Dispatch}
    (here : g.dispatches[id]? = some x) (queued : Queued id g.journal)
    (h : Outcome g id x e before) :
    x.progress = .done (.ok e) ∨ x.progress = .cancelled ∨
      ∃ cause, x.progress = .done (.error cause) ∧ .resolved id (.error cause) ∈ before := by
  cases h with
  | returned certain => exact Or.inl (quiet.done_of_certain here certain)
  | forsaken finished => exact Or.inr (Or.inl finished)
  | unasked certain never => exact absurd queued never
  | @late cause certain earlier =>
    exact Or.inr (Or.inr ⟨cause, quiet.done_of_certain here certain, earlier⟩)
  | waiting waits there =>
    have placed : x.progress.isPlacing = false := by
      by_contra placing
      exact (p.known here).unplaced (Bool.of_not_eq_false placing) queued
    have move : g.collect id = none := quiet.step? (.collect id)
    cases progress : x.progress with
    | awaiting =>
      rw [collect, here] at move
      simp [progress, there] at move
    | placing left => exact absurd placed (by simp [progress, Progress.isPlacing])
    | blocked queue left => exact absurd placed (by simp [progress, Progress.isPlacing])
    | _ => exact absurd waits (by simp [progress, Progress.isSettled])

/-- Two replies came for the same dispatch only if they are the same one. -/
theorem Posted.eq_iff_of_answers (p : Posted g) {id' : DispatchId} {e' : Envelope}
    {before' : List Event} (h : Answers g.journal id e before)
    (h' : Answers g.journal id' e' before') : id = id' ↔ before = before' := by
  constructor
  · rintro rfl
    exact p.single.once h h'
  · rintro rfl
    obtain ⟨session, received⟩ := h.received
    obtain ⟨session', received'⟩ := h'.received
    -- both are the event right after the same history
    have suffix := List.suffix_of_suffix_length_le received received' (by simp)
    have same := suffix.eq_of_length (by simp)
    obtain ⟨-, rfl⟩ := Event.received.inj (List.cons.inj same).1
    exact Option.some.inj (h.slot.symm.trans h'.slot)

end Outcome

/-- A dispatch whose result is a reply has the first frame with its id that was read on any stream since
it got the id. No frame is for two dispatches, and no dispatch gets two. A frame that comes while a
slot is open under its id is for the dispatch that has the slot: it is returned, unless the caller
goes away, no queue had the request, or the dispatch had failed before the frame came and was to give
back the slot; once nothing moves, a dispatch that was queued and had not failed by then has returned
it or lost its caller. The other frames with an id are counted as dropped. -/
theorem reply_delivery {s : Settings} {g : Gateway} (h : Reachable s g) :
    (∀ {id : DispatchId} {x r}, g.dispatches[id]? = some x →
      x.progress.result? = some (.ok r) → x.request.correlationId ≠ noReply ∧ r.correlationId = x.request.correlationId ∧
        ∃ before earlier, Answers g.journal id r before ∧
          .opened id r.correlationId :: earlier <:+ before ∧
          ∀ {session e other}, .received session e :: other <:+ before → e.isReply = true →
            e.correlationId = r.correlationId → .received session e :: other <:+ earlier) ∧
      (∀ {id id' e e' before before'}, Answers g.journal id e before →
        Answers g.journal id' e' before' → (id = id' ↔ before = before')) ∧
      (∀ {session e before}, .received session e :: before <:+ g.journal → e.isReply = true →
        holder? e.correlationId before = none ∨
          ∃ id x, Answers g.journal id e before ∧ g.dispatches[id]? = some x ∧
            x.request.correlationId = e.correlationId ∧ Outcome g id x e before ∧
            (Quiescent g → Queued id g.journal →
              x.progress = .done (.ok e) ∨ x.progress = .cancelled ∨
                ∃ cause, x.progress = .done (.error cause) ∧
                  .resolved id (.error cause) ∈ before)) ∧
      (∀ c, g.replies.waiter? c =
        (holder? c g.journal).bind fun id => (g.claim? id).map (·.ticket)) ∧
      g.metrics.value .repliesDropped = (missed g.journal : Int) := by
  have attained := attained_of_reachable h
  have posted := posted_of_attained attained
  refine ⟨fun {id x r} here certain => ?_, posted.eq_iff_of_answers,
    fun {session e before} received reply => ?_, posted.slots, repliesDropped_of_attained attained⟩
  · obtain ⟨before, answers⟩ := answers_of_answer? ((posted.known here).returned certain)
    obtain ⟨x', here', stamp⟩ := posted.request_of_answers answers
    obtain rfl := Option.some.inj (here.symm.trans here')
    obtain ⟨earlier, opened, since⟩ := opened_of_holder? answers.slot
    rw [stamp]
    exact ⟨(Envelope.isReply_iff.1 answers.reply).2, rfl, before, earlier, answers, opened, since⟩
  · cases slot : holder? e.correlationId before with
    | none => exact Or.inl rfl
    | some id =>
      have answers : Answers g.journal id e before := ⟨⟨session, received⟩, reply, slot⟩
      obtain ⟨x, here, stamp⟩ := posted.request_of_answers answers
      have outcome := posted.outcome_of_answers answers here
      exact Or.inr ⟨id, x, answers, here, stamp, outcome,
        fun quiet queued => quiet.settled_of_outcome posted here queued outcome⟩

/-- An empty frame of a worker under the `n`th id that a gateway with the `sample` settings draws. -/
def replyFrame (n : UInt8) : List UInt8 :=
  [0, 0, 0, 17, 2, 51, 49, 0, 253, n, 0, 0, 0, 0, 0, 1, 0, 0, 0, 0, 0]

/-- A worker answers two dispatches in the wrong order, and one of them twice. -/
def shuffledRun : List Action :=
  join 0 100 keepaliveFrame ++ [.move (.receive 0)] ++
    ask 0 "default_group" { command := .getItem } 1000 ++ [.move (.place 0 0)] ++
    ask 1 "default_group" { command := .getItem } 1000 ++
    [.move (.place 1 0), .input (.send 0 (replyFrame 2 ++ replyFrame 1 ++ replyFrame 2)),
      .move (.receive 0), .move (.receive 0), .move (.receive 0), .move (.collect 0),
      .move (.collect 1)] ++ returned 0 ++ returned 1

/-- The reply of the first dispatch in `shuffledRun`. -/
def firstReply : Envelope := { command := .getItem, correlationId := 281474976710657 }

/-- Each of the two dispatches gets its own reply, and the reply that comes again is dropped. -/
theorem reply_delivery_shuffledRun :
    Reachable sample (play sample shuffledRun) ∧
      (∃ x, (play sample shuffledRun).dispatches[0]? = some x ∧ x.progress = .done (.ok firstReply) ∧
        firstReply.correlationId = x.request.correlationId) ∧
      (play sample shuffledRun).metrics.value .repliesDropped = 1 := by
  have reached := reachable_play sample shuffledRun
  obtain ⟨returned, -, -, -, dropped⟩ := reply_delivery reached
  refine ⟨reached, ?_, dropped.trans (by decide +kernel)⟩
  have first : ((play sample shuffledRun).dispatches[0]?).map (fun x =>
      match x.progress with
      | .done (.ok r) => decide (r = firstReply)
      | _ => false) = some true := by
    decide +kernel
  obtain ⟨x, here, same⟩ := Option.map_eq_some_iff.1 first
  split at same
  · rename_i r finished
    obtain rfl := of_decide_eq_true same
    exact ⟨x, here, finished, (returned here (by rw [finished]; rfl)).2.1⟩
  · exact absurd same (by simp)

end Switchboard.Gateway
