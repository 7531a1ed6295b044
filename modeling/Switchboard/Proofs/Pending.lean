import Switchboard.Proofs.Ending
import Switchboard.Proofs.Freshness
import Switchboard.Proofs.Posting
import Switchboard.Proofs.Run

/-!
# Open slots and open dispatches

An open dispatch that got no reply has its slot, unless another dispatch has the same id
(`exists_shared_of_closed`), for which 2^48 ids have to be drawn first. So the open slots are those of
the open dispatches that wait for a reply, a dispatch that ends takes its own slot with it and no
other, and a reply finds the dispatch that it is for.

Main result: `slots_of_waiting`.
-/

set_option autoImplicit false

namespace Switchboard.Gateway

section Journal

variable {journal : List Event} {id : DispatchId} {c : CorrelationId}

theorem opened_of_correlation? (h : correlation? id journal = some c) : .opened id c ∈ journal := by
  induction journal with
  | nil => exact absurd h (by simp [correlation?])
  | cons event before ih =>
    cases event with
    | opened other c' =>
      rw [correlation?] at h
      split at h
      · rename_i same
        obtain rfl := Option.some.inj h
        rw [same]
        exact List.mem_cons_self
      · exact List.mem_cons_of_mem _ (ih h)
    | _ => exact List.mem_cons_of_mem _ (ih h)

/-- A dispatch that is the only one with its id has its slot until its reply comes or it is over. -/
theorem holder?_of_opened (opened : .opened id c ∈ journal)
    (only : ∀ {id'}, .opened id' c ∈ journal → id' = id) (unanswered : answer? id journal = none)
    (running : ¬ Concluded id journal) : holder? c journal = some id := by
  induction journal with
  | nil => exact absurd opened (by simp)
  | cons event before ih =>
    -- what went before, if the last event is not the one that opened the slot
    have earlier : event ≠ .opened id c → answer? id before = none →
        holder? c before = some id := by
      intro other unanswered
      apply ih
      · exact (List.mem_cons.1 opened).resolve_left (Ne.symm other)
      · exact fun mem => only (List.mem_cons_of_mem _ mem)
      · exact unanswered
      · exact fun concluded => running (concluded.cons event)
    -- a dispatch that is over has another id
    have others : ∀ {id'}, id' ≠ id → correlation? id' before ≠ some c := by
      intro id' other named
      exact other (only (List.mem_cons_of_mem _ (opened_of_correlation? named)))
    cases event with
    | opened id' c' =>
      rw [holder?]
      split
      · rename_i same
        subst same
        exact congrArg some (only List.mem_cons_self)
      · rename_i apart
        apply earlier
        · intro same
          exact apart (Event.opened.inj same).2
        · exact unanswered
    | received session e =>
      rw [answer?] at unanswered
      split at unanswered
      · exact absurd unanswered (by simp)
      · rename_i notMine
        have slot := earlier (by simp) unanswered
        rw [holder?, if_neg, slot]
        rintro ⟨reply, rfl⟩
        exact notMine ⟨reply, slot⟩
    | finished id' result =>
      have other : id' ≠ id := by
        rintro rfl
        exact running (Or.inl ⟨result, List.mem_cons_self⟩)
      rw [holder?, if_neg (others other)]
      exact earlier (by simp) unanswered
    | cancelled id' =>
      have other : id' ≠ id := by
        rintro rfl
        exact running (Or.inr List.mem_cons_self)
      rw [holder?, if_neg (others other)]
      exact earlier (by simp) unanswered
    | _ => exact earlier (by simp) unanswered

end Journal

section Slots

variable {s : Settings} {g g' : Gateway} {id : DispatchId} {x : Dispatch}

/-- An open dispatch that got no reply waits under its id, unless another one has the same id. -/
theorem waiter?_of_alone (attained : Attained s g) (here : g.dispatches[id]? = some x)
    (live : x.progress.isOpen = true) {claim : Correlation.Claim} (claimed : x.claim = some claim)
    (unanswered : g.replies.replies.lookup claim.ticket = none)
    (alone : ∀ {id' : DispatchId} {y : Dispatch}, g.dispatches[id']? = some y →
      y.request.correlationId = x.request.correlationId → id' = id) :
    g.replies.waiter? claim.id = some claim.ticket := by
  have posted := posted_of_attained attained
  have told := posted.known here
  have mine : g.claim? id = some claim := (claim?_of_here here).trans claimed
  have slot : holder? claim.id g.journal = some id := by
    apply holder?_of_opened
    case opened =>
      refine opened_of_correlation? ?_
      rw [posted.named, mine, Option.map_some]
    case only =>
      intro id' opened
      obtain ⟨y, there, same⟩ := correlationId_of_opened attained opened
      exact alone there (same.trans (told.stamp claimed))
    case unanswered =>
      exact (told.handed live claimed).symm.trans unanswered
    case running =>
      intro concluded
      obtain ⟨x', here', stopped⟩ := over_of_attained attained concluded
      obtain rfl := Option.some.inj (here.symm.trans here')
      exact absurd (stopped.symm.trans live) (by simp)
  rw [posted.slots, slot, Option.bind_some, mine, Option.map_some]

/-- A dispatch that waits and whose slot was closed before its reply came shares its id with another
one. -/
theorem exists_shared_of_closed (attained : Attained s g) (here : g.dispatches[id]? = some x)
    (waits : x.progress.isSettled = false) (closed : g.look x = .closed) :
    ∃ id' y, id' ≠ id ∧ g.dispatches[id']? = some y ∧
      y.request.correlationId = x.request.correlationId := by
  obtain ⟨live, undecided⟩ := Progress.isSettled_eq_false.1 waits
  obtain ⟨claim, claimed⟩ := ((posted_of_attained attained).known here).exists_claim undecided
  rw [look, claimed] at closed
  obtain ⟨none, gone⟩ := Correlation.Table.look_eq_closed.1 closed
  by_contra shared
  have alone : ∀ {id' : DispatchId} {y : Dispatch}, g.dispatches[id']? = some y →
      y.request.correlationId = x.request.correlationId → id' = id := by
    intro id' y there same
    by_contra other
    exact shared ⟨id', y, other, there, same⟩
  have waits := waiter?_of_alone attained here live claimed none alone
  exact gone (Correlation.Table.mem_slots_of_waiter? waits)

/-- A slot is that of an open dispatch which got no reply. -/
theorem exists_waiting_of_mem_slots (attained : Attained s g) {c : CorrelationId}
    (slot : c ∈ g.replies.slots.map (·.1)) :
    ∃ (id : DispatchId) (x : Dispatch), g.dispatches[id]? = some x ∧
      x.request.correlationId = c ∧ x.progress.isOpen = true ∧ ∀ e, g.look x ≠ .reply e := by
  have posted := posted_of_attained attained
  obtain ⟨ticket, waits⟩ := Correlation.Table.mem_ids_iff.1 slot
  rw [posted.slots, Option.bind_eq_some_iff] at waits
  obtain ⟨id, slot, -⟩ := waits
  obtain ⟨unanswered, x, here, live, named⟩ := posted.holds slot
  obtain ⟨claim, claimed, rfl⟩ := Option.map_eq_some_iff.1 named
  have told := posted.known here
  refine ⟨id, x, here, (told.stamp claimed).symm, live, fun e seen => ?_⟩
  rw [look, claimed, Correlation.Table.look_eq_reply, told.handed live claimed, unanswered] at seen
  exact absurd seen (by simp)

/-- As long as there are ids left, a dispatch gets its id. -/
theorem open?_isSome (attained : Attained s g) (few : g.dispatches.length + 1 < 2 ^ 48) :
    ∃ claim replies, g.replies.open? g.ids.next.1 = some (claim, replies) := by
  have issued := issued_of_attained attained (Nat.lt_of_succ_lt few)
  cases opened : g.replies.open? g.ids.next.1 with
  | some pair => exact ⟨pair.1, pair.2, rfl⟩
  | none =>
    rw [Correlation.Table.open?] at opened
    split at opened
    · rename_i taken
      rw [issued.next few, Bool.or_eq_true, decide_eq_true_eq] at taken
      rcases taken with zero | waits
      · exact absurd zero (Correlation.IdSource.nth_ne_noReply _ few)
      -- whoever has the slot would have the id of a later dispatch
      · obtain ⟨id, x, here, stamp, -⟩ := exists_waiting_of_mem_slots attained
          (Correlation.Table.mem_ids_iff.2 (Option.isSome_iff_exists.1 waits))
        obtain ⟨lt, -⟩ := List.getElem?_eq_some_iff.1 here
        rw [issued.stamped here] at stamp
        have same := Correlation.IdSource.nth_inj (by omega) few stamp
        exact absurd same (Nat.ne_of_lt lt)
    · exact absurd opened (by simp)

/-- As long as there are ids left, every dispatch has a claim on its own. -/
theorem exists_claim (attained : Attained s g) (few : g.dispatches.length < 2 ^ 48)
    (here : g.dispatches[id]? = some x) : ∃ claim, x.claim = some claim := by
  induction attained generalizing x with
  | refl => exact absurd here (by simp [start])
  | @tail g g' attained c ih =>
    have fewer := Nat.lt_of_le_of_lt (length_dispatches_of_change c) few
    -- a dispatch keeps its claim
    have before : ∀ {y}, g.dispatches[id]? = some y → ∃ claim, x.claim = some claim := by
      intro y there
      obtain ⟨progress, after⟩ := dispatch_of_change c there
      obtain rfl := Option.some.inj (here.symm.trans after)
      have claimed : ∃ claim, y.claim = some claim := ih fewer there
      exact claimed
    rcases begins_of_change c with ⟨-, length⟩ | ⟨y, -, dispatches, -, unclaimed⟩
    · obtain ⟨lt, -⟩ := List.getElem?_eq_some_iff.1 here
      rw [length] at lt
      exact before (List.getElem?_eq_getElem lt)
    · rcases getElem?_concat_cases (dispatches ▸ here) with there | ⟨-, rfl⟩
      · exact before there
      · rw [dispatches, List.length_append, List.length_singleton] at few
        obtain ⟨claim, replies, opened⟩ := open?_isSome attained few
        refine Option.ne_none_iff_exists'.1 fun none => ?_
        exact absurd ((unclaimed none).symm.trans opened) (by simp)

/-- No reply was handed over to a dispatch that sees none. -/
theorem lookup_of_unanswered {claim : Correlation.Claim} (claimed : x.claim = some claim)
    (unanswered : ∀ e, g.look x ≠ .reply e) : g.replies.replies.lookup claim.ticket = none := by
  by_contra some
  obtain ⟨e, there⟩ := Option.ne_none_iff_exists'.1 some
  refine unanswered e ?_
  rw [look, claimed]
  exact Correlation.Table.look_eq_reply.2 there

/-- An open dispatch that got no reply is the one that waits under its id. -/
theorem waiter?_of_waiting (attained : Attained s g) (few : g.dispatches.length < 2 ^ 48)
    (here : g.dispatches[id]? = some x) (live : x.progress.isOpen = true)
    (unanswered : ∀ e, g.look x ≠ .reply e) :
    ∃ claim, x.claim = some claim ∧
      g.replies.waiter? x.request.correlationId = some claim.ticket := by
  have told := (posted_of_attained attained).known here
  obtain ⟨claim, claimed⟩ := exists_claim attained few here
  refine ⟨claim, claimed, ?_⟩
  rw [← told.stamp claimed]
  exact waiter?_of_alone attained here live claimed (lookup_of_unanswered claimed unanswered)
    fun there same => correlationId_inj attained few there here same

/-- The open slots are those of the open dispatches that got no reply. -/
theorem mem_slots_iff (attained : Attained s g) (few : g.dispatches.length < 2 ^ 48)
    (c : CorrelationId) :
    c ∈ g.replies.slots.map (·.1) ↔
      ∃ (id : DispatchId) (x : Dispatch), g.dispatches[id]? = some x ∧
        x.request.correlationId = c ∧ x.progress.isOpen = true ∧ ∀ e, g.look x ≠ .reply e := by
  refine ⟨exists_waiting_of_mem_slots attained, ?_⟩
  rintro ⟨id, x, here, rfl, live, unanswered⟩
  obtain ⟨claim, -, waits⟩ := waiter?_of_waiting attained few here live unanswered
  exact Correlation.Table.mem_ids_iff.2 ⟨claim.ticket, waits⟩

theorem slots_drop (t : Correlation.Table) (claim : Correlation.Claim) :
    (t.drop claim).slots = t.slots.filter fun slot => slot.1 != claim.id :=
  rfl

/-- The action that ends a dispatch closes its slot, and touches no other. -/
theorem slots_of_ended (attained : Attained s g) {a : Action} (step : g.act? a = some g')
    (few : g'.dispatches.length < 2 ^ 48) (after : g'.dispatches[id]? = some x)
    (stopped : x.progress.isOpen = false)
    (running : ∀ y, g.dispatches[id]? = some y → y.progress.isOpen = true) :
    g'.replies.slots =
      g.replies.slots.filter fun slot => slot.1 != x.request.correlationId := by
  cases ended_of_act step after stopped with
  | before here => exact absurd (stopped.symm.trans (running x here)) (by simp)
  -- the claim is given up, and the slot under its id with it
  | @now y progress here live same how replies =>
    have fewer : g.dispatches.length < 2 ^ 48 :=
      Nat.lt_of_le_of_lt (length_dispatches_of_changes (changes_of_act step)) few
    obtain ⟨claim, claimed⟩ := exists_claim attained fewer here
    have told := (posted_of_attained attained).known here
    rw [replies, replies_release claimed, slots_drop, told.stamp claimed, same]

/-- A frame with the id of an open dispatch that got no reply goes to this dispatch. -/
theorem deliver_of_waiting (attained : Attained s g) (few : g.dispatches.length < 2 ^ 48)
    (here : g.dispatches[id]? = some x) (live : x.progress.isOpen = true)
    (unanswered : ∀ e, g.look x ≠ .reply e) {e : Envelope}
    (named : e.correlationId = x.request.correlationId) :
    ∃ claim replies, x.claim = some claim ∧
      g.replies.deliver e = (.delivered claim.ticket, replies) ∧ replies.look claim = .reply e := by
  obtain ⟨claim, claimed, waits⟩ := waiter?_of_waiting attained few here live unanswered
  have stamped : e.correlationId ≠ noReply := by
    obtain ⟨lt, -⟩ := List.getElem?_eq_some_iff.1 here
    rw [named, (issued_of_attained attained few).stamped here]
    exact Correlation.IdSource.nth_ne_noReply _ (by omega)
  have handed := Correlation.Table.deliver_of_waiter? stamped (named ▸ waits)
  refine ⟨claim, _, claimed, handed, Correlation.Table.look_eq_reply.2 ?_⟩
  rw [Correlation.Table.lookup_deliver handed, lookup_of_unanswered claimed unanswered,
    Option.none_or, if_pos rfl]

end Slots

/-- As long as there are ids left, the open slots are those of the open dispatches that got no reply,
and no two dispatches have the same id. The action that ends a dispatch, in whatever way, closes its
slot and leaves all others alone. A reply to an open dispatch finds its slot, unless another frame
with the id came first. -/
theorem slots_of_waiting {s : Settings} {g : Gateway} (h : Reachable s g)
    (few : g.dispatches.length < 2 ^ 48) :
    (∀ c, c ∈ g.replies.slots.map (·.1) ↔
      ∃ (id : DispatchId) (x : Dispatch), g.dispatches[id]? = some x ∧
        x.request.correlationId = c ∧ x.progress.isOpen = true ∧ ∀ e, g.look x ≠ .reply e) ∧
    (∀ {id id' : DispatchId} {x y : Dispatch}, g.dispatches[id]? = some x →
      g.dispatches[id']? = some y → x.request.correlationId = y.request.correlationId →
      id = id') ∧
    (∀ {a : Action} {g' : Gateway}, g.act? a = some g' → g'.dispatches.length < 2 ^ 48 →
      ∀ {id : DispatchId} {x : Dispatch}, g'.dispatches[id]? = some x →
        x.progress.isOpen = false →
        (∀ y, g.dispatches[id]? = some y → y.progress.isOpen = true) →
        g'.replies.slots =
          g.replies.slots.filter fun slot => slot.1 != x.request.correlationId) ∧
    (∀ {id : DispatchId} {x : Dispatch}, g.dispatches[id]? = some x → x.progress.isOpen = true →
      (∀ e, g.look x ≠ .reply e) → ∀ {e : Envelope},
        e.correlationId = x.request.correlationId → ∃ claim replies, x.claim = some claim ∧
          g.replies.deliver e = (.delivered claim.ticket, replies) ∧
          replies.look claim = .reply e) := by
  have attained := attained_of_reachable h
  exact ⟨mem_slots_iff attained few, correlationId_inj attained few,
    fun step few' => slots_of_ended attained step few', deliver_of_waiting attained few⟩

/-- Two dispatches are on a queue, and the caller of the first goes away. -/
def cancelledRun : List Action :=
  join 0 100 keepaliveFrame ++ ask 0 "default_group" { command := .getItem } 1000 ++
    [.move (.place 0 0)] ++ ask 1 "default_group" { command := .getItem } 1000 ++
    [.move (.place 1 0), .input (.cancel 0)]

/-- The slot of the second dispatch is the only one, and it belongs to an open dispatch. -/
theorem slots_of_waiting_cancelledRun :
    Reachable sample (play sample cancelledRun) ∧
      (play sample cancelledRun).dispatches.length < 2 ^ 48 ∧
      (play sample cancelledRun).replies.slots.map (·.1) = [281474976710658] ∧
      ∃ (id : DispatchId) (x : Dispatch), (play sample cancelledRun).dispatches[id]? = some x ∧
        x.request.correlationId = 281474976710658 ∧ x.progress.isOpen = true := by
  have reached := reachable_play sample cancelledRun
  have few : (play sample cancelledRun).dispatches.length < 2 ^ 48 := by decide +kernel
  have slots : (play sample cancelledRun).replies.slots.map (·.1) = [281474976710658] := by
    decide +kernel
  refine ⟨reached, few, slots, ?_⟩
  obtain ⟨id, x, here, named, live, -⟩ := ((slots_of_waiting reached few).1 281474976710658).1
    (slots ▸ List.mem_singleton_self _)
  exact ⟨id, x, here, named, live⟩

end Switchboard.Gateway
