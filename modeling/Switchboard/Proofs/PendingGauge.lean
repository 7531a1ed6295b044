import Switchboard.Proofs.Balance
import Switchboard.Proofs.Pending

/-!
# The gauge of pending replies

A dispatch that opens its slot or gives it back reads how many slots are open, and then sets the gauge. A
slot that goes away otherwise, because the caller of its dispatch goes away or because a reply comes, is
overlooked until a dispatch reads the number again (`overlooked`). So the number that was read last counts
the open slots and those that were overlooked since, as long as no dispatch has still to read it
(`Reckoned`, `reckoned_of_reachable`).

The gauge shows the number that was published last. It is wrong if this is not the number that was read
last (`exists_crossed_gauge`), or if a slot was overlooked since (`exists_stale_gauge`).

Main results: `gauge_right_iff`, `exists_stale_gauge`.
-/

set_option autoImplicit false

namespace Switchboard.Gateway

/-- The dispatches whose slots went away since the number of open slots was read. -/
def overlooked : List Event → List DispatchId
  | [] => []
  | .tallied (.dispatch _) _ :: _ => []
  -- the slot under the id of the frame, or of the dispatch, goes away
  | .received _ e :: before =>
    if e.isReply = true then (holder? e.correlationId before).toList ++ overlooked before
    else overlooked before
  | .cancelled id :: before =>
    ((correlation? id before).bind fun c => holder? c before).toList ++ overlooked before
  | _ :: before => overlooked before

/-- The dispatch has not returned, or has still to read how many slots are open. -/
def Unfinished (g : Gateway) (id : DispatchId) : Prop :=
  ∃ x, g.dispatches[id]? = some x ∧ (x.returned? = none ∨ g.reports.get? (.dispatch id) = some none)

/-- The dispatch goes on and has no reply yet. -/
def isWaiting (g : Gateway) (x : Dispatch) : Bool :=
  x.progress.isOpen && match g.look x with
    | .reply _ => false
    | _ => true

/-- Nobody reads how many slots are open. -/
structure Unmeasured (g g' : Gateway) : Prop where
  due : ∀ {id}, g.reports.get? (.dispatch id) = some none → g'.reports.get? (.dispatch id) = some none
  tallied : lastTallied .correlationsPending g'.journal = lastTallied .correlationsPending g.journal
  unfinished : ∀ {id}, Unfinished g id → Unfinished g' id

/-- Nothing happens to slots. -/
structure SameSlots (g g' : Gateway) : Prop where
  replies : g'.replies = g.replies
  holder : ∀ c, holder? c g'.journal = holder? c g.journal
  overlooked : overlooked g'.journal = overlooked g.journal

/-- What happens to slots where nobody reads how many are open. -/
inductive Reckons (g g' : Gateway) : Prop
  | keeps (same : SameSlots g g')
  /-- A slot is closed, and nobody is to read. -/
  | closes (c : CorrelationId)
      (slots : g'.replies.slots = g.replies.slots.filter fun slot => slot.1 != c)
      (holder : ∀ c', holder? c' g'.journal = if c' = c then none else holder? c' g.journal)
      (overlooked : overlooked g'.journal = (holder? c g.journal).toList ++ overlooked g.journal)
  /-- A dispatch opens its slot or gives it back, and is to read. -/
  | owes {id : DispatchId} (due : g'.reports.get? (.dispatch id) = some none)
      (overlooked : overlooked g'.journal = overlooked g.journal)
      (holder : ∀ {c other}, other < g.dispatches.length → holder? c g'.journal = some other →
        holder? c g.journal = some other)

/-- The number that was read last counts the open slots and those that were overlooked since. Dispatches
whose slots were overlooked have no slot and have not come to their end. -/
structure Reckoned (g : Gateway) : Prop where
  read : (∃ id, g.reports.get? (.dispatch id) = some none) ∨
    g.replies.size + (overlooked g.journal).length = lastTallied .correlationsPending g.journal
  unfinished : ∀ {id}, id ∈ overlooked g.journal → Unfinished g id
  slotless : ∀ {id c}, id ∈ overlooked g.journal → holder? c g.journal ≠ some id

/-- The gauge of pending replies. -/
structure SlotsShown (s : Settings) (g : Gateway) : Prop
    extends Lags s g .correlationsPending where
  /-- Where nothing moves, the number that was read last counts the open slots and those that were
  overlooked since. -/
  latest : Quiescent g → g.replies.size + (overlooked g.journal).length =
    lastTallied .correlationsPending g.journal
  /-- So the gauge is right just if the number that was published last falls short of this one by those
  that were overlooked. -/
  right : Quiescent g → (g.metrics.value .correlationsPending = g.replies.size ↔
    lastPublished .correlationsPending g.journal + (overlooked g.journal).length =
      lastTallied .correlationsPending g.journal)
  /-- As long as there are ids left, there are as many open slots as dispatches that wait for a reply. -/
  waiting : g.dispatches.length < 2 ^ 48 → g.replies.size = g.dispatches.countP g.isWaiting
  /-- Where nothing moves, only dispatches that lost their callers, and dispatches that still wait for
  room and have their replies, can have been overlooked. -/
  fate : g.dispatches.length < 2 ^ 48 → Quiescent g → ∀ id ∈ overlooked g.journal,
    ∃ x, g.dispatches[id]? = some x ∧ (x.progress = .cancelled ∨
      ∃ queue left e, x.progress = .blocked queue left ∧ g.look x = .reply e)

/-! ## Nobody reads how many slots are open -/

section Unmeasured

variable {g g' : Gateway} {r : Reporter}

theorem Unread.unmeasured (same : Unread r g g')
    (goesOn : ∀ {id : DispatchId} {x}, g.dispatches[id]? = some x →
      ∃ x', g'.dispatches[id]? = some x' ∧
        (x.returned? = none → x'.returned? = none ∨ g'.reports.get? (.dispatch id) = some none)) :
    Unmeasured g g' where
  due := same.due
  tallied := by
    obtain ⟨news, journal, quiet⟩ := same.news
    rw [journal]
    exact (readings_of_news quiet g.journal).2.1 _
  unfinished := by
    rintro id ⟨x, here, unfinished⟩
    obtain ⟨x', here', returns⟩ := goesOn here
    exact ⟨x', here', unfinished.elim returns fun due => Or.inr (same.due due)⟩

theorem Unread.unmeasured_of_same (same : Unread r g g')
    (dispatches : g'.dispatches = g.dispatches) : Unmeasured g g' :=
  same.unmeasured fun here => ⟨_, by rw [dispatches, here], Or.inl⟩

theorem Unread.unmeasured_of_set (same : Unread r g g') {id : DispatchId} {d : Dispatch}
    (dispatches : g'.dispatches = g.dispatches.set id d)
    (goesOn : d.returned? = none ∨ g'.reports.get? (.dispatch id) = some none) :
    Unmeasured g g' := by
  refine same.unmeasured fun {other x} here => ?_
  rw [dispatches]
  by_cases mine : id = other
  · subst mine
    exact ⟨d, List.getElem?_set_self (List.getElem?_eq_some_iff.1 here).1, fun _ => goesOn⟩
  · exact ⟨x, (List.getElem?_set_ne mine).trans here, Or.inl⟩

theorem unmeasured_of_deed (ledger : Ledger g) {id : SessionId} {m : Move}
    (deed : Deed g id m g') : Unmeasured g g' := by
  have unread := unread_of_deed deed
  rcases dispatches_of_deed ledger deed with same | ⟨caller, d, queue, left, -, -, same⟩
  · exact unread.unmeasured_of_same same
  · exact unread.unmeasured_of_set same (Or.inl rfl)

theorem unmeasured_of_turn {id : DispatchId} {d : Dispatch} {m : Move} (turn : Turn g id d m g') :
    Unmeasured g g' := by
  have unread := unread_of_turn turn
  cases turn with
  | concluded certain =>
    refine unread.unmeasured_of_set rfl (Or.inr ?_)
    show (Assoc.insert _ _ _).get? _ = _
    rw [Assoc.get?_insert, if_pos rfl]
  | _ => exact unread.unmeasured_of_set rfl (Or.inl rfl)

theorem unmeasured_dispatch (group : String) (e : Envelope) (timeout : Nat) :
    Unmeasured g (g.dispatch group e timeout) := by
  obtain ⟨d, dispatches, -⟩ := exists_dispatches_dispatch (g := g) group e timeout
  refine (unread_dispatch group e timeout).unmeasured fun {id x} here => ⟨x, ?_, Or.inl⟩
  rw [dispatches, List.getElem?_append_left (List.getElem?_eq_some_iff.1 here).1, here]

end Unmeasured

/-! ## Nothing happens to slots -/

section SameSlots

variable {g g' : Gateway}

theorem overlooked_cons {event : Event} (aside : event.isAside = true)
    (unread : event.isReading = false) (journal : List Event) :
    overlooked (event :: journal) = overlooked journal := by
  cases event with
  | received session e =>
    have plain : e.isReply = false := by simpa [Event.isAside] using aside
    rw [overlooked, if_neg (by simp [plain])]
  | cancelled id => exact absurd aside (by simp [Event.isAside])
  | tallied r number => exact absurd unread (by simp [Event.isReading])
  | _ => rfl

theorem SameSlots.trans {h : Gateway} (first : SameSlots g h) (second : SameSlots h g') :
    SameSlots g g' where
  replies := second.replies.trans first.replies
  holder c := (second.holder c).trans (first.holder c)
  overlooked := second.overlooked.trans first.overlooked

theorem SameSlots.of_same (replies : g'.replies = g.replies) (journal : g'.journal = g.journal) :
    SameSlots g g' where
  replies := replies
  holder c := by rw [journal]
  overlooked := by rw [journal]

theorem SameSlots.of_event {event : Event} (replies : g'.replies = g.replies)
    (journal : g'.journal = event :: g.journal) (aside : event.isAside = true)
    (unread : event.isReading = false) : SameSlots g g' where
  replies := replies
  holder c := by rw [journal, (unheard_cons aside).holder]
  overlooked := by rw [journal, overlooked_cons aside unread]

theorem SameSlots.of_news (news : List Event) (replies : g'.replies = g.replies)
    (journal : g'.journal = news ++ g.journal)
    (aside : ∀ event ∈ news, event.isAside = true ∧ event.isReading = false) : SameSlots g g' := by
  have both : ∀ news : List Event,
      (∀ event ∈ news, event.isAside = true ∧ event.isReading = false) →
      (∀ c, holder? c (news ++ g.journal) = holder? c g.journal) ∧
        Gateway.overlooked (news ++ g.journal) = Gateway.overlooked g.journal := by
    intro news aside
    induction news with
    | nil => exact ⟨fun _ => rfl, rfl⟩
    | cons event rest ih =>
      obtain ⟨holder, same⟩ := ih fun other mem => aside other (List.mem_cons_of_mem _ mem)
      obtain ⟨mine, unread⟩ := aside event List.mem_cons_self
      rw [List.cons_append]
      exact ⟨fun c => ((unheard_cons mine).holder c).trans (holder c),
        (overlooked_cons mine unread _).trans same⟩
  exact
    { replies := replies
      holder := fun c => by rw [journal, (both news aside).1]
      overlooked := by rw [journal, (both news aside).2] }

theorem sameSlots_letIn (g : Gateway) (waiting : Option DispatchId) (queue : QueueId) :
    SameSlots g (g.letIn waiting queue) := by
  rcases letIn_cases g waiting queue with ⟨eq, -⟩ | ⟨caller, d, -, -, eq⟩
  · rw [eq]
    exact .of_same rfl rfl
  · rw [eq]
    exact .of_event rfl rfl rfl rfl

theorem sameSlots_close (g : Gateway) (id : SessionId) (service : Service) :
    SameSlots g (g.close id service) := by
  rw [close]
  split
  · exact .of_same rfl rfl
  · rcases deregister_shape (g := g) id service with
      ⟨current, metrics, -, -, eq⟩ | ⟨members, q, -, -, eq⟩ <;> rw [eq]
    · exact .of_event rfl rfl rfl rfl
    · exact .of_news [.queued service.queue .keepalive (.closing id), .closed id true] rfl rfl
        (by simp [Event.isAside, Event.isReading])

theorem sameSlots_afterTaking (g : Gateway) (id : SessionId) (service : Service)
    (taken : Queue.Taken DispatchId) : SameSlots g (g.afterTaking id service taken) := by
  have popped : SameSlots g ({ g with
      registry := g.registry.setQueue service.queue taken.queue }.record
        (.taken id service.queue taken.frame)) := .of_event rfl rfl rfl rfl
  exact popped.trans (sameSlots_letIn _ _ _)

end SameSlots

/-! ## Steps -/

section Reckons

variable {s : Settings} {g g' : Gateway}

/-- A frame closes the slot under its id, if it is a reply to someone, and no other. -/
theorem reckons_handle (posted : Posted g) (id : SessionId) (t : Session) (service : Service)
    (e : Envelope) : Reckons g (g.handle id t service e) := by
  have read (aside : (Event.received id e).isAside = true) :
      SameSlots g (g.record (.received id e)) :=
    .of_event rfl rfl aside rfl
  rcases handle_cases g id t service e with
    ⟨control, eq⟩ | ⟨ticket, replies, plain, handed, eq⟩ | ⟨replies, plain, missed, eq⟩ |
      ⟨replies, plain, unsolicited, eq⟩ <;> rw [eq]
  · have signal := read (by simp [Event.isAside, Envelope.isReply, control])
    have closed := signal.trans (sameSlots_close _ id service)
    exact .keeps (closed.trans (.of_same rfl rfl))
  · obtain ⟨named, waits, same⟩ := Correlation.Table.deliver_eq_delivered handed
    have reply := Envelope.isReply_iff.2 ⟨plain, named⟩
    exact .closes e.correlationId (congrArg (·.slots) same)
      (fun c => holder?_received id reply c) (if_pos reply)
  · obtain ⟨-, free⟩ := Correlation.Table.deliver_eq_noWaiter missed
    have nobody := posted.holder?_eq_none free
    refine .keeps ⟨rfl, (unheard_received nobody).holder, ?_⟩
    show (if _ then _ else _) = _
    rw [nobody]
    split <;> rfl
  · have nameless := Correlation.Table.deliver_eq_unsolicited unsolicited
    have heeded := read (by simp [Event.isAside, Envelope.isReply, Envelope.expectsReply, nameless])
    exact .keeps (heeded.trans (.of_same rfl rfl))

theorem reckons_of_deed (posted : Posted g) {id : SessionId} {m : Move} (deed : Deed g id m g') :
    Reckons g g' := by
  cases deed with
  | dismissed reason how here greeting => exact .keeps (.of_event rfl rfl rfl rfl)
  | enrolled e rest here greeting room => exact .keeps (.of_event rfl rfl rfl rfl)
  | broke here greeting => exact .keeps (.of_same rfl rfl)
  | @finished m t service reason how here serving =>
    obtain ⟨-, replies, -, journal⟩ := finish_rest g id t service reason
    exact .keeps ((sameSlots_close g id service).trans (.of_event replies journal rfl rfl))
  | handled here serving read => exact reckons_handle posted _ _ _ _
  | acquired here serving waiting free => exact .keeps (.of_same rfl rfl)
  | retired here serving between notified => exact .keeps (.of_same rfl rfl)
  | looked here serving idle current => exact .keeps (.of_event rfl rfl rfl rfl)
  | missed here serving reaching empty => exact .keeps (.of_same rfl rfl)
  | @took t service taken bytes here serving reaching first encoded =>
    exact .keeps ((sameSlots_afterTaking g id service taken).trans (.of_same rfl rfl))
  | @skipped t service taken cause here serving reaching first unwritable =>
    exact .keeps ((sameSlots_afterTaking g id service taken).trans (.of_event rfl rfl rfl rfl))
  | wrote here serving writing whole pos room le => exact .keeps (.of_event rfl rfl rfl rfl)

theorem reckons_of_turn {id : DispatchId} {d : Dispatch} {m : Move} (turn : Turn g id d m g') :
    Reckons g g' := by
  cases turn with
  | passed placing chosen shut => exact .keeps (.of_same rfl rfl)
  | placed placing chosen live pushed => exact .keeps (.of_event rfl rfl rfl rfl)
  | joined placing chosen live full => exact .keeps (.of_same rfl rfl)
  | movedOn blocked shut => exact .keeps (.of_same rfl rfl)
  | concluded certain =>
    have due : (g.reports.insert (.dispatch id) none).get? (.dispatch id) = some none := by
      rw [Assoc.get?_insert, if_pos rfl]
    refine .owes due rfl fun {c other} _ slot => ?_
    · have slot : (if correlation? id g.journal = some c then none else holder? c g.journal) =
        some other := slot
      split at slot
      · exact absurd slot (by simp)
      · exact slot
  | _ => exact .keeps (.of_event rfl rfl rfl rfl)

/-- Nothing happens to slots afterwards. -/
theorem Reckons.trans_keeps {h : Gateway} (reckons : Reckons g h) (same : SameSlots h g')
    (reports : g'.reports = h.reports) : Reckons g g' := by
  cases reckons with
  | keeps first => exact .keeps (first.trans same)
  | closes c slots holder overlooked =>
    refine .closes c ?_ (fun c' => (same.holder c').trans (holder c')) (same.overlooked.trans overlooked)
    rw [same.replies, slots]
  | owes due overlooked holder =>
    refine .owes (by rw [reports, due]) (same.overlooked.trans overlooked) fun lt slot => ?_
    exact holder lt ((same.holder _).symm.trans slot)

theorem reckons_dispatch (group : String) (e : Envelope) (timeout : Nat) :
    Reckons g (g.dispatch group e timeout) := by
  -- the slot is that of a dispatch that was not there before
  have opens {h : Gateway}
      (reports : h.reports = g.reports.insert (.dispatch g.dispatches.length) none)
      (journal : h.journal = .opened g.dispatches.length g.ids.next.1 :: g.journal) :
      Reckons g h := by
    have due : h.reports.get? (.dispatch g.dispatches.length) = some none := by
      rw [reports, Assoc.get?_insert, if_pos rfl]
    refine .owes due (by rw [journal]; rfl) fun {c other} lt slot => ?_
    · rw [journal, holder?_opened] at slot
      split at slot
      · exact absurd (Option.some.inj slot) (Nat.ne_of_gt lt)
      · exact slot
  have starts := starts_dispatch g group e timeout
  generalize g.dispatch group e timeout = g' at starts ⊢
  cases starts with
  | collides taken => exact .keeps (.of_event rfl (journal_resolve _ _ _) rfl rfl)
  | @fails claim replies cause opened =>
    have slotted := opens (h := g.slotted (g.newDispatch group e timeout) replies) rfl
      (journal_slotted _ _)
    exact slotted.trans_keeps (.of_event rfl (journal_resolve _ _ _) rfl rfl) rfl
  | @places claim replies left opened =>
    have slotted := opens (h := g.slotted (g.newDispatch group e timeout) replies) rfl
      (journal_slotted _ _)
    exact slotted.trans_keeps (.of_same rfl rfl) rfl

/-- A caller that goes away takes the slot of its dispatch with it. -/
theorem reckons_forsaken (posted : Posted g) {id : DispatchId} {d : Dispatch}
    (here : g.dispatches[id]? = some d) (waits : d.progress.isSettled = false) :
    Reckons g ((((g.withdraw id d).release d).setDispatch id
      { d with progress := .cancelled }).record (.cancelled id)) := by
  obtain ⟨-, undecided⟩ := Progress.isSettled_eq_false.1 waits
  obtain ⟨claim, claimed⟩ := (posted.known here).exists_claim undecided
  have named : correlation? id g.journal = some claim.id := by
    rw [posted.named, claim?_of_here here, claimed, Option.map_some]
  refine .closes claim.id ?_ (holder?_last (Or.inr rfl) named) ?_
  · show ((g.withdraw id d).release d).replies.slots = _
    rw [replies_release claimed, slots_drop]
    rfl
  · show ((correlation? id g.journal).bind fun c => holder? c g.journal).toList ++
      overlooked g.journal = _
    rw [named, Option.bind_some]

end Reckons

/-! ## Runs -/

section Run

variable {s : Settings} {g g' : Gateway} {id : DispatchId}

theorem replies_letIn (waiting : Option DispatchId) (queue : QueueId) :
    (g.letIn waiting queue).replies = g.replies :=
  (sameSlots_letIn g waiting queue).replies

/-- No id has two slots. -/
theorem nodup_slots (attained : Attained s g) : (g.replies.slots.map (·.1)).Nodup := by
  -- a slot comes under an id that has none, and all other changes filter the slots
  have filtered {t : Correlation.Table} (nodup : (t.slots.map (·.1)).Nodup) (c : CorrelationId) :
      ((t.withoutSlot c).slots.map (·.1)).Nodup :=
    nodup.sublist (List.filter_sublist.map _)
  have released {g : Gateway} (nodup : (g.replies.slots.map (·.1)).Nodup) (d : Dispatch) :
      ((g.release d).replies.slots.map (·.1)).Nodup := by
    cases claimed : d.claim with
    | none =>
      rw [release, claimed]
      exact nodup
    | some claim =>
      rw [replies_release claimed]
      exact filtered nodup claim.id
  induction attained with
  | refl => exact List.nodup_nil
  | @tail g g' attained c nodup =>
    cases c with
    | answered here serving read plain handed =>
      obtain ⟨-, -, rfl⟩ := Correlation.Table.deliver_eq_delivered handed
      exact filtered nodup _
    | begun group e timeout opened seen fits =>
      obtain ⟨-, free, -, rfl⟩ := Correlation.Table.open?_eq_some opened
      show ((g.replies.slots ++ _).map _).Nodup
      rw [List.map_append, List.map_singleton, List.nodup_append_comm, List.singleton_append,
        List.nodup_cons, Correlation.Table.mem_ids_iff]
      refine ⟨?_, nodup⟩
      rintro ⟨ticket, waits⟩
      exact absurd (free.symm.trans waits) (by simp)
    | @concluded id d result here certain => exact released nodup d
    | @forsaken id d here live undecided => exact released (g := g.withdraw id d) nodup d
    | took here serving reaching popped encoded =>
      rw [replies_letIn]
      exact nodup
    | skipped here serving reaching popped unwritable =>
      show ((Gateway.replies (letIn _ _ _)).slots.map _).Nodup
      rw [replies_letIn]
      exact nodup
    | _ => exact nodup

/-- Of the slots one goes away under an id that somebody holds, and none under another. -/
theorem size_of_closed (attained : Attained s g) {c : CorrelationId}
    (slots : g'.replies.slots = g.replies.slots.filter fun slot => slot.1 != c) :
    g'.replies.size + (holder? c g.journal).toList.length = g.replies.size := by
  have posted := posted_of_attained attained
  have distinct := nodup_slots attained
  have count : g'.replies.size = ((g.replies.slots.map (·.1)).filter (· != c)).length := by
    rw [Correlation.Table.size, slots, List.filter_map, List.length_map]
    rfl
  have all : g.replies.size = (g.replies.slots.map (·.1)).length := (List.length_map _).symm
  rw [count, ← distinct.erase_eq_filter, all]
  cases waits : g.replies.waiter? c with
  | none =>
    have free : c ∉ g.replies.slots.map (·.1) := by
      rw [Correlation.Table.mem_ids_iff, waits]
      simp
    rw [posted.holder?_eq_none waits, List.erase_of_not_mem free]
    rfl
  | some ticket =>
    have mem : c ∈ g.replies.slots.map (·.1) := Correlation.Table.mem_ids_iff.2 ⟨ticket, waits⟩
    rw [posted.slots, Option.bind_eq_some_iff] at waits
    obtain ⟨id, slot, -⟩ := waits
    rw [slot, List.length_erase_of_mem mem]
    have pos := List.length_pos_of_mem mem
    exact Nat.sub_add_cancel pos

/-- What happens keeps the account of the slots. -/
theorem Reckoned.step (attained : Attained s g) (reckoned : Reckoned g) (unread : Unmeasured g g')
    (reckons : Reckons g g') : Reckoned g' := by
  have due : (∃ id, g.reports.get? (.dispatch id) = some none) →
      ∃ id, g'.reports.get? (.dispatch id) = some none := fun ⟨id, due⟩ => ⟨id, unread.due due⟩
  cases reckons with
  | keeps same =>
    refine ⟨?_, fun mem => ?_, fun mem => ?_⟩
    · rw [same.replies, same.overlooked, unread.tallied]
      exact reckoned.read.imp_left due
    · exact unread.unfinished (reckoned.unfinished (same.overlooked ▸ mem))
    · rw [same.holder]
      exact reckoned.slotless (same.overlooked ▸ mem)
  | closes c slots holder overlooked =>
    have size := size_of_closed attained slots
    -- whoever was overlooked now had the slot, and had not returned
    have either : ∀ {id}, id ∈ Gateway.overlooked g'.journal →
        holder? c g.journal = some id ∨ id ∈ Gateway.overlooked g.journal := by
      intro id mem
      rw [overlooked, List.mem_append, Option.mem_toList] at mem
      exact mem
    refine ⟨?_, fun {id} mem => unread.unfinished ?_, fun {id c'} mem => ?_⟩
    · rw [overlooked, List.length_append, unread.tallied]
      exact reckoned.read.imp due (by omega)
    · rcases either mem with slot | before
      · obtain ⟨-, x, here, live, -⟩ := (posted_of_attained attained).holds slot
        exact ⟨x, here, Or.inl (returned?_eq_none_of_isOpen live)⟩
      · exact reckoned.unfinished before
    · rw [holder]
      split
      · simp
      · rename_i other
        rcases either mem with slot | before
        · intro slot'
          -- it had one slot only
          obtain ⟨claim, claimed, named⟩ := (posted_of_attained attained).claim_of_holder slot
          exact (posted_of_attained attained).ne_of_holder slot' claimed (named ▸ other) rfl
        · exact reckoned.slotless before
  | @owes id mine overlooked holder =>
    refine ⟨Or.inl ⟨id, mine⟩, fun mem => ?_, fun {other c} mem slot => ?_⟩
    · exact unread.unfinished (reckoned.unfinished (overlooked ▸ mem))
    · rw [overlooked] at mem
      obtain ⟨x, here, -⟩ := reckoned.unfinished mem
      exact reckoned.slotless mem (holder (List.getElem?_eq_some_iff.1 here).1 slot)

/-- A number is read. If it is that of the slots, they are counted, and nobody is overlooked from then
on. -/
theorem Reckoned.tallies (attained : Attained s g) (reckoned : Reckoned g) (r : Reporter) :
    Reckoned ({ g with reports := g.reports.insert r (some (g.reading r)) }.record
      (.tallied r (g.reading r))) := by
  cases r with
  | dispatch id =>
    exact ⟨Or.inr (if_pos rfl).symm, fun mem => absurd mem List.not_mem_nil,
      fun mem => absurd mem List.not_mem_nil⟩
  | session id =>
    have kept {other : DispatchId} (due : g.reports.get? (.dispatch other) = some none) :=
      due_of_tallied due (r := .session id) (by simp) (g.reading (.session id))
    refine reckoned.step attained ⟨kept, rfl, ?_⟩ (.keeps ⟨rfl, fun _ => rfl, rfl⟩)
    rintro other ⟨x, here, unfinished⟩
    exact ⟨x, here, unfinished.imp_right kept⟩

theorem Reckoned.publishes (attained : Attained s g) (reckoned : Reckoned g) {r : Reporter}
    {number : Nat} (due : g.reports.get? r = some (some number)) :
    Reckoned (({ g with reports := g.reports.erase r }.gauge r.series number).record
      (.published r number)) := by
  refine reckoned.step attained ⟨due_of_published due, rfl, ?_⟩ (.keeps ⟨rfl, fun _ => rfl, rfl⟩)
  rintro other ⟨x, here, unfinished⟩
  exact ⟨x, here, unfinished.imp_right (due_of_published due)⟩

theorem Reckoned.occurs (attained : Attained s g) (reckoned : Reckoned g) {a : Action}
    (occurs : Occurs g a g') : Reckoned g' := by
  have posted := posted_of_attained attained
  have ledger := ledger_of_attained attained
  -- neither a slot nor a gauge is concerned
  have aside {h : Gateway} (same : SameSlots g h) (reports : h.reports = g.reports)
      (dispatches : h.dispatches = g.dispatches)
      (tallied : lastTallied .correlationsPending h.journal =
        lastTallied .correlationsPending g.journal) : Reckoned h := by
    refine reckoned.step attained ⟨fun due => by rw [reports, due], tallied, fun unfinished => ?_⟩
      (.keeps same)
    rwa [Unfinished, reports, dispatches]
  cases occurs with
  | deed how mem free deed =>
    exact reckoned.step attained (unmeasured_of_deed ledger deed) (reckons_of_deed posted deed)
  | turn here free turn =>
    exact reckoned.step attained (unmeasured_of_turn turn) (reckons_of_turn turn)
  | @tallies r due => exact reckoned.tallies attained r
  | publishes due => exact reckoned.publishes attained due
  | beats id =>
    obtain ⟨registry, metrics, news, shape, each⟩ := beatAll_shape (g := g) id
    have quiet : ∀ event ∈ news, event.isAside = true ∧ event.isReading = false := by
      intro event mem
      obtain ⟨queue, rfl⟩ := each event mem
      exact ⟨rfl, rfl⟩
    have journal : (g.beatAll id).journal = news ++ g.journal := by rw [shape]
    refine aside (.of_news news (by rw [shape]) journal quiet) (by rw [shape]) (by rw [shape]) ?_
    show lastTallied _ (g.beatAll id).journal = _
    rw [journal]
    exact (readings_of_news (fun event mem => (quiet event mem).2) g.journal).2.1 _
  | stops id => exact aside (.of_event rfl rfl rfl rfl) rfl rfl rfl
  | starts group e timeout =>
    exact reckoned.step attained (unmeasured_dispatch group e timeout)
      (reckons_dispatch group e timeout)
  | @forsakes id d here free waits =>
    have unread : Unread (.dispatch id) g ((((g.withdraw id d).release d).setDispatch id
        { d with progress := .cancelled }).record (.cancelled id)) := by
      obtain ⟨queues, -, same⟩ := OnlyQueues.withdraw g id d
      refine .of_event rfl rfl rfl ?_
      show (g.withdraw id d).registry.nodes = _
      rw [same]
    exact reckoned.step attained (unread.unmeasured_of_set rfl (Or.inl rfl))
      (reckons_forsaken posted here waits)
  | _ => exact aside (.of_same rfl rfl) rfl rfl rfl

theorem reckoned_of_reachable (h : Reachable s g) : Reckoned g := by
  refine holds_of_reachable ⟨Or.inr rfl, fun mem => ?_, fun mem => ?_⟩
    (fun reached reckoned occurs => ?_) h
  · exact absurd mem (by simp [start, overlooked])
  · exact absurd mem (by simp [start, overlooked])
  · exact reckoned.occurs (attained_of_reachable reached) occurs

/-! ## Waiting dispatches -/

theorem isWaiting_iff {x : Dispatch} :
    g.isWaiting x = true ↔ x.progress.isOpen = true ∧ ∀ e, g.look x ≠ .reply e := by
  rw [isWaiting, Bool.and_eq_true]
  refine and_congr_right fun _ => ?_
  cases g.look x with
  | reply e => simp
  | _ => simp

/-- As long as there are ids left, there are as many open slots as dispatches that wait. -/
theorem size_eq_waiting (attained : Attained s g) (few : g.dispatches.length < 2 ^ 48) :
    g.replies.size = g.dispatches.countP g.isWaiting := by
  have ids : (g.dispatches.map (·.request.correlationId)).Nodup := by
    rw [List.Nodup, List.pairwise_map, List.pairwise_iff_getElem]
    intro i j iLt jLt lt same
    have equal := correlationId_inj attained few (List.getElem?_eq_getElem iLt)
      (List.getElem?_eq_getElem jLt) same
    exact absurd equal (Nat.ne_of_lt lt)
  have distinct : ((g.dispatches.filter g.isWaiting).map (·.request.correlationId)).Nodup :=
    ids.sublist (List.filter_sublist.map _)
  have perm : (g.replies.slots.map (·.1)).Perm
      ((g.dispatches.filter g.isWaiting).map (·.request.correlationId)) := by
    refine (List.perm_ext_iff_of_nodup (nodup_slots attained) distinct).2 fun c => ?_
    rw [mem_slots_iff attained few, List.mem_map]
    constructor
    · rintro ⟨id, x, here, named, waits⟩
      exact ⟨x, List.mem_filter.2 ⟨List.mem_of_getElem? here, isWaiting_iff.2 waits⟩, named⟩
    · rintro ⟨x, mem, named⟩
      obtain ⟨known, waits⟩ := List.mem_filter.1 mem
      obtain ⟨id, here⟩ := List.mem_iff_getElem?.1 known
      exact ⟨id, x, here, named, isWaiting_iff.1 waits⟩
  have length := perm.length_eq
  rw [List.length_map, List.length_map, ← List.countP_eq_length_filter] at length
  exact length

/-- An open dispatch whose slot was overlooked has its reply. -/
theorem Reckoned.replied (reckoned : Reckoned g) (attained : Attained s g)
    (few : g.dispatches.length < 2 ^ 48) (missed : id ∈ overlooked g.journal) {x : Dispatch}
    (here : g.dispatches[id]? = some x) (live : x.progress.isOpen = true) :
    ∃ e, g.look x = .reply e := by
  by_contra unanswered
  have posted := posted_of_attained attained
  obtain ⟨claim, claimed, waits⟩ := waiter?_of_waiting attained few here live
    fun e seen => unanswered ⟨e, seen⟩
  rw [posted.slots, Option.bind_eq_some_iff] at waits
  obtain ⟨holder, slot, ticket⟩ := waits
  obtain ⟨claim', claimed', same⟩ := Option.map_eq_some_iff.1 ticket
  obtain rfl := posted.apart claimed' ((claim?_of_here here).trans claimed) same
  exact reckoned.slotless missed slot

/-- In a quiescent gateway only dispatches that lost their callers, and dispatches that still wait for
room and have their replies, can have been overlooked. -/
theorem Quiescent.fate_of_overlooked (quiet : Quiescent g) (h : Reachable s g)
    (few : g.dispatches.length < 2 ^ 48) (missed : id ∈ overlooked g.journal) :
    ∃ x, g.dispatches[id]? = some x ∧ (x.progress = .cancelled ∨
      ∃ queue left e, x.progress = .blocked queue left ∧ g.look x = .reply e) := by
  have reckoned := reckoned_of_reachable h
  obtain ⟨x, here, unfinished⟩ := reckoned.unfinished missed
  have replied := reckoned.replied (attained_of_reachable h) few missed here
  have unreturned : x.returned? = none := by
    refine unfinished.resolve_right fun due => ?_
    have busy := quiet.isReporting (.dispatch id)
    rw [Gateway.isReporting, due] at busy
    exact absurd busy (by simp)
  refine ⟨x, here, ?_⟩
  -- a dispatch that has its reply, or has not looked at all candidates, has a move
  cases progress : x.progress with
  | placing left =>
    cases left with
    | nil =>
      have move : g.exhaust id = none := quiet.step? (.exhaust id)
      rw [exhaust, here] at move
      simp [progress] at move
    | cons c left =>
      obtain ⟨g', placed⟩ := place_zero here progress
      exact absurd ((quiet.step? (.place id 0)).symm.trans placed) (by simp)
  | blocked queue left =>
    obtain ⟨e, seen⟩ := replied (by rw [progress]; rfl)
    exact Or.inr ⟨queue, left, e, rfl, seen⟩
  | awaiting =>
    obtain ⟨e, seen⟩ := replied (by rw [progress]; rfl)
    have move : g.collect id = none := quiet.step? (.collect id)
    rw [collect, here] at move
    simp [progress, seen] at move
  | resolved result =>
    have move : g.conclude id = none := quiet.step? (.conclude id)
    rw [conclude, here] at move
    simp [progress] at move
  | done result => exact absurd unreturned (by simp [Dispatch.returned?, progress])
  | cancelled => exact Or.inl rfl

end Run

/-- The gauge of pending replies shows the number that was published last, which was the number of open
slots when it was read. In a quiescent gateway the number that was read last counts the open slots and
those that were overlooked since, so the gauge is right exactly if the number that was published last
falls short of the one that was read last by the number of those that were overlooked. As long as there
are ids left, the open slots are as many as the dispatches that wait for a reply, and in a quiescent
gateway only two kinds of dispatches can have been overlooked: those that lost their callers, and those
that still wait for room in a queue and have their replies. -/
theorem gauge_right_iff {s : Settings} {g : Gateway} (h : Reachable s g) : SlotsShown s g := by
  have lags : Lags s g .correlationsPending := lags_of_reachable h rfl
  have latest : Quiescent g → g.replies.size + (overlooked g.journal).length =
      lastTallied .correlationsPending g.journal := by
    intro quiet
    refine (reckoned_of_reachable h).read.resolve_left ?_
    rintro ⟨id, due⟩
    have busy := quiet.isReporting (.dispatch id)
    rw [isReporting, due] at busy
    exact absurd busy (by simp)
  refine ⟨lags, latest, fun quiet => ?_, fun few => ?_, fun few quiet id missed => ?_⟩
  · have counted := latest quiet
    rw [lags.shown, Nat.cast_inj]
    omega
  · exact size_eq_waiting (attained_of_reachable h) few
  · exact quiet.fate_of_overlooked h few missed

/-- A dispatch has its request written and then loses its caller. -/
def forsakenRun : List Action :=
  join 0 100 keepaliveFrame ++ [.move (.receive 0)] ++
    ask 0 "default_group" { command := .getItem } 1000 ++ [.move (.place 0 0)] ++ fetch 0 ++
    [.move (.write 0), .input (.cancel 0)]

/-- Its slot is overlooked: the gauge shows one that is not there. -/
theorem gauge_right_iff_forsakenRun :
    Reachable sample (play sample forsakenRun) ∧ Quiescent (play sample forsakenRun) ∧
      overlooked (play sample forsakenRun).journal = [0] ∧
      (play sample forsakenRun).metrics.value .correlationsPending ≠
        (play sample forsakenRun).replies.size := by
  have reached := reachable_play sample forsakenRun
  have quiet : Quiescent (play sample forsakenRun) :=
    quiescent_iff_advance?.2 (Option.isNone_iff_eq_none.1 (by decide +kernel))
  have missed : overlooked (play sample forsakenRun).journal = [0] := by decide +kernel
  have published : lastPublished .correlationsPending (play sample forsakenRun).journal = 1 := by
    decide +kernel
  have read : lastTallied .correlationsPending (play sample forsakenRun).journal = 1 := by
    decide +kernel
  refine ⟨reached, quiet, missed, fun right => ?_⟩
  have none := ((gauge_right_iff reached).right quiet).1 right
  rw [missed, published, read] at none
  exact absurd none (by simp)

/-- In a quiescent gateway where a dispatch was made, the gauge can differ from the number of open slots
and from the number of dispatches that wait for a reply. -/
theorem exists_stale_gauge :
    ¬ ∀ {s : Settings} {g : Gateway}, Reachable s g → Quiescent g → g.dispatches ≠ [] →
      g.metrics.value .correlationsPending = g.replies.size ∧
        g.metrics.value .correlationsPending = g.dispatches.countP g.isWaiting := by
  intro claim
  have reached := reachable_play sample forsakenRun
  have quiet : Quiescent (play sample forsakenRun) :=
    quiescent_iff_advance?.2 (Option.isNone_iff_eq_none.1 (by decide +kernel))
  have made : (play sample forsakenRun).dispatches.length = 1 := by decide +kernel
  have shown : (play sample forsakenRun).metrics.value .correlationsPending = 1 := by decide +kernel
  have slots : (play sample forsakenRun).replies.size = 0 := by decide +kernel
  obtain ⟨right, -⟩ := claim reached quiet (List.ne_nil_of_length_pos (made ▸ Nat.one_pos))
  rw [shown, slots] at right
  exact absurd right (by simp)

/-- Two dispatches find a group deserted. The first has given back its slot and the second has not when
the first reads the number of open slots. It sets the gauge after the second one. -/
def overtakenRun : List Action :=
  ask 0 "nobody" { command := .getItem } 1000 ++ ask 1 "nobody" { command := .getItem } 1000 ++
    [.move (.conclude 0), .move (.tally (.dispatch 0))] ++ returned 1 ++
    [.move (.publish (.dispatch 0))]

/-- The gauge can be wrong in a quiescent gateway although all dispatches returned. -/
theorem exists_crossed_gauge :
    ∃ g, Reachable sample g ∧ Quiescent g ∧ overlooked g.journal = [] ∧
      (∀ d ∈ g.dispatches, d.progress.isSettled = true) ∧ g.replies.size = 0 ∧
      g.metrics.value .correlationsPending = 1 :=
  ⟨play sample overtakenRun, reachable_play _ _,
    quiescent_iff_advance?.2 (Option.isNone_iff_eq_none.1 (by decide +kernel)), by decide +kernel,
    by decide +kernel, by decide +kernel, by decide +kernel⟩

end Switchboard.Gateway
