import Mathlib.Tactic.ByContra
import Switchboard.Proofs.Ledger
import Switchboard.Proofs.Slots

/-!
# The table of slots over runs

In every state the table of slots agrees with what the journal tells (`Posted`): a slot is open for
the dispatch that the journal names, the reply that came for an open dispatch waits under its ticket,
and a dispatch whose result is a reply has the one that came for it. A dispatch that fails although a
reply came for it had not got its request on a queue, or its failure was certain before the reply came.

Main results: `posted_of_attained`, `repliesDropped_of_attained`.
-/

set_option autoImplicit false

namespace Switchboard.Gateway

/-! ## The table agrees with the journal -/

/-- The hold of a dispatch on its correlation id. -/
def claim? (g : Gateway) (id : DispatchId) : Option Correlation.Claim :=
  (g.dispatches[id]?).bind (·.claim)

/-- What the table and the journal say of a dispatch. -/
structure Told (replies : Correlation.Table) (journal : List Event) (id : DispatchId)
    (x : Dispatch) : Prop where
  stamp : ∀ {c}, x.claim = some c → c.id = x.request.correlationId
  /-- Only a dispatch whose id was taken has no claim. -/
  unclaimed : x.claim = none →
    x.progress.result? = some (.error (.collision x.request.correlationId))
  /-- The reply of an open dispatch waits for it. -/
  handed : x.progress.isOpen = true → ∀ {c}, x.claim = some c →
    replies.replies.lookup c.ticket = answer? id journal
  unplaced : x.progress.isPlacing = true → ¬ Queued id journal
  decided : ∀ {result}, x.progress.result? = some result → .resolved id result ∈ journal
  returned : ∀ {r}, x.progress.result? = some (.ok r) → answer? id journal = some r
  failed : ∀ {cause}, x.progress.result? = some (.error cause) →
    ¬ Queued id journal ∨
      ∀ {e before}, Answers journal id e before → .resolved id (.error cause) ∈ before

/-- Slots are open where the journal says so, and replies are where it says they went. -/
structure Posted (g : Gateway) : Prop where
  named : ∀ id, correlation? id g.journal = (g.claim? id).map (·.id)
  issued : ∀ {id c}, g.claim? id = some c → c.ticket < g.replies.nextTicket
  /-- No two dispatches have the same ticket. -/
  apart : ∀ {id id' c c'}, g.claim? id = some c → g.claim? id' = some c' → c.ticket = c'.ticket →
    id = id'
  slots : ∀ c, g.replies.waiter? c =
    (holder? c g.journal).bind fun id => (g.claim? id).map (·.ticket)
  /-- A dispatch with an open slot is open and has no reply yet. -/
  holds : ∀ {c id}, holder? c g.journal = some id → answer? id g.journal = none ∧
    ∃ x, g.dispatches[id]? = some x ∧ x.progress.isOpen = true ∧ x.claim.map (·.id) = some c
  fresh : ∀ {ticket}, g.replies.nextTicket ≤ ticket → g.replies.replies.lookup ticket = none
  known : ∀ {id : DispatchId} {x}, g.dispatches[id]? = some x → Told g.replies g.journal id x
  unknown : ∀ {id : DispatchId}, g.dispatches[id]? = none →
    answer? id g.journal = none ∧ ¬ Queued id g.journal
  single : Single g.journal

section Posted

variable {g g' : Gateway}

theorem claim?_eq_some {id : DispatchId} {c : Correlation.Claim} :
    g.claim? id = some c ↔ ∃ x, g.dispatches[id]? = some x ∧ x.claim = some c :=
  Option.bind_eq_some_iff

theorem claim?_of_here {id : DispatchId} {x : Dispatch} (here : g.dispatches[id]? = some x) :
    g.claim? id = x.claim := by
  rw [claim?, here, Option.bind_some]

/-- A dispatch that changes its progress keeps its claim. -/
theorem claim?_of_set {id : DispatchId} {x : Dispatch} {progress : Progress}
    (here : g.dispatches[id]? = some x)
    (dispatches : g'.dispatches = g.dispatches.set id { x with progress }) (id' : DispatchId) :
    g'.claim? id' = g.claim? id' := by
  obtain ⟨lt, -⟩ := List.getElem?_eq_some_iff.1 here
  unfold claim?
  rw [dispatches, List.getElem?_set]
  by_cases same : id = id'
  · subst same
    rw [if_pos rfl, if_pos lt, here]
    rfl
  · rw [if_neg same]

theorem claim?_of_concat {x : Dispatch} (dispatches : g'.dispatches = g.dispatches ++ [x])
    (id : DispatchId) :
    g'.claim? id = if id = g.dispatches.length then x.claim else g.claim? id := by
  unfold claim?
  rw [dispatches]
  rcases Nat.lt_trichotomy id g.dispatches.length with lt | rfl | gt
  · rw [List.getElem?_append_left lt, if_neg (Nat.ne_of_lt lt)]
  · rw [List.getElem?_concat_length, if_pos rfl, Option.bind_some]
  · rw [if_neg (Nat.ne_of_gt gt), List.getElem?_eq_none (Nat.le_of_lt gt), List.getElem?_eq_none]
    rw [List.length_append]
    exact gt

theorem Told.congr {replies replies' : Correlation.Table} {journal journal' : List Event}
    {id : DispatchId} {x : Dispatch} (told : Told replies journal id x)
    (noNews : NoNews id journal journal')
    (kept : ∀ {c}, x.progress.isOpen = true → x.claim = some c →
      replies'.replies.lookup c.ticket = replies.replies.lookup c.ticket) :
    Told replies' journal' id x where
  stamp := told.stamp
  unclaimed := told.unclaimed
  handed live {_} claim := (kept live claim).trans ((told.handed live claim).trans noNews.answer.symm)
  unplaced placing mem := told.unplaced placing (noNews.queued mem)
  decided certain := noNews.later.subset (told.decided certain)
  returned certain := noNews.answer.trans (told.returned certain)
  failed certain := (told.failed certain).imp (fun never mem => never (noNews.queued mem))
    fun late _ _ h => late (noNews.answers h)

theorem Told.unheard {replies : Correlation.Table} {journal journal' : List Event}
    {id : DispatchId} {x : Dispatch} (told : Told replies journal id x)
    (unheard : Unheard journal journal') (queued : Queued id journal' → Queued id journal) :
    Told replies journal' id x :=
  told.congr ⟨unheard.later, unheard.answer id, unheard.answers, queued⟩ fun _ _ => rfl

/-- A dispatch without a result has claimed its id. -/
theorem Told.exists_claim {replies : Correlation.Table} {journal : List Event} {id : DispatchId}
    {x : Dispatch} (told : Told replies journal id x) (undecided : x.progress.result? = none) :
    ∃ c, x.claim = some c := by
  cases claim : x.claim with
  | some c => exact ⟨c, rfl⟩
  | none => exact absurd ((told.unclaimed claim).symm.trans undecided) (by simp)

/-- A dispatch that has just got its id has been told nothing. -/
theorem Told.begun {replies : Correlation.Table} {journal : List Event} {id : DispatchId}
    {x : Dispatch} {claim : Correlation.Claim} (claimed : x.claim = some claim)
    (stamp : claim.id = x.request.correlationId) (placing : x.progress.isPlacing = true)
    (nothing : replies.replies.lookup claim.ticket = none) (unanswered : answer? id journal = none)
    (never : ¬ Queued id journal) : Told replies journal id x := by
  have undecided : x.progress.result? = none := by
    cases progress : x.progress <;> simp_all [Progress.isPlacing, Progress.result?]
  constructor
  case stamp =>
    intro c claim'
    obtain rfl := Option.some.inj (claimed.symm.trans claim')
    exact stamp
  case unclaimed => exact fun none => absurd (claimed.symm.trans none) (by simp)
  case handed =>
    intro _ c claim'
    obtain rfl := Option.some.inj (claimed.symm.trans claim')
    exact nothing.trans unanswered.symm
  case unplaced => exact fun _ => never
  all_goals exact fun certain => absurd (undecided.symm.trans certain) (by simp)

/-- A dispatch that is over with the result it had needs nothing of the table. -/
theorem Told.finished {replies : Correlation.Table} {journal : List Event}
    {id : DispatchId} {x : Dispatch} {progress : Progress} (told : Told replies journal id x)
    (finished : progress.isOpen = false) (same : progress.result? = x.progress.result?) :
    Told replies journal id { x with progress } := by
  refine ⟨told.stamp, fun claim => same.trans (told.unclaimed claim), ?_, ?_,
    fun certain => told.decided (same.symm.trans certain),
    fun certain => told.returned (same.symm.trans certain),
    fun certain => told.failed (same.symm.trans certain)⟩
  · exact fun live => absurd (finished.symm.trans live) (by simp)
  · exact fun placing =>
      absurd (finished.symm.trans (Progress.isOpen_of_isPlacing placing)) (by simp)

theorem posted_start (s : Settings) : Posted (.start s) where
  named _ := rfl
  issued claim := absurd claim (by simp [start, claim?])
  apart claim := absurd claim (by simp [start, claim?])
  slots _ := rfl
  holds h := absurd h (by simp [start, holder?])
  fresh _ := rfl
  known here := absurd here (by simp [start])
  unknown _ := ⟨rfl, fun ⟨_, _, mem⟩ => absurd mem (by simp [start])⟩
  single := single_nil

/-- The dispatch that has the slot under an id has claimed this id. -/
theorem Posted.claim_of_holder (p : Posted g) {c : CorrelationId} {id : DispatchId}
    (slot : holder? c g.journal = some id) : ∃ claim, g.claim? id = some claim ∧ claim.id = c := by
  obtain ⟨-, x, here, -, named⟩ := p.holds slot
  rw [← claim?_of_here here] at named
  exact Option.map_eq_some_iff.1 named

/-- A slot under another id than that of a claim is not that of the dispatch with the claim. -/
theorem Posted.ne_of_holder (p : Posted g) {c : CorrelationId} {id id' : DispatchId}
    {claim : Correlation.Claim} (slot : holder? c g.journal = some id')
    (claimed : g.claim? id = some claim) (other : c ≠ claim.id) : id ≠ id' := by
  rintro rfl
  obtain ⟨claim', claimed', named⟩ := p.claim_of_holder slot
  obtain rfl := Option.some.inj (claimed.symm.trans claimed')
  exact other named.symm

/-- Where nobody waits under an id, no slot is open under it. -/
theorem Posted.holder?_eq_none (p : Posted g) {c : CorrelationId}
    (free : g.replies.waiter? c = none) : holder? c g.journal = none := by
  by_contra slot
  obtain ⟨id, slot⟩ := Option.ne_none_iff_exists'.1 slot
  obtain ⟨claim, claimed, -⟩ := p.claim_of_holder slot
  rw [p.slots, slot, Option.bind_some, claimed] at free
  exact absurd free (by simp)

/-- As long as the claims stay, what they say of names and tickets does too. -/
theorem Posted.of_claims (p : Posted g) (claims : ∀ id, g'.claim? id = g.claim? id)
    (correlation : ∀ id, correlation? id g'.journal = correlation? id g.journal)
    (tickets : g'.replies.nextTicket = g.replies.nextTicket)
    (slots : ∀ c, g'.replies.waiter? c =
      (holder? c g'.journal).bind fun id => (g.claim? id).map (·.ticket))
    (holds : ∀ {c id}, holder? c g'.journal = some id → answer? id g'.journal = none ∧
      ∃ x, g'.dispatches[id]? = some x ∧ x.progress.isOpen = true ∧ x.claim.map (·.id) = some c)
    (fresh : ∀ {ticket}, g.replies.nextTicket ≤ ticket →
      g'.replies.replies.lookup ticket = none)
    (known : ∀ {id : DispatchId} {x}, g'.dispatches[id]? = some x →
      Told g'.replies g'.journal id x)
    (unknown : ∀ {id : DispatchId}, g'.dispatches[id]? = none →
      answer? id g'.journal = none ∧ ¬ Queued id g'.journal)
    (single : Single g'.journal) : Posted g' where
  named id := by rw [correlation, claims, p.named]
  issued claim := by
    rw [claims] at claim
    rw [tickets]
    exact p.issued claim
  apart hc hc' := by
    rw [claims] at hc hc'
    exact p.apart hc hc'
  slots c := by
    simp only [claims]
    exact slots c
  holds := holds
  fresh beyond := fresh (tickets ▸ beyond)
  known := known
  unknown := unknown
  single := single

/-! ### Changes that leave the slots alone -/

/-- Nothing happens to claims, slots and replies, and open dispatches that have a slot stay open. -/
theorem Posted.keep (p : Posted g) (claims : ∀ id, g'.claim? id = g.claim? id)
    (replies : g'.replies = g.replies) (unheard : Unheard g.journal g'.journal)
    (stays : ∀ {id : DispatchId} {x}, g.dispatches[id]? = some x → x.progress.isOpen = true →
      x.claim ≠ none →
      ∃ x', g'.dispatches[id]? = some x' ∧ x'.progress.isOpen = true ∧ x'.claim = x.claim)
    (known : ∀ {id : DispatchId} {x}, g'.dispatches[id]? = some x →
      Told g.replies g'.journal id x)
    (unknown : ∀ {id : DispatchId}, g'.dispatches[id]? = none →
      g.dispatches[id]? = none ∧ (Queued id g'.journal → Queued id g.journal)) : Posted g' := by
  apply p.of_claims claims unheard.correlation (by rw [replies])
  case slots =>
    intro c
    rw [replies, unheard.holder]
    exact p.slots c
  case holds =>
    intro c id holder
    rw [unheard.holder] at holder
    obtain ⟨unanswered, x, here, live, named⟩ := p.holds holder
    have claimed : x.claim ≠ none := fun none => absurd named (by simp [none])
    obtain ⟨x', here', live', claim⟩ := stays here live claimed
    rw [unheard.answer]
    exact ⟨unanswered, x', here', live', claim ▸ named⟩
  case fresh =>
    rw [replies]
    exact p.fresh
  case known =>
    rw [replies]
    exact known
  case unknown =>
    intro id missing
    obtain ⟨missing, queued⟩ := unknown missing
    rw [unheard.answer]
    exact (p.unknown missing).imp_right fun never mem => never (queued mem)
  case single => exact p.single.unheard unheard

/-- Nothing happens to the dispatches and the table. -/
theorem Posted.frame (p : Posted g) (dispatches : g'.dispatches = g.dispatches)
    (replies : g'.replies = g.replies) (unheard : Unheard g.journal g'.journal)
    (queued : ∀ {id}, Queued id g'.journal → Queued id g.journal) : Posted g' := by
  apply p.keep (fun id => by rw [claim?, dispatches, claim?]) replies unheard
  · intro id x here live _
    rw [dispatches]
    exact ⟨x, here, live, rfl⟩
  · intro id x here
    rw [dispatches] at here
    exact (p.known here).unheard unheard queued
  · intro id missing
    rw [dispatches] at missing
    exact ⟨missing, queued⟩

/-- A dispatch comes further, and as long as it has a slot it stays open. -/
theorem Posted.advance (p : Posted g) {id : DispatchId} {x : Dispatch} {progress : Progress}
    (here : g.dispatches[id]? = some x) (still : x.claim ≠ none → progress.isOpen = true)
    (dispatches : g'.dispatches = g.dispatches.set id { x with progress })
    (replies : g'.replies = g.replies) (unheard : Unheard g.journal g'.journal)
    (others : ∀ {id'}, id' ≠ id → Queued id' g'.journal → Queued id' g.journal)
    (told : Told g.replies g'.journal id { x with progress }) : Posted g' := by
  obtain ⟨lt, -⟩ := List.getElem?_eq_some_iff.1 here
  apply p.keep (claim?_of_set here dispatches) replies unheard
  · intro id' x' here' live' claimed
    rw [dispatches, List.getElem?_set]
    by_cases same : id = id'
    · subst same
      obtain rfl := Option.some.inj (here.symm.trans here')
      rw [if_pos rfl, if_pos lt]
      exact ⟨_, rfl, still claimed, rfl⟩
    · rw [if_neg same]
      exact ⟨x', here', live', rfl⟩
  · intro id' x' here'
    rcases getElem?_set_cases (dispatches ▸ here') with ⟨rfl, rfl⟩ | ⟨other, old⟩
    · exact told
    · exact (p.known old).unheard unheard (others other)
  · intro id' missing
    have beyond := getElem?_eq_none_of_set (dispatches ▸ missing)
    refine ⟨beyond, others ?_⟩
    rintro rfl
    exact absurd (here.symm.trans beyond) (by simp)

/-- A dispatch that waits for something comes further, and still waits for something. -/
theorem Posted.turn (p : Posted g) {id : DispatchId} {x : Dispatch} {progress : Progress}
    (here : g.dispatches[id]? = some x) (waits : x.progress.isSettled = false)
    (still : progress.isSettled = false)
    (dispatches : g'.dispatches = g.dispatches.set id { x with progress })
    (replies : g'.replies = g.replies) (unheard : Unheard g.journal g'.journal)
    (others : ∀ {id'}, id' ≠ id → Queued id' g'.journal → Queued id' g.journal)
    (mine : progress.isPlacing = true → ¬ Queued id g'.journal) : Posted g' := by
  obtain ⟨live, undecided⟩ := Progress.isSettled_eq_false.1 waits
  obtain ⟨live', undecided'⟩ := Progress.isSettled_eq_false.1 still
  have told := p.known here
  refine p.advance here (fun _ => live') dispatches replies unheard others
    ⟨told.stamp, fun none => ?_, fun _ {_} claim => ?_, mine, ?_, ?_, ?_⟩
  · exact absurd ((told.unclaimed none).symm.trans undecided) (by simp)
  · rw [unheard.answer]
    exact told.handed live claim
  all_goals exact fun certain => absurd (undecided'.symm.trans certain) (by simp)

/-- A dispatch fails at once: it never had a slot. -/
theorem Posted.collided (p : Posted g) {x : Dispatch} {cause : DispatchError}
    (unclaimed : x.claim = none) (certain : x.progress.result? = some (.error cause))
    (taken : cause = .collision x.request.correlationId)
    (dispatches : g'.dispatches = g.dispatches ++ [x]) (replies : g'.replies = g.replies)
    (journal : g'.journal = .resolved g.dispatches.length (.error cause) :: g.journal) :
    Posted g' := by
  have latest : g.dispatches[g.dispatches.length]? = none :=
    List.getElem?_eq_none (Nat.le_refl _)
  have unclaimed' : g.claim? g.dispatches.length = none := by rw [claim?, latest, Option.bind_none]
  have unheard : Unheard g.journal g'.journal := by
    rw [journal]
    exact unheard_cons rfl
  have queued : ∀ {id'}, Queued id' g'.journal → Queued id' g.journal := by
    intro id' h
    rw [journal] at h
    exact h.of_cons.resolve_right (by simp)
  have claims : ∀ id', g'.claim? id' = g.claim? id' := by
    intro id'
    rw [claim?_of_concat dispatches]
    split
    · rename_i same
      rw [same, unclaimed', unclaimed]
    · rfl
  apply p.keep claims replies unheard
  · intro id' x' here live _
    obtain ⟨lt, -⟩ := List.getElem?_eq_some_iff.1 here
    rw [dispatches, List.getElem?_append_left lt]
    exact ⟨x', here, live, rfl⟩
  · intro id' x' here
    rcases getElem?_concat_cases (dispatches ▸ here) with here | ⟨rfl, rfl⟩
    · exact (p.known here).unheard unheard queued
    · refine ⟨fun claim => ?_, fun _ => taken ▸ certain, fun _ {_} claim => ?_, fun _ mem => ?_,
        fun certain' => ?_, fun ok => ?_, fun _ => Or.inl fun mem => ?_⟩
      · exact absurd (unclaimed.symm.trans claim) (by simp)
      · exact absurd (unclaimed.symm.trans claim) (by simp)
      · exact (p.unknown latest).2 (queued mem)
      · obtain rfl := Option.some.inj (certain.symm.trans certain')
        rw [journal]
        exact List.mem_cons_self
      · exact absurd (certain.symm.trans ok) (by simp)
      · exact (p.unknown latest).2 (queued mem)
  · intro id' missing
    exact ⟨getElem?_eq_none_of_concat (dispatches ▸ missing), queued⟩

/-! ### Changes that open, answer or close a slot -/

/-- What the dispatches are told when a reply goes to one of them. -/
theorem Posted.told_answered (p : Posted g) {winner : DispatchId} {x : Dispatch}
    {claim : Correlation.Claim} {e : Envelope} {replies : Correlation.Table} {journal : List Event}
    (here : g.dispatches[winner]? = some x) (live : x.progress.isOpen = true)
    (claimed : g.claim? winner = some claim) (unanswered : answer? winner g.journal = none)
    (lookup : ∀ ticket, replies.replies.lookup ticket =
      (g.replies.replies.lookup ticket).or (if ticket = claim.ticket then some e else none))
    (later : g.journal <:+ journal)
    (answer : ∀ id, answer? id journal = if id = winner then some e else answer? id g.journal)
    (answers : ∀ {id e' before}, Answers journal id e' before →
      Answers g.journal id e' before ∨ id = winner ∧ before = g.journal)
    (queued : ∀ {id}, Queued id journal → Queued id g.journal) {id : DispatchId} {x' : Dispatch}
    (here' : g.dispatches[id]? = some x') : Told replies journal id x' := by
  have told := p.known here'
  by_cases same : id = winner
  · subst same
    obtain rfl := Option.some.inj (here.symm.trans here')
    rw [claim?_of_here here] at claimed
    refine ⟨told.stamp, told.unclaimed, fun _ {c} claim' => ?_,
      fun placing mem => told.unplaced placing (queued mem),
      fun certain => later.subset (told.decided certain), fun certain => ?_, fun certain => ?_⟩
    · obtain rfl := Option.some.inj (claimed.symm.trans claim')
      rw [lookup, answer, told.handed live claimed, unanswered, if_pos rfl, if_pos rfl,
        Option.none_or]
    · exact absurd ((told.returned certain).symm.trans unanswered) (by simp)
    -- if the dispatch has failed already, its failure was certain before this reply came
    · refine (told.failed certain).imp (fun never mem => never (queued mem)) fun late e' before h => ?_
      rcases answers h with old | ⟨-, rfl⟩
      · exact late old
      · exact told.decided certain
  · -- another dispatch has another ticket
    have noNews : NoNews id g.journal journal :=
      ⟨later, (answer id).trans (if_neg same),
        fun h => (answers h).resolve_right fun new => same new.1, queued⟩
    refine told.congr noNews fun {c} _ claim' => ?_
    rw [lookup, if_neg, Option.or_none]
    exact fun eq => same (p.apart ((claim?_of_here here').trans claim') claimed eq)

/-- A reply is read and goes to the dispatch whose slot is open under its id. -/
theorem Posted.answered (p : Posted g) {session : SessionId} {e : Envelope}
    {ticket : Correlation.Ticket} {replies : Correlation.Table}
    (plain : e.command.isControl = false)
    (handed : g.replies.deliver e = (.delivered ticket, replies))
    (dispatches : g'.dispatches = g.dispatches) (table : g'.replies = replies)
    (journal : g'.journal = .delivered ticket e :: .received session e :: g.journal) :
    Posted g' := by
  subst table
  obtain ⟨id, waits, after⟩ := Correlation.Table.deliver_eq_delivered handed
  have reply : e.isReply = true := Envelope.isReply_iff.2 ⟨plain, id⟩
  -- the ticket is that of the dispatch which has the slot, and of no other
  rw [p.slots] at waits
  obtain ⟨winner, slot, ticketed⟩ := Option.bind_eq_some_iff.1 waits
  obtain ⟨claim, claimed, rfl⟩ := Option.map_eq_some_iff.1 ticketed
  obtain ⟨unanswered, x, here, live, -⟩ := p.holds slot
  have named : claim.id = e.correlationId := by
    obtain ⟨claim', claimed', named⟩ := p.claim_of_holder slot
    obtain rfl := Option.some.inj (claimed.symm.trans claimed')
    exact named
  have claims : ∀ id, g'.claim? id = g.claim? id := fun id => by rw [claim?, dispatches, claim?]
  have lookup := Correlation.Table.lookup_deliver handed
  have correlation : ∀ id, correlation? id g'.journal = correlation? id g.journal := by
    intro id
    rw [journal]
    rfl
  have answer : ∀ id, answer? id g'.journal =
      if id = winner then some e else answer? id g.journal := by
    rw [journal]
    exact answer?_received session reply slot
  have holder : ∀ c, holder? c g'.journal =
      if c = e.correlationId then none else holder? c g.journal := by
    rw [journal]
    exact holder?_received session reply
  have queued : ∀ {id}, Queued id g'.journal → Queued id g.journal := by
    intro id h
    rw [journal] at h
    exact (h.of_cons.resolve_right (by simp)).of_cons.resolve_right (by simp)
  have later : g.journal <:+ g'.journal := by
    rw [journal]
    exact (List.suffix_cons _ _).trans (List.suffix_cons _ _)
  have answers : ∀ {id e' before}, Answers g'.journal id e' before →
      Answers g.journal id e' before ∨ id = winner ∧ before = g.journal := by
    intro id e' before h
    rw [journal] at h
    rcases (h.of_cons.resolve_right (by simp)).of_cons with old | ⟨session', same, rfl⟩
    · exact Or.inl old
    · obtain ⟨-, rfl⟩ := Event.received.inj same
      exact Or.inr ⟨Option.some.inj (h.slot.symm.trans slot), rfl⟩
  apply p.of_claims claims correlation (by rw [after]; rfl)
  case slots =>
    intro c
    rw [Correlation.Table.waiter?_deliver handed, holder]
    split
    · rfl
    · exact p.slots c
  case holds =>
    intro c id holds
    rw [holder] at holds
    split at holds
    · exact absurd holds (by simp)
    · rename_i other
      -- the winner has the slot under the id of the reply only
      have loser : winner ≠ id := p.ne_of_holder holds claimed (named ▸ other)
      rw [answer, if_neg loser.symm, dispatches]
      exact p.holds holds
  case fresh =>
    intro ticket beyond
    rw [lookup, p.fresh beyond, if_neg]
    · rfl
    · rintro rfl
      exact absurd beyond (Nat.not_le_of_lt (p.issued claimed))
  case known =>
    intro id x' here'
    rw [dispatches] at here'
    exact p.told_answered here live claimed unanswered lookup later answer answers queued here'
  case unknown =>
    intro id missing
    rw [dispatches] at missing
    rw [answer, if_neg]
    · exact (p.unknown missing).imp_right fun never mem => never (queued mem)
    · rintro rfl
      exact absurd (here.symm.trans missing) (by simp)
  case single =>
    rw [journal]
    apply (p.single.received session reply slot unanswered ?_).unheard (unheard_cons rfl)
    rw [p.named, claimed, Option.map_some, named]

/-- A claim with the next ticket has it for itself. -/
theorem Posted.apart_of_next (p : Posted g) {id : DispatchId} {claim : Correlation.Claim}
    (next : claim.ticket = g.replies.nextTicket)
    (claims : ∀ id', g'.claim? id' = if id' = id then some claim else g.claim? id')
    {id' id'' : DispatchId} {c c' : Correlation.Claim} (hc : g'.claim? id' = some c)
    (hc' : g'.claim? id'' = some c') (same : c.ticket = c'.ticket) : id' = id'' := by
  rw [claims] at hc hc'
  split at hc <;> split at hc'
  · rename_i h' h''
    exact h'.trans h''.symm
  -- the next ticket is greater than all that were issued
  · obtain rfl := Option.some.inj hc
    exact absurd (same.symm.trans next) (Nat.ne_of_lt (p.issued hc'))
  · obtain rfl := Option.some.inj hc'
    exact absurd (same.trans next) (Nat.ne_of_lt (p.issued hc))
  · exact p.apart hc hc' same

/-- A dispatch gets its correlation id. -/
theorem Posted.begun (p : Posted g) {x : Dispatch} {id : CorrelationId}
    {claim : Correlation.Claim} {replies : Correlation.Table}
    (opened : g.replies.open? id = some (claim, replies)) (claimed : x.claim = some claim)
    (stamp : x.request.correlationId = id) (placing : x.progress.isPlacing = true)
    (dispatches : g'.dispatches = g.dispatches ++ [x]) (table : g'.replies = replies)
    (journal : g'.journal = .opened g.dispatches.length id :: g.journal) : Posted g' := by
  have waiter := Correlation.Table.waiter?_open? opened
  obtain ⟨-, free, rfl, rfl⟩ := Correlation.Table.open?_eq_some opened
  have latest : g.dispatches[g.dispatches.length]? = none :=
    List.getElem?_eq_none (Nat.le_refl _)
  obtain ⟨unanswered, never⟩ := p.unknown latest
  have lookup : ∀ {id' x'}, g'.dispatches[id']? = some x' →
      g.dispatches[id']? = some x' ∨ (id' = g.dispatches.length ∧ x' = x) :=
    fun here => getElem?_concat_cases (dispatches ▸ here)
  have old : ∀ {id' : DispatchId} {x'}, g.dispatches[id']? = some x' →
      id' ≠ g.dispatches.length ∧ g'.dispatches[id']? = some x' := by
    intro id' x' here
    obtain ⟨lt, -⟩ := List.getElem?_eq_some_iff.1 here
    rw [dispatches, List.getElem?_append_left lt]
    exact ⟨Nat.ne_of_lt lt, here⟩
  have newest : g'.dispatches[g.dispatches.length]? = some x := by
    rw [dispatches, List.getElem?_concat_length]
  have claims : ∀ id', g'.claim? id' =
      if id' = g.dispatches.length then some ⟨id, g.replies.nextTicket⟩ else g.claim? id' := by
    rw [← claimed]
    exact claim?_of_concat dispatches
  have correlation : ∀ id', correlation? id' g'.journal =
      if id' = g.dispatches.length then some id else correlation? id' g.journal := by
    intro id'
    rw [journal, correlation?]
    by_cases same : id' = g.dispatches.length
    · rw [if_pos same, if_pos same.symm]
    · rw [if_neg same, if_neg fun h => same h.symm]
  have holder : ∀ c, holder? c g'.journal =
      if c = id then some g.dispatches.length else holder? c g.journal := by
    intro c
    rw [journal]
    exact holder?_opened c id
  have noNews : ∀ id', NoNews id' g.journal g'.journal := fun id' => journal ▸ noNews_opened id' _ _
  -- answers and queues are as they were; claims and slots have the new dispatch besides the old ones
  constructor
  case named =>
    intro id'
    rw [claims, correlation]
    split
    · rfl
    · exact p.named id'
  case issued =>
    intro id' c claim'
    rw [claims] at claim'
    rw [table]
    split at claim'
    · obtain rfl := Option.some.inj claim'
      exact Nat.lt_succ_self _
    · exact Nat.lt_succ_of_lt (p.issued claim')
  case apart => exact p.apart_of_next rfl claims
  case slots =>
    intro c
    rw [table, waiter, holder]
    split
    · rw [Option.bind_some, claims, if_pos rfl, Option.map_some]
    -- whoever has another slot is an older dispatch, whose claim is as it was
    · rw [p.slots]
      cases slot : holder? c g.journal with
      | none => rfl
      | some id' =>
        obtain ⟨-, x', here, -, -⟩ := p.holds slot
        rw [Option.bind_some, Option.bind_some, claims, if_neg (old here).1]
  case holds =>
    intro c id' holds
    rw [holder] at holds
    rw [(noNews id').answer]
    split at holds
    · rename_i same
      obtain rfl := Option.some.inj holds
      refine ⟨unanswered, x, newest, Progress.isOpen_of_isPlacing placing, ?_⟩
      rw [claimed, Option.map_some, same]
    · obtain ⟨unanswered', x', here, live, named⟩ := p.holds holds
      exact ⟨unanswered', x', (old here).2, live, named⟩
  case fresh =>
    intro ticket beyond
    rw [table] at beyond ⊢
    exact p.fresh (Nat.le_of_succ_le beyond)
  case known =>
    intro id' x' here
    rcases lookup here with here | ⟨rfl, rfl⟩
    · refine (p.known here).congr (noNews id') fun _ _ => ?_
      rw [table]
    · -- the new ticket was never used, and nothing was heard of the new dispatch
      refine .begun claimed stamp.symm placing ?_ ((noNews _).answer.trans unanswered)
        fun mem => never ((noNews _).queued mem)
      rw [table]
      exact p.fresh (Nat.le_refl _)
  case unknown =>
    intro id' missing
    rw [(noNews id').answer]
    have beyond := getElem?_eq_none_of_concat (dispatches ▸ missing)
    exact (p.unknown beyond).imp_right fun never mem => never ((noNews id').queued mem)
  case single =>
    -- whoever was answered has an older number, so its id is not the one that was drawn now
    refine p.single.of_earlier (noNews _).answers fun {id' e before} h =>
      ⟨(noNews id').answer, ?_⟩
    rw [correlation, if_neg]
    rintro rfl
    exact absurd ((p.single.latest h).symm.trans unanswered) (by simp)

theorem replies_release {x : Dispatch} {c : Correlation.Claim} (claimed : x.claim = some c) :
    (g.release x).replies = g.replies.drop c := by
  unfold release
  rw [claimed]

/-- A dispatch without a claim is over. -/
theorem Posted.finished_unclaimed (p : Posted g) {id : DispatchId} {x : Dispatch}
    {progress : Progress} {result : DispatchResult} (here : g.dispatches[id]? = some x)
    (unclaimed : x.claim = none) (finished : progress.isOpen = false)
    (same : progress.result? = x.progress.result?)
    (dispatches : g'.dispatches = g.dispatches.set id { x with progress })
    (replies : g'.replies = g.replies) (journal : g'.journal = .finished id result :: g.journal) :
    Posted g' := by
  have unheard : Unheard g.journal g'.journal := by
    rw [journal]
    refine unheard_finished ?_
    rw [p.named, claim?_of_here here, unclaimed, Option.map_none]
  have queued : ∀ {id'}, Queued id' g'.journal → Queued id' g.journal :=
    (journal ▸ noNews_last (Or.inl ⟨result, rfl⟩) : NoNews _ g.journal g'.journal).queued
  exact p.advance here (fun claimed => absurd unclaimed claimed) dispatches replies unheard
    (fun _ => queued) (((p.known here).finished finished same).unheard unheard queued)

/-- A dispatch is over and gives its slot back. -/
theorem Posted.finished (p : Posted g) {id : DispatchId} {x : Dispatch} {progress : Progress}
    {claim : Correlation.Claim} {event : Event} (here : g.dispatches[id]? = some x)
    (claimed : x.claim = some claim) (finished : progress.isOpen = false)
    (same : progress.result? = x.progress.result?)
    (dispatches : g'.dispatches = g.dispatches.set id { x with progress })
    (replies : g'.replies = (g.release x).replies) (journal : g'.journal = event :: g.journal)
    (last : (∃ result, event = .finished id result) ∨ event = .cancelled id) : Posted g' := by
  rw [replies_release claimed] at replies
  have mine : g.claim? id = some claim := (claim?_of_here here).trans claimed
  have named : correlation? id g.journal = some claim.id := by
    rw [p.named, mine, Option.map_some]
  -- a dispatch that is over keeps its claim, so nothing but the slot and a reply not collected goes
  have claims := claim?_of_set here dispatches
  have correlation : ∀ id', correlation? id' g'.journal = correlation? id' g.journal := by
    intro id'
    rw [journal]
    rcases last with ⟨result, rfl⟩ | rfl <;> rfl
  have holder : ∀ c, holder? c g'.journal =
      if c = claim.id then none else holder? c g.journal := by
    rw [journal]
    exact holder?_last last named
  have noNews : ∀ id', NoNews id' g.journal g'.journal := fun _ => journal ▸ noNews_last last
  apply p.of_claims claims correlation (by rw [replies]; rfl)
  case slots =>
    intro c
    rw [replies, Correlation.Table.waiter?_drop, holder]
    split
    · rfl
    · exact p.slots c
  case holds =>
    intro c id' holds
    rw [holder] at holds
    split at holds
    · exact absurd holds (by simp)
    · rename_i other
      rw [(noNews id').answer, dispatches, List.getElem?_set,
        if_neg (p.ne_of_holder holds mine other)]
      exact p.holds holds
  case fresh =>
    intro ticket beyond
    rw [replies, Correlation.Table.lookup_drop, p.fresh beyond, ite_self]
  case known =>
    intro id' x' here'
    rcases getElem?_set_cases (dispatches ▸ here') with ⟨rfl, rfl⟩ | ⟨other, old⟩
    · exact ((p.known here).finished finished same).congr (noNews id')
        fun live => absurd (finished.symm.trans live) (by simp)
    · -- a reply that was not collected goes away under its own ticket only
      refine (p.known old).congr (noNews id') fun {c} _ claim' => ?_
      rw [replies, Correlation.Table.lookup_drop, if_neg]
      exact fun same => other (p.apart ((claim?_of_here old).trans claim') mine same)
  case unknown =>
    intro id' missing
    rw [(noNews id').answer]
    have beyond := getElem?_eq_none_of_set (dispatches ▸ missing)
    exact (p.unknown beyond).imp_right fun never mem => never ((noNews id').queued mem)
  case single =>
    exact p.single.of_earlier (noNews _).answers fun _ => ⟨(noNews _).answer, correlation _⟩

/-- A verdict says what the table knows of the reply to the dispatch. -/
theorem Posted.of_verdict (p : Posted g) {id : DispatchId} {x : Dispatch} {result : DispatchResult}
    (here : g.dispatches[id]? = some x) (verdict : Verdict g x result) :
    (∀ {r}, result = .ok r → answer? id g.journal = some r) ∧
      (∀ {cause}, result = .error cause →
        answer? id g.journal = none ∨ ¬ Queued id g.journal) := by
  have told := p.known here
  have placing : ∀ {left cause}, x.progress = .placing left → result = .error cause →
      (∀ {r}, result = .ok r → answer? id g.journal = some r) ∧
        (∀ {cause}, result = .error cause →
          answer? id g.journal = none ∨ ¬ Queued id g.journal) := by
    intro left cause progress failed
    refine ⟨fun ok => ?_, fun _ => Or.inr (told.unplaced ?_)⟩
    · exact absurd (failed.symm.trans ok) (by simp)
    · rw [progress]
      rfl
  -- what a waiting dispatch sees is what the table has under its ticket
  have awaiting : x.progress = .awaiting →
      ∀ {r}, g.look x = .reply r ↔ answer? id g.journal = some r := by
    intro progress r
    have live : x.progress.isOpen = true := by rw [progress]; rfl
    obtain ⟨c, claimed⟩ := told.exists_claim (by rw [progress]; rfl)
    rw [look, claimed, ← told.handed live claimed]
    exact Correlation.Table.look_eq_reply
  have nothing : ∀ {look}, x.progress = .awaiting → g.look x = look → (∀ e, look ≠ .reply e) →
      answer? id g.journal = none := by
    intro look progress seen none
    by_contra some
    obtain ⟨e, answered⟩ := Option.ne_none_iff_exists'.1 some
    exact none e (seen.symm.trans ((awaiting progress).2 answered))
  -- before the request is queued it can fail, and then no reply matters; afterwards the reply decides
  cases verdict with
  | tooLarge progress big => exact placing progress rfl
  | groupNotFound progress missing => exact placing progress rfl
  | exhausted progress => exact placing progress rfl
  | replied progress seen =>
    refine ⟨fun ok => ?_, fun failed => absurd failed (by simp)⟩
    obtain rfl := Except.ok.inj ok
    exact (awaiting progress).1 seen
  | abandoned progress seen =>
    refine ⟨fun ok => absurd ok (by simp), fun _ => Or.inl ?_⟩
    exact nothing progress seen (by simp)
  | lapsed waits due =>
    rcases waits with ⟨queue, left, progress, -⟩ | ⟨progress, seen⟩
    · refine ⟨fun ok => absurd ok (by simp), fun _ => Or.inr ?_⟩
      refine told.unplaced ?_
      rw [progress]
      rfl
    · refine ⟨fun ok => absurd ok (by simp), fun _ => Or.inl ?_⟩
      exact nothing progress seen (by simp)

/-- The result of a dispatch becomes certain. -/
theorem Posted.resolved (p : Posted g) {id : DispatchId} {x : Dispatch} {result : DispatchResult}
    (here : g.dispatches[id]? = some x) (verdict : Verdict g x result)
    (dispatches : g'.dispatches = g.dispatches.set id { x with progress := .resolved result })
    (replies : g'.replies = g.replies) (journal : g'.journal = .resolved id result :: g.journal) :
    Posted g' := by
  obtain ⟨live, undecided⟩ := Progress.isSettled_eq_false.1 verdict.isSettled
  have told := p.known here
  obtain ⟨claim, claimed⟩ := told.exists_claim undecided
  obtain ⟨returned, failed⟩ := p.of_verdict here verdict
  have unheard : Unheard g.journal g'.journal := by
    rw [journal]
    exact unheard_cons rfl
  have queued : ∀ {id'}, Queued id' g'.journal → Queued id' g.journal := by
    intro id' h
    rw [journal] at h
    exact h.of_cons.resolve_right (by simp)
  refine p.advance here (fun _ => rfl) dispatches replies unheard (fun _ => queued) ?_
  constructor
  case stamp => exact told.stamp
  case unclaimed => exact fun none => absurd (claimed.symm.trans none) (by simp)
  case handed =>
    intro _ c claim'
    rw [unheard.answer]
    exact told.handed live claim'
  case unplaced => exact fun placing => absurd placing (by simp [Progress.isPlacing])
  case decided =>
    intro result' certain
    obtain rfl := Option.some.inj certain
    rw [journal]
    exact List.mem_cons_self
  case returned =>
    intro r certain
    rw [unheard.answer]
    exact returned (Option.some.inj certain)
  case failed =>
    intro cause certain
    rcases failed (Option.some.inj certain) with none | never
    -- no reply came so far
    · refine Or.inr fun {e before} h => ?_
      exact absurd ((p.single.latest (unheard.answers h)).symm.trans none) (by simp)
    · exact Or.inl fun mem => never (queued mem)

/-- A dispatch that waited for room is let in. -/
theorem Posted.letIn (p : Posted g) (l : Ledger g) {queue : QueueId}
    {taken : Queue.Taken DispatchId} (popped : (g.registry.queue queue).pop? = some taken)
    {h : Gateway} (dispatches : h.dispatches = g.dispatches) (replies : h.replies = g.replies)
    (unheard : Unheard g.journal h.journal)
    (queued : ∀ {id}, Queued id h.journal → Queued id g.journal) :
    Posted (h.letIn taken.served queue) := by
  rcases letIn_cases h taken.served queue with ⟨eq, -⟩ | ⟨caller, d, served, here, eq⟩
  · rw [eq]
    exact p.frame dispatches replies unheard queued
  · rw [eq]
    rw [dispatches] at here ⊢
    obtain ⟨left, blocked⟩ := l.blocked_of_served popped served here
    refine p.turn here (by rw [blocked]; rfl) rfl rfl replies (unheard.trans (unheard_cons rfl))
      (fun other mem => queued (.of_other other mem)) fun placing => ?_
    exact absurd placing (by simp [Progress.isPlacing])

/-- Every change keeps the table and the journal in agreement. -/
theorem posted_of_change (p : Posted g) (l : Ledger g) (c : Change g g') : Posted g' := by
  -- most changes tell of one thing at most, which is about no slot, no reply and no request
  have aside : ∀ {h : Gateway} {event : Event}, h.dispatches = g.dispatches →
      h.replies = g.replies → h.journal = event :: g.journal → event.isAside = true →
      (∀ queue e id, event ≠ .queued queue e (.dispatch id)) → Posted h := by
    intro h event dispatches replies journal aside other
    refine p.frame dispatches replies (journal ▸ unheard_cons aside) fun {id} mem => ?_
    rw [journal] at mem
    exact mem.of_cons.resolve_right fun ⟨queue, e, same⟩ => other queue e id same
  cases c with
  | tallied r number => exact aside rfl rfl rfl rfl (by simp)
  | published r number => exact aside rfl rfl rfl rfl (by simp)
  | stilled id => exact aside rfl rfl rfl rfl (by simp)
  | dismissed reason here greeting => exact aside rfl rfl rfl rfl (by simp)
  | enrolled e rest here greeting room => exact aside rfl rfl rfl rfl (by simp)
  | closed current here serving fresh report => exact aside rfl rfl rfl rfl (by simp)
  | ended reason here serving finished => exact aside rfl rfl rfl rfl (by simp)
  | wrote here serving writing pos room le whole => exact aside rfl rfl rfl rfl (by simp)
  | offered origin live due pushed =>
    exact aside rfl rfl rfl rfl fun queue e id same =>
      due.not_dispatch id (Event.queued.inj same).2.2
  | heeded here serving read plain =>
    refine aside rfl rfl rfl ?_ (by simp)
    rcases plain with control | unsolicited
    · simp [Event.isAside, Envelope.isReply, control]
    · simp [Event.isAside, Envelope.isReply, Envelope.expectsReply, unsolicited]
  | answered here serving read plain handed => exact p.answered plain handed rfl rfl rfl
  | @unanswered id s service e inbound replies here serving read plain missed =>
    obtain ⟨-, free⟩ := Correlation.Table.deliver_eq_noWaiter missed
    refine p.frame rfl rfl (unheard_received (p.holder?_eq_none free))
      fun mem => mem.of_cons.resolve_right (by simp)
  | looked here serving idle current => exact aside rfl rfl rfl rfl (by simp)
  | took here serving reaching popped encoded =>
    exact p.letIn l popped rfl rfl (unheard_cons rfl) fun mem => mem.of_cons.resolve_right (by simp)
  | @skipped id s service taken cause here serving reaching popped unwritable =>
    have after := p.letIn l popped
      (h := { g with
        registry := g.registry.setQueue service.queue taken.queue
        sessions := g.sessions.set id { s with phase := .serving { service with sender := .idle } }
        journal := .taken id service.queue taken.frame :: g.journal })
      rfl rfl (unheard_cons rfl) fun mem => mem.of_cons.resolve_right (by simp)
    exact after.frame rfl rfl (unheard_cons rfl) fun mem => mem.of_cons.resolve_right (by simp)
  | begun group e timeout opened seen =>
    exact p.begun opened rfl rfl rfl rfl rfl rfl
  | collided group e timeout taken => exact p.collided rfl rfl rfl rfl rfl rfl
  | resolved here verdict => exact p.resolved here verdict rfl rfl rfl
  | @concluded id d result here certain =>
    have same : (Progress.done result).result? = d.progress.result? := by rw [certain]; rfl
    by_cases unclaimed : d.claim = none
    · refine p.finished_unclaimed here unclaimed rfl same rfl ?_ rfl
      simp only [release, unclaimed]
    · obtain ⟨claim, claimed⟩ := Option.ne_none_iff_exists'.1 unclaimed
      exact p.finished here claimed rfl same rfl rfl rfl (Or.inl ⟨_, rfl⟩)
  | @forsaken id d here live undecided =>
    have same : Progress.cancelled.result? = d.progress.result? := undecided.symm
    obtain ⟨claim, claimed⟩ := (p.known here).exists_claim undecided
    exact p.finished here claimed rfl same rfl rfl rfl (Or.inr rfl)
  | @placed id d left candidate q here placing among live pushed =>
    refine p.turn here (by rw [placing]; rfl) rfl rfl rfl (unheard_cons rfl)
      (fun other mem => .of_other other mem) fun still => ?_
    exact absurd still (by simp [Progress.isPlacing])
  | joined here placing among others live full =>
    exact p.turn here (by rw [placing]; rfl) rfl rfl rfl (.refl _) (fun _ mem => mem)
      fun _ => (p.known here).unplaced (by rw [placing]; rfl)
  | passed here placing among others shut =>
    exact p.turn here (by rw [placing]; rfl) rfl rfl rfl (.refl _) (fun _ mem => mem)
      fun _ => (p.known here).unplaced (by rw [placing]; rfl)
  | movedOn here blocked shut =>
    exact p.turn here (by rw [blocked]; rfl) rfl rfl rfl (.refl _) (fun _ mem => mem)
      fun _ => (p.known here).unplaced (by rw [blocked]; rfl)
  | _ => exact p.frame rfl rfl (.refl _) fun mem => mem

theorem posted_of_attained {s : Settings} (h : Attained s g) : Posted g := by
  induction h with
  | refl => exact posted_start s
  | tail attained c ih => exact posted_of_change ih (ledger_of_attained attained) c

end Posted

/-! ## Replies for nobody -/

section Missed

variable {g g' : Gateway}

theorem missed_letIn (waiting : Option DispatchId) (queue : QueueId) :
    missed (g.letIn waiting queue).journal = missed g.journal := by
  rcases letIn_cases g waiting queue with ⟨eq, -⟩ | ⟨caller, d, -, -, eq⟩ <;> rw [eq]
  rfl

/-- The counter of dropped replies counts those that came when no slot was open for them. -/
theorem repliesDropped_of_attained {s : Settings} (h : Attained s g) :
    g.metrics.value .repliesDropped = (missed g.journal : Int) := by
  induction h with
  | refl => rfl
  | @tail g g' attained c ih =>
    have posted := posted_of_attained attained
    cases c with
    | aside drops later stops => exact drops.2.trans ih
    | heeded here serving read plain =>
      refine ih.trans (congrArg Nat.cast (Eq.symm (if_neg ?_)))
      rintro ⟨reply, -⟩
      obtain ⟨control, id⟩ := Envelope.isReply_iff.1 reply
      rcases plain with plain | plain
      · exact absurd (control.symm.trans plain) (by simp)
      · exact id plain
    | @answered id s service e inbound ticket replies here serving read plain handed =>
      obtain ⟨-, waits, -⟩ := Correlation.Table.deliver_eq_delivered handed
      -- a reply that was handed on had a slot
      refine ih.trans (congrArg Nat.cast (Eq.symm (if_neg ?_)))
      rintro ⟨-, nobody⟩
      rw [posted.slots, nobody] at waits
      exact absurd waits (by simp)
    | @unanswered id s service e inbound replies here serving read plain missed' =>
      obtain ⟨stamped, free⟩ := Correlation.Table.deliver_eq_noWaiter missed'
      have counted : missed (.received id e :: g.journal) = missed g.journal + 1 :=
        if_pos ⟨Envelope.isReply_iff.2 ⟨plain, stamped⟩, posted.holder?_eq_none free⟩
      rw [Metrics.value_add, if_pos rfl, ih, counted]
      rfl
    | took here serving reaching popped encoded =>
      rw [metrics_letIn, missed_letIn]
      exact ih
    | skipped here serving reaching popped error =>
      show (Metrics.add (Gateway.metrics (letIn _ _ _)) _ _).value _ =
        (missed (Gateway.journal (letIn _ _ _)) : Int)
      rw [metrics_letIn, missed_letIn, Metrics.value_add, if_neg (by simp)]
      exact ih
    | _ => exact ih

end Missed

end Switchboard.Gateway
