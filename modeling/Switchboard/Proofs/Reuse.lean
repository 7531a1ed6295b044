import Mathlib.Tactic.ByContra
import Switchboard.Proofs.Slots

/-!
# Claims that share an id

An id whose reply was handed over can be opened again while the claim that got the reply is still
held, so several claims on one id can be held at the same time. At most one of them has an open slot.
A table takes the slot under an id away whoever opened it, so a claim keeps its slot until a frame
with its id comes or any held claim on the id is dropped.

A `Desk` is a table with the claims on it that were not dropped. What holds of every desk is in
`Desk.Sound`.

Main result: `desk_laws`.
-/

set_option autoImplicit false

namespace Switchboard.Correlation

/-- What can be done with a table and the claims on it. -/
inductive Desk.Step
  | openSlot (id : CorrelationId)
  | deliver (e : Envelope)
  /-- Looks whether a claim has its reply. -/
  | look (c : Claim)
  | drop (c : Claim)
  deriving DecidableEq, Repr, Inhabited

/-- A step that takes the slot under an id away from the holders of these claims: a frame with the
id, or the end of a claim on it. -/
def Desk.Step.Touches (held : List Claim) (id : CorrelationId) : Desk.Step → Prop
  | deliver e => e.correlationId = id
  | drop c => c ∈ held ∧ c.id = id
  | openSlot _ | look _ => False

/-- A table with the claims on it that were not dropped. -/
structure Desk where
  table : Table := {}
  held : List Claim := []
  deriving DecidableEq, Repr, Inhabited

/-- A claim sees the same in two tables that agree on its slot and its reply. -/
theorem Table.look_congr {t t' : Table} {c : Claim}
    (replies : t'.replies.lookup c.ticket = t.replies.lookup c.ticket)
    (slots : (c.id, c.ticket) ∈ t'.slots ↔ (c.id, c.ticket) ∈ t.slots) : t'.look c = t.look c := by
  rw [look, look, replies]
  simp only [slots]

namespace Desk

/-- The desk after a step. A claim that is not held cannot be dropped. -/
def step (d : Desk) : Step → Desk
  | .openSlot id =>
    match d.table.open? id with
    | none => d
    | some (c, table) => { table, held := d.held ++ [c] }
  | .deliver e => { d with table := (d.table.deliver e).2 }
  | .look _ => d
  | .drop c =>
    if c ∈ d.held then { table := d.table.drop c, held := d.held.filter fun other => other ≠ c }
    else d

/-- The desk after these steps, from an empty table. -/
def run (steps : List Step) : Desk := steps.foldl step {}

/-- The claim has its slot. -/
def Has (d : Desk) (c : Claim) : Prop := (c.id, c.ticket) ∈ d.table.slots

/-- How the claims, the slots and the replies of a desk belong together. -/
structure Sound (d : Desk) : Prop where
  /-- A slot belongs to a claim that is held. -/
  owned : ∀ {c}, d.Has c → c ∈ d.held
  /-- There is one slot at most under an id. -/
  single : ∀ {c c'}, d.Has c → d.Has c' → c.id = c'.id → c = c'
  named : ∀ {c}, d.Has c → c.id ≠ noReply
  unanswered : ∀ {c}, d.Has c → d.table.replies.lookup c.ticket = none
  issued : ∀ {c}, c ∈ d.held → c.ticket < d.table.nextTicket
  apart : ∀ {c c'}, c ∈ d.held → c' ∈ d.held → c.ticket = c'.ticket → c = c'
  /-- Tickets that were not handed out yet have no reply. -/
  fresh : ∀ {ticket}, d.table.nextTicket ≤ ticket → d.table.replies.lookup ticket = none

section Steps

variable {d : Desk} {c c' : Claim} {id : CorrelationId} {table : Table}

theorem open?_eq_none :
    d.table.open? id = none ↔ id = noReply ∨ id ∈ d.table.slots.map (·.1) := by
  rw [Table.mem_ids_iff, ← Option.isSome_iff_exists, Table.open?]
  split
  · rename_i taken
    simpa using taken
  · rename_i free
    simpa using free

theorem mem_ids_iff : id ∈ d.table.slots.map (·.1) ↔ ∃ c, d.Has c ∧ c.id = id := by
  rw [List.mem_map]
  constructor
  · rintro ⟨⟨id', ticket⟩, mem, rfl⟩
    exact ⟨⟨id', ticket⟩, mem, rfl⟩
  · rintro ⟨c, mem, rfl⟩
    exact ⟨_, mem, rfl⟩

/-- A slot that is opened comes to those that were open. -/
theorem has_open (opened : d.table.open? id = some (c, table)) :
    (Desk.mk table (d.held ++ [c])).Has c' ↔ d.Has c' ∨ c' = c := by
  obtain ⟨-, -, rfl, rfl⟩ := Table.open?_eq_some opened
  obtain ⟨id', ticket⟩ := c'
  simp [Has]

/-- Tickets are handed out in order. -/
theorem nextTicket_le_step (d : Desk) (next : Step) :
    d.table.nextTicket ≤ (d.step next).table.nextTicket := by
  cases next with
  | openSlot id =>
    cases opened : d.table.open? id with
    | none => exact Nat.le_of_eq (by rw [step, opened])
    | some pair =>
      obtain ⟨-, -, -, table⟩ := Table.open?_eq_some opened
      rw [step, opened]
      show _ ≤ pair.2.nextTicket
      rw [table]
      exact Nat.le_succ _
  | deliver e =>
    show _ ≤ (d.table.deliver e).2.nextTicket
    cases outcome : d.table.deliver e with
    | mk delivery table =>
      cases delivery with
      | delivered ticket =>
        obtain ⟨-, -, rfl⟩ := Table.deliver_eq_delivered outcome
        exact Nat.le_refl _
      | noWaiter => exact Nat.le_of_eq (by rw [Table.deliver_eq_self outcome (by simp)])
      | unsolicited => exact Nat.le_of_eq (by rw [Table.deliver_eq_self outcome (by simp)])
  | look c => exact Nat.le_refl _
  | drop c =>
    rw [step]
    split <;> exact Nat.le_refl _

/-- A claim that is dropped takes the slot under its id away, whoever has it. -/
theorem has_drop (held : c ∈ d.held) :
    (d.step (.drop c)).Has c' ↔ d.Has c' ∧ c'.id ≠ c.id := by
  rw [step, if_pos held]
  simp [Has, Table.drop, Table.withoutSlot]

theorem mem_held_drop (held : c ∈ d.held) :
    c' ∈ (d.step (.drop c)).held ↔ c' ∈ d.held ∧ c' ≠ c := by
  rw [step, if_pos held]
  simp

theorem step_openSlot (opened : d.table.open? id = some (c, table)) :
    d.step (.openSlot id) = { table, held := d.held ++ [c] } := by
  rw [step, opened]

end Steps

namespace Sound

variable {d : Desk} {c c' : Claim} {id : CorrelationId} {table : Table}

theorem empty : Sound {} where
  owned h := absurd h List.not_mem_nil
  single h := absurd h List.not_mem_nil
  named h := absurd h List.not_mem_nil
  unanswered h := absurd h List.not_mem_nil
  issued h := absurd h List.not_mem_nil
  apart h := absurd h List.not_mem_nil
  fresh _ := rfl

/-- A claim sees that it is pending exactly if it has its slot. -/
theorem look_eq_pending (s : Sound d) : d.table.look c = .pending ↔ d.Has c := by
  unfold Table.look
  constructor
  · intro pending
    split at pending
    · exact absurd pending (by simp)
    · split at pending
      · assumption
      · exact absurd pending (by simp)
  · intro has
    rw [s.unanswered has]
    exact if_pos has

/-- A frame takes the slot under its id away and touches no other. -/
theorem has_deliver (s : Sound d) {e : Envelope} :
    (d.step (.deliver e)).Has c ↔ d.Has c ∧ c.id ≠ e.correlationId := by
  show (c.id, c.ticket) ∈ (d.table.deliver e).2.slots ↔ _
  -- a frame for which nobody waits leaves the table as it is, and nobody has a slot under its id
  have unchanged : (d.table.deliver e).2 = d.table → (∀ {c}, d.Has c → c.id ≠ e.correlationId) →
      ((c.id, c.ticket) ∈ (d.table.deliver e).2.slots ↔ d.Has c ∧ c.id ≠ e.correlationId) := by
    intro same others
    rw [same]
    exact ⟨fun has => ⟨has, others has⟩, And.left⟩
  cases outcome : d.table.deliver e with
  | mk delivery table =>
    rw [outcome] at unchanged
    cases delivery with
    | delivered ticket =>
      obtain ⟨-, -, rfl⟩ := Table.deliver_eq_delivered outcome
      simp [Has, Table.withoutSlot]
    | noWaiter =>
      refine unchanged (Table.deliver_eq_self outcome (by simp)) fun has same => ?_
      obtain ⟨-, nobody⟩ := Table.deliver_eq_noWaiter outcome
      obtain ⟨ticket, waits⟩ := Table.mem_ids_iff.1 (mem_ids_iff.2 ⟨_, has, same⟩)
      exact absurd (nobody.symm.trans waits) (by simp)
    | unsolicited =>
      refine unchanged (Table.deliver_eq_self outcome (by simp)) fun has same => ?_
      exact s.named has (same.trans (Table.deliver_eq_unsolicited outcome))

/-- The claim of a new slot is no claim that is held. -/
theorem not_held_of_open? (s : Sound d) (opened : d.table.open? id = some (c, table)) :
    c ∉ d.held := by
  obtain ⟨-, -, rfl, -⟩ := Table.open?_eq_some opened
  exact fun held => Nat.lt_irrefl _ (s.issued held)

theorem openSlot (s : Sound d) (opened : d.table.open? id = some (c, table)) :
    Sound { table, held := d.held ++ [c] } := by
  have new := s.not_held_of_open? opened
  have iff : ∀ {c'}, (Desk.mk table (d.held ++ [c])).Has c' ↔ d.Has c' ∨ c' = c :=
    has_open opened
  -- an id that has a slot cannot be opened
  have free : ∀ {c'}, d.Has c' → c'.id ≠ id := by
    intro c' has eq
    have none := open?_eq_none.2 (Or.inr (mem_ids_iff.2 ⟨c', has, eq⟩))
    exact absurd (none.symm.trans opened) (by simp)
  obtain ⟨nonzero, -, claim, rfl⟩ := Table.open?_eq_some opened
  have ticket : c.ticket = d.table.nextTicket := congrArg Claim.ticket claim
  have named : c.id = id := congrArg Claim.id claim
  constructor
  case owned =>
    intro c' has
    rcases iff.1 has with old | rfl
    · exact List.mem_append_left _ (s.owned old)
    · exact List.mem_append_right _ (List.mem_singleton_self _)
  case single =>
    intro c₁ c₂ has₁ has₂ same
    rcases iff.1 has₁ with old₁ | rfl <;> rcases iff.1 has₂ with old₂ | rfl
    · exact s.single old₁ old₂ same
    · exact absurd (same.trans named) (free old₁)
    · exact absurd (same.symm.trans named) (free old₂)
    · rfl
  case named =>
    intro c' has
    rcases iff.1 has with old | rfl
    · exact s.named old
    · exact fun zero => nonzero (named.symm.trans zero)
  case unanswered =>
    intro c' has
    rcases iff.1 has with old | rfl
    · exact s.unanswered old
    · exact s.fresh (Nat.le_of_eq ticket.symm)
  case issued =>
    intro c' held
    show c'.ticket < d.table.nextTicket + 1
    rcases List.mem_append.1 held with old | latest
    · exact Nat.lt_succ_of_lt (s.issued old)
    · rw [List.mem_singleton.1 latest, ticket]
      exact Nat.lt_succ_self _
  case apart =>
    intro c₁ c₂ held₁ held₂ same
    rcases List.mem_append.1 held₁ with old₁ | new₁ <;>
      rcases List.mem_append.1 held₂ with old₂ | new₂
    · exact s.apart old₁ old₂ same
    · rw [List.mem_singleton.1 new₂, ticket] at same
      exact absurd (s.issued old₁) (Nat.not_lt_of_le (Nat.le_of_eq same.symm))
    · rw [List.mem_singleton.1 new₁, ticket] at same
      exact absurd (s.issued old₂) (Nat.not_lt_of_le (Nat.le_of_eq same))
    · rw [List.mem_singleton.1 new₁, List.mem_singleton.1 new₂]
  case fresh => exact fun le => s.fresh (Nat.le_of_succ_le le)

/-- A frame that finds its claim goes to a claim that has its slot. -/
theorem has_of_delivered (s : Sound d) {e : Envelope} {ticket : Ticket}
    (waits : d.table.waiter? e.correlationId = some ticket) :
    d.Has ⟨e.correlationId, ticket⟩ ∧ ticket < d.table.nextTicket := by
  have has : d.Has ⟨e.correlationId, ticket⟩ := Table.mem_slots_of_waiter? waits
  exact ⟨has, s.issued (s.owned has)⟩

theorem deliver (s : Sound d) (e : Envelope) : Sound (d.step (.deliver e)) := by
  cases outcome : d.table.deliver e with
  | mk delivery table =>
    have shape : d.step (.deliver e) = { d with table } := by
      rw [step, outcome]
    cases delivery with
    | delivered ticket =>
      obtain ⟨-, waits, rfl⟩ := Table.deliver_eq_delivered outcome
      obtain ⟨mine, issued⟩ := s.has_of_delivered waits
      have iff : ∀ {c}, (d.step (.deliver e)).Has c ↔ d.Has c ∧ c.id ≠ e.correlationId :=
        s.has_deliver
      rw [shape] at iff ⊢
      constructor
      case owned => exact fun has => s.owned (iff.1 has).1
      case single => exact fun has has' => s.single (iff.1 has).1 (iff.1 has').1
      case named => exact fun has => s.named (iff.1 has).1
      case unanswered =>
        intro c has
        obtain ⟨old, other⟩ := iff.1 has
        -- the claim that got the frame has another id, so it has another ticket
        have apart : c.ticket ≠ ticket := fun same =>
          other (congrArg Claim.id (s.apart (s.owned old) (s.owned mine) same))
        rw [Table.lookup_deliver outcome, s.unanswered old, if_neg apart, Option.or_none]
      case issued => exact s.issued
      case apart => exact s.apart
      case fresh =>
        intro ticket' le
        have later : ticket' ≠ ticket := Ne.symm (Nat.ne_of_lt (Nat.lt_of_lt_of_le issued le))
        rw [Table.lookup_deliver outcome, s.fresh le, if_neg later, Option.or_none]
    | noWaiter =>
      rw [shape, Table.deliver_eq_self outcome (by simp)]
      exact s
    | unsolicited =>
      rw [shape, Table.deliver_eq_self outcome (by simp)]
      exact s

theorem drop (s : Sound d) (held : c ∈ d.held) : Sound (d.step (.drop c)) := by
  have iff : ∀ {c'}, (d.step (.drop c)).Has c' ↔ d.Has c' ∧ c'.id ≠ c.id := has_drop held
  have kept : ∀ {c'}, c' ∈ (d.step (.drop c)).held ↔ c' ∈ d.held ∧ c' ≠ c := mem_held_drop held
  have replies : ∀ ticket, (d.step (.drop c)).table.replies.lookup ticket =
      if ticket = c.ticket then none else d.table.replies.lookup ticket := by
    intro ticket
    rw [step, if_pos held]
    exact Table.lookup_drop ticket
  have tickets : (d.step (.drop c)).table.nextTicket = d.table.nextTicket := by
    rw [step, if_pos held]
    rfl
  constructor
  case owned =>
    intro c' has
    obtain ⟨old, other⟩ := iff.1 has
    exact kept.2 ⟨s.owned old, fun same => other (congrArg Claim.id same)⟩
  case single => exact fun has has' => s.single (iff.1 has).1 (iff.1 has').1
  case named => exact fun has => s.named (iff.1 has).1
  case unanswered =>
    intro c' has
    rw [replies, s.unanswered (iff.1 has).1, ite_self]
  case issued =>
    intro c' mem
    rw [tickets]
    exact s.issued (kept.1 mem).1
  case apart => exact fun mem mem' => s.apart (kept.1 mem).1 (kept.1 mem').1
  case fresh =>
    intro ticket le
    rw [tickets] at le
    rw [replies, s.fresh le, ite_self]

theorem step (s : Sound d) (next : Step) : Sound (d.step next) := by
  cases next with
  | openSlot id =>
    cases opened : d.table.open? id with
    | none =>
      rw [Desk.step, opened]
      exact s
    | some pair =>
      rw [step_openSlot opened]
      exact s.openSlot opened
  | deliver e => exact s.deliver e
  | look c => exact s
  | drop c =>
    by_cases held : c ∈ d.held
    · exact s.drop held
    · rw [Desk.step, if_neg held]
      exact s

/-- What the other claims see when a claim is dropped: whoever waits under the same id is closed
out. -/
theorem look_drop (s : Sound d) (held : c ∈ d.held) (held' : c' ∈ d.held) (other : c' ≠ c) :
    (d.step (.drop c)).table.look c' =
      if c'.id = c.id ∧ d.table.look c' = .pending then .closed else d.table.look c' := by
  have ticket : c'.ticket ≠ c.ticket := fun same => other (s.apart held' held same)
  have replies : (d.step (.drop c)).table.replies.lookup c'.ticket =
      d.table.replies.lookup c'.ticket := by
    rw [Desk.step, if_pos held]
    exact (Table.lookup_drop _).trans (if_neg ticket)
  split
  · rename_i lost
    have has := s.look_eq_pending.1 lost.2
    refine Table.look_eq_closed.2 ⟨replies.trans (s.unanswered has), fun kept => ?_⟩
    exact ((has_drop held).1 kept).2 lost.1
  · -- it waits under another id, or has no slot to lose
    rename_i kept
    refine Table.look_congr replies ((has_drop held).trans (and_iff_left_of_imp fun has same => ?_))
    exact kept ⟨same, s.look_eq_pending.2 has⟩

/-- A new slot changes nothing for the claims that are held. -/
theorem look_open (s : Sound d) (opened : d.table.open? id = some (c, table))
    (held : c' ∈ d.held) : table.look c' = d.table.look c' := by
  have other : c' ≠ c := fun same => s.not_held_of_open? opened (same ▸ held)
  have slots : (Desk.mk table (d.held ++ [c])).Has c' ↔ d.Has c' :=
    (has_open opened).trans (or_iff_left other)
  obtain ⟨-, -, -, rfl⟩ := Table.open?_eq_some opened
  exact Table.look_congr rfl slots

/-! ### How long a claim keeps its slot -/

/-- A step that does not touch the id leaves the claim its slot, and the claims on its id as they
are: no slot can be opened under an id that has one. -/
theorem step_of_not_touches (s : Sound d) (has : d.Has c) {next : Step}
    (quiet : ¬ next.Touches d.held c.id) :
    (d.step next).Has c ∧ ∀ c', c'.id = c.id → (c' ∈ (d.step next).held ↔ c' ∈ d.held) := by
  cases next with
  | openSlot id =>
    cases opened : d.table.open? id with
    | none =>
      rw [Desk.step, opened]
      exact ⟨has, fun _ _ => Iff.rfl⟩
    | some pair =>
      rw [step_openSlot opened]
      refine ⟨(has_open opened).2 (Or.inl has), fun c' same => ?_⟩
      rw [List.mem_append, List.mem_singleton, or_iff_left]
      rintro rfl
      have new := (has_open opened).2 (Or.inr rfl)
      have old := (has_open opened).2 (Or.inl has)
      have eq := (s.openSlot opened).single old new same.symm
      exact s.not_held_of_open? opened (eq ▸ s.owned has)
  | deliver e => exact ⟨s.has_deliver.2 ⟨has, fun same => quiet same.symm⟩, fun _ _ => Iff.rfl⟩
  | look c' => exact ⟨has, fun _ _ => Iff.rfl⟩
  | drop dropped =>
    by_cases held : dropped ∈ d.held
    · have other : c.id ≠ dropped.id := fun same => quiet ⟨held, same.symm⟩
      refine ⟨(has_drop held).2 ⟨has, other⟩, fun c' same => ?_⟩
      rw [mem_held_drop held, and_iff_left]
      rintro rfl
      exact other same.symm
    · rw [Desk.step, if_neg held]
      exact ⟨has, fun _ _ => Iff.rfl⟩

/-- A step that touches the id takes the slot away. -/
theorem not_has_of_touches (s : Sound d) {next : Step}
    (touched : next.Touches d.held c.id) : ¬ (d.step next).Has c := by
  cases next with
  | openSlot id => exact touched.elim
  | look c' => exact touched.elim
  | deliver e => exact fun kept => (s.has_deliver.1 kept).2 touched.symm
  | drop dropped => exact fun kept => ((has_drop touched.1).1 kept).2 touched.2.symm

/-- A claim that lost its slot does not get it back. -/
theorem not_has_step (s : Sound d) (issued : c.ticket < d.table.nextTicket) (lost : ¬ d.Has c)
    (next : Step) : ¬ (d.step next).Has c := by
  cases next with
  | openSlot id =>
    cases opened : d.table.open? id with
    | none =>
      rw [Desk.step, opened]
      exact lost
    | some pair =>
      rw [step_openSlot opened, has_open opened]
      rintro (old | rfl)
      · exact lost old
      · obtain ⟨-, -, claim, -⟩ := Table.open?_eq_some opened
        rw [claim] at issued
        exact Nat.lt_irrefl _ issued
  | deliver e => exact fun kept => lost (s.has_deliver.1 kept).1
  | look c' => exact lost
  | drop dropped =>
    by_cases held : dropped ∈ d.held
    · exact fun kept => lost ((has_drop held).1 kept).1
    · rw [Desk.step, if_neg held]
      exact lost

theorem foldl_step (s : Sound d) (later : List Step) : Sound (later.foldl Desk.step d) := by
  induction later generalizing d with
  | nil => exact s
  | cons next rest ih => exact ih (s.step next)

theorem not_has_foldl (s : Sound d) (issued : c.ticket < d.table.nextTicket) (lost : ¬ d.Has c)
    (later : List Step) : ¬ (later.foldl Desk.step d).Has c := by
  induction later generalizing d with
  | nil => exact lost
  | cons next rest ih =>
    exact ih (s.step next) (Nat.lt_of_lt_of_le issued (nextTicket_le_step d next))
      (s.not_has_step issued lost next)

/-- A claim keeps its slot until its id is touched. -/
theorem has_foldl_iff (s : Sound d) (has : d.Has c) (later : List Step) :
    (later.foldl Desk.step d).Has c ↔ ∀ next ∈ later, ¬ next.Touches d.held c.id := by
  -- the claims on the id stay the same until it is touched, so it does not matter when they are held
  induction later generalizing d with
  | nil => simpa using has
  | cons next rest ih =>
    rw [List.foldl_cons, List.forall_mem_cons]
    by_cases touched : next.Touches d.held c.id
    · have lost := s.not_has_of_touches touched
      have issued : c.ticket < (d.step next).table.nextTicket :=
        Nat.lt_of_lt_of_le (s.issued (s.owned has)) (nextTicket_le_step d next)
      exact iff_of_false ((s.step next).not_has_foldl issued lost rest) fun h => h.1 touched
    · obtain ⟨has', same⟩ := s.step_of_not_touches has touched
      rw [ih (s.step next) has', and_iff_right touched]
      refine forall₂_congr fun step _ => not_congr ?_
      cases step with
      | drop dropped => exact and_congr_left fun named => same dropped named
      | _ => exact Iff.rfl

end Sound

/-- The desk after a run is sound. -/
theorem sound_run (steps : List Step) : Sound (run steps) := Sound.empty.foldl_step steps

/-- After every run of a table: a slot cannot be opened exactly under the id 0 and under an id that
has one, and then nothing changes; a new claim is pending and the others see what they saw. A claim
that is dropped takes its own slot and no other exactly if no other claim waits under its id, and
whoever waits there is closed out. A claim that is pending stays so exactly until a frame with its id
comes or a claim on its id is dropped that is held now, itself or another. -/
theorem desk_laws (steps : List Step) :
    (∀ id, ((run steps).table.open? id = none ↔
        id = noReply ∨ id ∈ (run steps).table.slots.map (·.1)) ∧
      ((run steps).table.open? id = none → (run steps).step (.openSlot id) = run steps) ∧
      ∀ {c table}, (run steps).table.open? id = some (c, table) →
        c.id = id ∧ c ∉ (run steps).held ∧ table.look c = .pending ∧
          ∀ c' ∈ (run steps).held, table.look c' = (run steps).table.look c') ∧
    (∀ c ∈ (run steps).held,
      ((∀ slot, slot ∈ ((run steps).step (.drop c)).table.slots ↔
          slot ∈ (run steps).table.slots ∧ slot ≠ (c.id, c.ticket)) ↔
        ∀ c' ∈ (run steps).held, c'.id = c.id → (run steps).table.look c' = .pending → c' = c) ∧
      ∀ c' ∈ (run steps).held, c' ≠ c →
        ((run steps).step (.drop c)).table.look c' =
          if c'.id = c.id ∧ (run steps).table.look c' = .pending then .closed
          else (run steps).table.look c') ∧
    (∀ c ∈ (run steps).held, (run steps).table.look c = .pending → ∀ later : List Step,
      (c ∈ (run (steps ++ later)).held ∧ (run (steps ++ later)).table.look c = .pending ↔
        ∀ next ∈ later, ¬ next.Touches (run steps).held c.id)) := by
  have s := sound_run steps
  refine ⟨fun id => ⟨open?_eq_none, fun taken => ?_, fun {c table} opened => ?_⟩,
    fun c held => ⟨?_, fun c' held' other => s.look_drop held held' other⟩,
    fun c held pending later => ?_⟩
  · rw [step, taken]
  · have named := congrArg Claim.id (Table.open?_eq_some opened).2.2.1
    refine ⟨named, s.not_held_of_open? opened, ?_, fun c' held => s.look_open opened held⟩
    exact (s.openSlot opened).look_eq_pending.2 ((has_open opened).2 (Or.inr rfl))
  · -- the slots are those of the claims that have one
    constructor
    · intro own c' held' same pending
      by_contra other
      have has := s.look_eq_pending.1 pending
      have kept := (own (c'.id, c'.ticket)).2 ⟨has, fun eq => other ?_⟩
      · exact ((has_drop held).1 kept).2 same
      · exact s.apart held' held (Prod.mk.inj eq).2
    · rintro alone ⟨id, ticket⟩
      have left : ((run steps).step (.drop c)).Has ⟨id, ticket⟩ ↔
          (run steps).Has ⟨id, ticket⟩ ∧ id ≠ c.id := has_drop held
      refine left.trans (and_congr_right fun has => ?_)
      constructor
      · rintro other eq
        exact other (Prod.mk.inj eq).1
      · rintro other rfl
        have mine := alone ⟨c.id, ticket⟩ (s.owned has) rfl (s.look_eq_pending.2 has)
        exact other (congrArg (fun claim => (claim.id, claim.ticket)) mine)
  · have run_later : run (steps ++ later) = later.foldl step (run steps) := List.foldl_append
    have after := s.foldl_step later
    rw [run_later, after.look_eq_pending, and_iff_right_of_imp after.owned]
    exact s.has_foldl_iff (s.look_eq_pending.1 pending) later

/-- A claim gets its reply and is still held when its id is opened again. -/
def reopened : List Step :=
  [.openSlot 7, .deliver { command := .getItem, correlationId := 7 }, .openSlot 7]

/-- The second claim of `reopened` is pending, and stays so exactly until its id is touched, which
dropping the first claim does. -/
theorem desk_laws_reopened :
    (⟨7, 1⟩ : Claim) ∈ (run reopened).held ∧ (run reopened).table.look ⟨7, 1⟩ = .pending ∧
      ¬ ((⟨7, 1⟩ : Claim) ∈ (run (reopened ++ [.drop ⟨7, 0⟩])).held ∧
        (run (reopened ++ [.drop ⟨7, 0⟩])).table.look ⟨7, 1⟩ = .pending) := by
  have held : (⟨7, 1⟩ : Claim) ∈ (run reopened).held := by decide +kernel
  have first : (⟨7, 0⟩ : Claim) ∈ (run reopened).held := by decide +kernel
  have pending : (run reopened).table.look ⟨7, 1⟩ = .pending := by decide +kernel
  refine ⟨held, pending, fun kept => ?_⟩
  have quiet := ((desk_laws reopened).2.2 _ held pending [.drop ⟨7, 0⟩]).1 kept
  exact quiet _ (List.mem_singleton_self _) ⟨first, rfl⟩

/-- A claim that got its reply and is dropped takes the slot of a later claim on its id away: the
later claim was pending, no frame came for it, it was not dropped, and it sees that it is closed. -/
theorem exists_closed_by_other :
    ∃ steps : List Step, ∃ c ∈ (run steps).held, ∃ other ∈ (run steps).held, other ≠ c ∧
      (run steps).table.look c = .pending ∧
      c ∈ (run (steps ++ [.drop other])).held ∧
      (run (steps ++ [.drop other])).table.look c = .closed := by
  refine ⟨reopened, ⟨7, 1⟩, ?_, ⟨7, 0⟩, ?_, ?_, ?_, ?_, ?_⟩ <;> decide +kernel

end Desk

end Switchboard.Correlation
