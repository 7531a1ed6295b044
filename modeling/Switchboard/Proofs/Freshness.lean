import Mathlib.Algebra.Group.Nat.Defs
import Switchboard.Proofs.Change
import Switchboard.Proofs.Numbering

/-!
# Correlation ids are fresh

The low 48 bits of a correlation id are those of the counter it was drawn at. As long as fewer than
2^48 ids were drawn, each dispatch draws one, no two dispatches have the same id, and none has the
id 0.

Main results: `issued_of_attained`, `correlationId_inj`.
-/

set_option autoImplicit false

namespace Switchboard

namespace Correlation.IdSource

/-- The id that is drawn after `n` others. -/
def nth (gateway : UInt16) (n : Nat) : CorrelationId :=
  (IdSource.mk gateway (UInt64.ofNat (n + 1))).current

/-- The low bits of an id are those of the counter. -/
theorem toNat_current_mod (s : IdSource) :
    s.current.toNat % 2 ^ 48 = s.counter.toNat % 2 ^ 48 := by
  rw [toNat_current]
  omega

/-- A counter that is not 0 and fits the low bits gives its id at the first try. -/
theorem next_eq {s : IdSource} (pos : 0 < s.counter.toNat) (small : s.counter.toNat < 2 ^ 48) :
    s.next = (s.current, s.advanced) := by
  have some : s.current ≠ noReply := by
    intro zero
    have low := s.toNat_current_mod
    rw [zero, Nat.mod_eq_of_lt small] at low
    have none : noReply.toNat % 2 ^ 48 = 0 := rfl
    omega
  exact next_of_some some

theorem toNat_nth_mod (gateway : UInt16) {n : Nat} (small : n + 1 < 2 ^ 48) :
    (nth gateway n).toNat % 2 ^ 48 = n + 1 := by
  have counter : (UInt64.ofNat (n + 1)).toNat = n + 1 := by
    rw [UInt64.toNat_ofNat', Nat.mod_eq_of_lt]
    omega
  rw [nth, toNat_current_mod, counter, Nat.mod_eq_of_lt small]

theorem nth_ne_noReply (gateway : UInt16) {n : Nat} (small : n + 1 < 2 ^ 48) :
    nth gateway n ≠ noReply := by
  intro zero
  have low := toNat_nth_mod gateway small
  rw [zero] at low
  exact absurd low (by simp [noReply])

theorem nth_inj {gateway : UInt16} {m n : Nat} (hm : m + 1 < 2 ^ 48) (hn : n + 1 < 2 ^ 48)
    (same : nth gateway m = nth gateway n) : m = n := by
  have low := toNat_nth_mod gateway hm
  rw [same, toNat_nth_mod gateway hn] at low
  omega

end Correlation.IdSource

namespace Gateway

open Correlation (IdSource)

/-- Each dispatch has drawn one id. -/
structure Issued (g : Gateway) : Prop where
  source : g.ids = ⟨g.settings.gatewayNumber, UInt64.ofNat (g.dispatches.length + 1)⟩
  stamped : ∀ {id : DispatchId} {x}, g.dispatches[id]? = some x →
    x.request.correlationId = IdSource.nth g.settings.gatewayNumber id

section Issued

variable {g g' : Gateway} {s : Settings}

/-- Dispatches are never forgotten. -/
theorem length_dispatches_of_change (c : Change g g') :
    g.dispatches.length ≤ g'.dispatches.length := by
  refine Nat.le_of_not_lt fun lt => ?_
  obtain ⟨progress, here⟩ := dispatch_of_change c (List.getElem?_eq_getElem lt)
  exact absurd (List.getElem?_eq_some_iff.1 here).1 (Nat.lt_irrefl _)

theorem length_dispatches_of_changes (run : Changes g g') :
    g.dispatches.length ≤ g'.dispatches.length := by
  induction run with
  | refl => exact Nat.le_refl _
  | tail _ c ih => exact Nat.le_trans ih (length_dispatches_of_change c)

/-- No dispatch starts. -/
theorem Issued.frame (i : Issued g) (c : Change g g') (ids : g'.ids = g.ids)
    (length : g'.dispatches.length = g.dispatches.length) : Issued g' where
  source := by rw [ids, i.source, settings_of_change c, length]
  stamped {id x'} here := by
    obtain ⟨lt, -⟩ := List.getElem?_eq_some_iff.1 here
    rw [length] at lt
    have before := List.getElem?_eq_getElem lt
    obtain ⟨progress, after⟩ := dispatch_of_change c before
    obtain rfl := Option.some.inj (here.symm.trans after)
    have stamp := i.stamped before
    rw [settings_of_change c]
    exact stamp

/-- The next dispatch draws the next id. -/
theorem Issued.next (i : Issued g) (few : g.dispatches.length + 1 < 2 ^ 48) :
    g.ids.next = (IdSource.nth g.settings.gatewayNumber g.dispatches.length,
      ⟨g.settings.gatewayNumber, UInt64.ofNat (g.dispatches.length + 1 + 1)⟩) := by
  have counter : (UInt64.ofNat (g.dispatches.length + 1)).toNat = g.dispatches.length + 1 := by
    rw [UInt64.toNat_ofNat', Nat.mod_eq_of_lt]
    omega
  have next := IdSource.next_eq (s := g.ids) (by rw [i.source, counter]; omega)
    (by rw [i.source, counter]; exact few)
  have later : UInt64.ofNat (g.dispatches.length + 1) + 1 =
      UInt64.ofNat (g.dispatches.length + 1 + 1) := (UInt64.ofNat_add _ 1).symm
  rw [next, i.source, IdSource.advanced, later, IdSource.nth]

/-- A dispatch starts with the next id. -/
theorem Issued.concat (i : Issued g) (few : g.dispatches.length + 1 < 2 ^ 48) {x : Dispatch}
    (stamp : x.request.correlationId = g.ids.next.1) (settings : g'.settings = g.settings)
    (ids : g'.ids = g.ids.next.2) (dispatches : g'.dispatches = g.dispatches ++ [x]) :
    Issued g' where
  source := by
    rw [ids, i.next few, settings, dispatches, List.length_append, List.length_singleton]
  stamped {id x'} here := by
    rw [settings]
    rcases getElem?_concat_cases (dispatches ▸ here) with old | ⟨rfl, rfl⟩
    · exact i.stamped old
    · rw [stamp, i.next few]

theorem ids_letIn (waiting : Option DispatchId) (queue : QueueId) :
    (g.letIn waiting queue).ids = g.ids := by
  rcases letIn_cases g waiting queue with ⟨eq, -⟩ | ⟨caller, d, -, -, eq⟩ <;> rw [eq]

theorem length_dispatches_letIn (waiting : Option DispatchId) (queue : QueueId) :
    (g.letIn waiting queue).dispatches.length = g.dispatches.length := by
  rcases letIn_cases g waiting queue with ⟨eq, -⟩ | ⟨caller, d, -, -, eq⟩
  · rw [eq]
  · rw [eq, List.length_set]

/-- A change starts no dispatch, or one that draws the next id and has a claim unless this id is taken. -/
theorem begins_of_change (c : Change g g') :
    (g'.ids = g.ids ∧ g'.dispatches.length = g.dispatches.length) ∨
      ∃ x, g'.ids = g.ids.next.2 ∧ g'.dispatches = g.dispatches ++ [x] ∧
        x.request.correlationId = g.ids.next.1 ∧
        (x.claim = none → g.replies.open? g.ids.next.1 = none) := by
  cases c with
  | begun group e timeout opened seen =>
    exact Or.inr ⟨_, rfl, rfl, rfl, fun none => absurd none (by simp)⟩
  | collided group e timeout taken => exact Or.inr ⟨_, rfl, rfl, rfl, fun _ => taken⟩
  | took here serving reaching popped encoded =>
    exact Or.inl ⟨ids_letIn _ _, length_dispatches_letIn _ _⟩
  | skipped here serving reaching popped unwritable =>
    exact Or.inl ⟨ids_letIn _ _, length_dispatches_letIn _ _⟩
  | resolved here verdict => exact Or.inl ⟨rfl, List.length_set⟩
  | concluded here certain => exact Or.inl ⟨rfl, List.length_set⟩
  | forsaken here live undecided => exact Or.inl ⟨rfl, List.length_set⟩
  | placed here placing among live pushed => exact Or.inl ⟨rfl, List.length_set⟩
  | joined here placing among others live full => exact Or.inl ⟨rfl, List.length_set⟩
  | passed here placing among others shut => exact Or.inl ⟨rfl, List.length_set⟩
  | movedOn here blocked shut => exact Or.inl ⟨rfl, List.length_set⟩
  | _ => exact Or.inl ⟨rfl, rfl⟩

/-- As long as there are ids left, every dispatch has one of its own. -/
theorem issued_of_attained (h : Attained s g) (few : g.dispatches.length < 2 ^ 48) : Issued g := by
  induction h with
  | refl => exact ⟨rfl, fun here => absurd here (by simp [start])⟩
  | @tail g g' attained c ih =>
    have i := ih (Nat.lt_of_le_of_lt (length_dispatches_of_change c) few)
    -- only a dispatch that starts draws an id
    rcases begins_of_change c with ⟨ids, length⟩ | ⟨x, ids, dispatches, stamp, -⟩
    · exact i.frame c ids length
    · rw [dispatches, List.length_append, List.length_singleton] at few
      exact i.concat few stamp (settings_of_change c) ids dispatches

/-- No two dispatches have the same id as long as there are ids left. -/
theorem correlationId_inj (h : Attained s g) (few : g.dispatches.length < 2 ^ 48)
    {id id' : DispatchId} {x y : Dispatch} (here : g.dispatches[id]? = some x)
    (there : g.dispatches[id']? = some y)
    (same : x.request.correlationId = y.request.correlationId) : id = id' := by
  have i := issued_of_attained h few
  obtain ⟨lt, -⟩ := List.getElem?_eq_some_iff.1 here
  obtain ⟨lt', -⟩ := List.getElem?_eq_some_iff.1 there
  rw [i.stamped here, i.stamped there] at same
  exact IdSource.nth_inj (by omega) (by omega) same

end Issued

end Gateway

end Switchboard
