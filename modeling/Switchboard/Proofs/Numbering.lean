import Mathlib.Data.List.Nodup
import Mathlib.Data.Nat.ModEq
import Switchboard.Correlation.IdSource

/-!
# The ids of a gateway in order

An id is the number of its gateway times 2^48 plus the low 48 bits of the counter
(`toNat_current`). A draw that meets the id 0 draws again, and of two counters in a row only one has
low bits that are 0, so it draws twice at most (`draws_iff`). The ids of a gateway therefore go round
in a circle: of all 2^48 ids with its number, or, if its number is 0, of those that are not 0
(`toNat_take`). The counter wraps at 2^64, which is a multiple of 2^48, so this disturbs nothing.

Main result: `ids_unique`.
-/

set_option autoImplicit false

namespace Switchboard.Correlation.IdSource

/-- The drawing of an id, without a bound on the number of passes: each pass takes one value of the
counter, and an id that is 0 is passed over. -/
inductive Draws : IdSource → Nat → CorrelationId → IdSource → Prop
  | found {s : IdSource} (some : s.current ≠ noReply) : Draws s 1 s.current s.advanced
  | skipped {s s' : IdSource} {passes : Nat} {id : CorrelationId} (none : s.current = noReply)
      (later : Draws s.advanced passes id s') : Draws s (passes + 1) id s'

/-- The number of ids that a gateway has. -/
def idCount (gateway : UInt16) : Nat := if gateway = 0 then 2 ^ 48 - 1 else 2 ^ 48

/-- The place of the next id on the circle of the gateway's ids, the lowest id being at place 0. -/
def place (s : IdSource) : Nat := s.counter.toNat % 2 ^ 48 - (2 ^ 48 - idCount s.gateway)

/-- The id at a place on the circle, as a number. -/
def idAt (gateway : UInt16) (place : Nat) : Nat :=
  gateway.toNat * 2 ^ 48 + (2 ^ 48 - idCount gateway) + place % idCount gateway

section

variable {s s' t : IdSource} {passes : Nat} {id : CorrelationId}

/-! ## One draw -/

/-- The parts of an id do not overlap. -/
theorem toNat_current (s : IdSource) :
    s.current.toNat = s.gateway.toNat * 2 ^ 48 + s.counter.toNat % 2 ^ 48 := by
  have fits := s.gateway.toNat_lt
  have mask : counterMask.toNat = 2 ^ 48 - 1 := rfl
  have high : (s.gateway.toUInt64 <<< 48).toNat = s.gateway.toNat * 2 ^ 48 := by
    rw [UInt64.toNat_shiftLeft, UInt16.toNat_toUInt64, Nat.shiftLeft_eq]
    simp only [UInt64.reduceToNat, Nat.reduceMod]
    omega
  have low : s.counter.toNat % 2 ^ 48 < 2 ^ 48 := Nat.mod_lt _ (by decide)
  -- the number of the gateway has no bit below the 48th, so the bitwise or is a sum
  rw [current, UInt64.toNat_or, UInt64.toNat_and, high, mask, Nat.and_two_pow_sub_one_eq_mod,
    ← Nat.shiftLeft_eq, Nat.shiftLeft_add_eq_or_of_lt low]

@[simp]
theorem gateway_advanced (s : IdSource) : s.advanced.gateway = s.gateway := rfl

theorem toNat_counter_advanced (s : IdSource) :
    s.advanced.counter.toNat % 2 ^ 48 = (s.counter.toNat % 2 ^ 48 + 1) % 2 ^ 48 := by
  rw [advanced, UInt64.toNat_add]
  simp only [UInt64.reduceToNat]
  omega

theorem current_eq_noReply_iff :
    s.current = noReply ↔ s.gateway = 0 ∧ s.counter.toNat % 2 ^ 48 = 0 := by
  have zero : s.gateway = 0 ↔ s.gateway.toNat = 0 := UInt16.toNat_inj.symm
  have none : noReply.toNat = 0 := rfl
  rw [← UInt64.toNat_inj, toNat_current, none, zero]
  omega

/-- Behind an id that is 0 comes one that is not. -/
theorem current_advanced_ne_noReply (none : s.current = noReply) : s.advanced.current ≠ noReply := by
  intro again
  have low := (current_eq_noReply_iff.1 none).2
  have low' := (current_eq_noReply_iff.1 again).2
  rw [toNat_counter_advanced, low] at low'
  exact absurd low' (by decide)

theorem next_of_some (some : s.current ≠ noReply) : s.next = (s.current, s.advanced) := by
  rw [next, draw, if_neg some]

theorem next_of_none (none : s.current = noReply) :
    s.next = (s.advanced.current, s.advanced.advanced) := by
  rw [next, draw, if_pos none, draw, if_neg (current_advanced_ne_noReply none)]

theorem Draws.unique (first : Draws s passes id s') {passes' : Nat} {id' : CorrelationId}
    (second : Draws s passes' id' t) : passes' = passes ∧ id' = id ∧ t = s' := by
  induction first generalizing passes' with
  | found some =>
    cases second with
    | found _ => exact ⟨rfl, rfl, rfl⟩
    | skipped none later => exact absurd none some
  | skipped none later ih =>
    cases second with
    | found some => exact absurd none some
    | skipped _ later' =>
      obtain ⟨rfl, rfl, rfl⟩ := ih later'
      exact ⟨rfl, rfl, rfl⟩

/-- A draw always ends, after the second pass at the latest. -/
theorem draws_next (s : IdSource) :
    Draws s (if s.current = noReply then 2 else 1) s.next.1 s.next.2 := by
  by_cases none : s.current = noReply
  · rw [if_pos none, next_of_none none]
    exact .skipped none (.found (current_advanced_ne_noReply none))
  · rw [if_neg none, next_of_some none]
    exact .found none

theorem draws_iff :
    Draws s passes id s' ↔
      (id, s') = s.next ∧ passes = if s.current = noReply then 2 else 1 := by
  constructor
  · intro draws
    obtain ⟨rfl, rfl, rfl⟩ := (draws_next s).unique draws
    exact ⟨rfl, rfl⟩
  · rintro ⟨next, rfl⟩
    have draws := draws_next s
    rwa [← next] at draws

/-! ## The circle of ids -/

theorem idCount_pos (gateway : UInt16) : 0 < idCount gateway := by
  rw [idCount]
  split <;> decide

theorem place_lt (s : IdSource) : s.place < idCount s.gateway := by
  have low : s.counter.toNat % 2 ^ 48 < 2 ^ 48 := Nat.mod_lt _ (by decide)
  rw [place, idCount]
  split <;> omega

/-- A draw gives the id at the source's place and moves the source on by one place. -/
theorem next_eq_idAt (s : IdSource) :
    s.next.1.toNat = idAt s.gateway s.place ∧ s.next.2.gateway = s.gateway ∧
      s.next.2.place = (s.place + 1) % idCount s.gateway := by
  have low : s.counter.toNat % 2 ^ 48 < 2 ^ 48 := Nat.mod_lt _ (by decide)
  have step := s.toNat_counter_advanced
  rw [idAt, Nat.mod_eq_of_lt s.place_lt]
  by_cases none : s.current = noReply
  · -- here the counter of gateway 0 is 0: the id is 1, and the source goes to the place behind it
    obtain ⟨zero, first⟩ := current_eq_noReply_iff.1 none
    have step' := s.advanced.toNat_counter_advanced
    rw [step, first] at step'
    rw [next_of_none none]
    refine ⟨?_, rfl, ?_⟩
    · rw [toNat_current, step, first, place, first, idCount, gateway_advanced, if_pos zero]
      omega
    · rw [place, place, gateway_advanced, gateway_advanced, step', first, idCount, if_pos zero]
      omega
  · -- here the counter of gateway 0 is not 0
    have some : s.gateway = 0 → s.counter.toNat % 2 ^ 48 ≠ 0 := fun zero first =>
      none (current_eq_noReply_iff.2 ⟨zero, first⟩)
    rw [next_of_some none]
    refine ⟨?_, rfl, ?_⟩
    · rw [toNat_current, place, idCount]
      split
      · have counter := some ‹_›
        omega
      · omega
    · rw [place, place, gateway_advanced, step, idCount]
      split
      · have counter := some ‹_›
        omega
      · rfl

/-- The ids that a source draws are those that follow on the circle. -/
theorem toNat_take (s : IdSource) (n : Nat) :
    (s.take n).1.map UInt64.toNat = (List.range n).map fun k => idAt s.gateway (s.place + k) := by
  -- induction on the number of draws, the first one first
  induction n generalizing s with
  | zero => rfl
  | succ n ih =>
    obtain ⟨id, gateway, place⟩ := s.next_eq_idAt
    rw [take, List.map_cons, id, ih, List.range_succ_eq_map, List.map_cons, List.map_map, gateway,
      place]
    refine congrArg _ (List.map_congr_left fun k _ => ?_)
    rw [Function.comp_apply, idAt, idAt, Nat.mod_add_mod, Nat.add_right_comm s.place, Nat.add_assoc s.place]

theorem exists_idAt_of_mem {n : Nat} (mem : id ∈ (s.take n).1) :
    ∃ place, id.toNat = idAt s.gateway place := by
  have mapped : id.toNat ∈ (s.take n).1.map UInt64.toNat := List.mem_map_of_mem mem
  rw [toNat_take] at mapped
  obtain ⟨k, -, same⟩ := List.mem_map.1 mapped
  exact ⟨_, same.symm⟩

theorem length_take (s : IdSource) (n : Nat) : (s.take n).1.length = n := by
  have lengths := congrArg List.length (s.toNat_take n)
  simpa using lengths

/-- As many ids as there are on the circle are different. -/
theorem nodup_take {n : Nat} (few : n ≤ idCount s.gateway) : (s.take n).1.Nodup := by
  refine List.Nodup.of_map UInt64.toNat ?_
  rw [toNat_take]
  refine List.Nodup.map_on (fun a among b among' same => ?_) List.nodup_range
  have lt := List.mem_range.1 among
  have lt' := List.mem_range.1 among'
  -- equal ids have the same place, and two draws less than a turn apart have not
  have places : Nat.ModEq (idCount s.gateway) (s.place + a) (s.place + b) := Nat.add_left_cancel same
  exact (Nat.ModEq.add_left_cancel' s.place places).eq_of_lt_of_lt (by omega) (by omega)

theorem idAt_ne_zero (gateway : UInt16) (place : Nat) : idAt gateway place ≠ 0 := by
  rw [idAt, idCount]
  split
  · omega
  · rename_i other
    have pos : gateway.toNat ≠ 0 := fun zero => other (UInt16.toNat_inj.1 zero)
    omega

theorem idAt_div (gateway : UInt16) (place : Nat) : idAt gateway place / 2 ^ 48 = gateway.toNat := by
  have low : place % idCount gateway < idCount gateway := Nat.mod_lt _ (idCount_pos gateway)
  have most : idCount gateway ≤ 2 ^ 48 := by
    rw [idCount]
    split <;> omega
  rw [idAt]
  omega

end

/-- Whatever number a gateway has and wherever its counter stands, a draw ends, in its second pass at the
latest. Of the ids that it gives from there on, any 2^48 - 1 in a row are different, each has the
number of the gateway in its high 16 bits, and none is 0 or an id of a gateway with another number. -/
theorem ids_unique (s : IdSource) :
    (∀ n < 2 ^ 48, (s.take n).1.length = n ∧ (s.take n).1.Nodup) ∧
      (∀ n, ∀ id ∈ (s.take n).1, id ≠ noReply ∧ id >>> 48 = s.gateway.toUInt64) ∧
      (∃ most ≤ 2, ∀ passes id s', Draws s passes id s' ↔ (id, s') = s.next ∧ passes = most) ∧
      ∀ t : IdSource, t.gateway ≠ s.gateway →
        ∀ m n, ∀ id ∈ (s.take m).1, ∀ id' ∈ (t.take n).1, id ≠ id' := by
  refine ⟨fun n few => ⟨s.length_take n, nodup_take ?_⟩, fun n id mem => ?_, ?_, ?_⟩
  · rw [idCount]
    split <;> omega
  · obtain ⟨place, same⟩ := exists_idAt_of_mem mem
    refine ⟨?_, ?_⟩
    · rintro rfl
      exact idAt_ne_zero s.gateway place same.symm
    · rw [← UInt64.toNat_inj, UInt64.toNat_shiftRight, same, UInt16.toNat_toUInt64]
      simp only [UInt64.reduceToNat, Nat.reduceMod]
      rw [Nat.shiftRight_eq_div_pow, idAt_div]
  · refine ⟨if s.current = noReply then 2 else 1, ?_, fun passes id s' => draws_iff⟩
    split <;> decide
  · rintro t other m n id mem id' mem' rfl
    obtain ⟨place, same⟩ := exists_idAt_of_mem mem
    obtain ⟨place', same'⟩ := exists_idAt_of_mem mem'
    refine other (UInt16.toNat_inj.1 ?_)
    rw [← idAt_div t.gateway place', ← same', same, idAt_div]

/-- Gateway 0 comes to the end of its counter and passes over the id 0. -/
theorem ids_unique_wrapping :
    let s : IdSource := ⟨0, 0xFFFFFFFFFFFF⟩
    (s.take 3).1 = [0xFFFFFFFFFFFF, 1, 2] ∧ (s.take 3).1.Nodup ∧
      Draws s.next.2 2 1 ⟨0, 0x1000000000002⟩ := by
  intro s
  exact ⟨by decide, ((ids_unique s).1 3 (by decide)).2, draws_iff.2 ⟨by decide, by decide⟩⟩

end Switchboard.Correlation.IdSource
