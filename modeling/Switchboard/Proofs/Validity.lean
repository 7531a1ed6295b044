import Switchboard.Config.Basic
import Mathlib.Data.List.Induction

/-!
# Which configurations are valid

A configuration is valid if it has a port, if it names its groups, each once and by a name that is not
empty, and if none of its numbers is zero (`Config.Valid`). One that is not has a first fault
(`Config.FirstFault`): the port comes before the groups, the groups come before the numbers, and among
the groups the first that has no name, or the name of one before it, decides. A gateway starts with the
valid configurations, and with no other.

Main result: `validate_exact`.
-/

set_option autoImplicit false

namespace Switchboard

/-- No group is without a name, and none has the name of another. -/
structure WellNamed (groups : List String) : Prop where
  named : ∀ name ∈ groups, name ≠ ""
  distinct : groups.Nodup

/-! ## The names of groups -/

section Groups

variable {groups before after seen : List String} {name : String}

theorem wellNamed_nil : WellNamed [] := ⟨by simp, List.nodup_nil⟩

theorem WellNamed.concat (h : WellNamed groups) (named : name ≠ "") (fresh : name ∉ groups) :
    WellNamed (groups ++ [name]) where
  named other mem := by
    rcases List.mem_append.1 mem with old | new
    · exact h.named other old
    · rwa [List.mem_singleton.1 new]
  distinct := List.nodup_append.2
    ⟨h.distinct, by simp, fun a old b new same => by
      rw [same, List.mem_singleton.1 new] at old
      exact fresh old⟩

/-- Groups are well named, or there is a first one that has no name or that of one before it. -/
theorem wellNamed_or_exists_first (groups : List String) :
    WellNamed groups ∨ ∃ before name after, groups = before ++ name :: after ∧ WellNamed before ∧
      (name = "" ∨ name ∈ before) := by
  -- a fault that is there stays the first one, whatever group comes at the end
  induction groups using List.reverseRecOn with
  | nil => exact Or.inl wellNamed_nil
  | append_singleton groups name ih =>
    rcases ih with sound | ⟨before, first, after, rfl, sound, fault⟩
    · by_cases fault : name = "" ∨ name ∈ groups
      · exact Or.inr ⟨groups, name, [], rfl, sound, fault⟩
      · obtain ⟨named, fresh⟩ := not_or.1 fault
        exact Or.inl (sound.concat named fresh)
    · exact Or.inr ⟨before, first, after ++ [name], by simp, sound, fault⟩

/-- Well named groups that were not seen before are passed over, and are seen then. -/
theorem validateGroups_append (named : ∀ name ∈ before, name ≠ "") (distinct : before.Nodup)
    (fresh : ∀ name ∈ before, name ∉ seen) :
    validateGroups seen (before ++ after) = validateGroups (before.reverse ++ seen) after := by
  induction before generalizing seen with
  | nil => rfl
  | cons name rest ih =>
    obtain ⟨apart, distinct⟩ := List.nodup_cons.1 distinct
    rw [List.cons_append, validateGroups, if_neg (named name List.mem_cons_self),
      if_neg (fresh name List.mem_cons_self)]
    rw [ih (fun other mem => named other (List.mem_cons_of_mem _ mem)) distinct]
    · simp
    · intro other mem again
      rcases List.mem_cons.1 again with rfl | old
      · exact apart mem
      · exact fresh other (List.mem_cons_of_mem _ mem) old

theorem WellNamed.validateGroups_append (h : WellNamed before) :
    Switchboard.validateGroups [] (before ++ after) =
      Switchboard.validateGroups before.reverse after := by
  rw [Switchboard.validateGroups_append h.named h.distinct (by simp), List.append_nil]

theorem WellNamed.validateGroups (h : WellNamed groups) :
    Switchboard.validateGroups [] groups = .ok () := by
  have all : Switchboard.validateGroups [] (groups ++ []) = _ := h.validateGroups_append
  rwa [List.append_nil] at all

theorem validateGroups_of_empty (h : WellNamed before) :
    validateGroups [] (before ++ "" :: after) = .error .emptyGroupName := by
  rw [h.validateGroups_append, validateGroups, if_pos rfl]

theorem validateGroups_of_duplicate (h : WellNamed before) (earlier : name ∈ before) :
    validateGroups [] (before ++ name :: after) = .error (.duplicateGroup name) := by
  rw [h.validateGroups_append, validateGroups, if_neg (h.named name earlier),
    if_pos (List.mem_reverse.2 earlier)]

end Groups

namespace Config

/-- The numbers that must not be zero, with their names, in the order in which they are looked at. -/
def numbers (c : Config) : List (String × UInt64) :=
  [("queue_capacity", c.queueCapacity), ("heartbeat_interval_ms", c.heartbeatIntervalMs),
    ("handshake_timeout_ms", c.handshakeTimeoutMs), ("max_frame_bytes", c.maxFrameBytes),
    ("timeouts.standard_ms", c.timeouts.standardMs), ("timeouts.bulk_ms", c.timeouts.bulkMs),
    ("timeouts.transfer_ms", c.timeouts.transferMs)]

/-- Nothing is wrong with a configuration. -/
structure Valid (c : Config) : Prop where
  port : c.listener.port ≠ 0
  some : c.groups ≠ []
  wellNamed : WellNamed c.groups
  nonzero : ∀ number ∈ c.numbers, number.2 ≠ 0

/-- What is wrong with a configuration first. -/
inductive FirstFault (c : Config) : Fault → Prop
  | invalidPort (port : c.listener.port = 0) : FirstFault c .invalidPort
  | noGroups (port : c.listener.port ≠ 0) (none : c.groups = []) : FirstFault c .noGroups
  /-- The groups before are well named, and this one has no name. -/
  | emptyGroupName {before after : List String} (port : c.listener.port ≠ 0)
    (groups : c.groups = before ++ "" :: after) (wellNamed : WellNamed before) :
    FirstFault c .emptyGroupName
  /-- The groups before are well named, and one of them has the name of this one. -/
  | duplicateGroup {before after : List String} {name : String} (port : c.listener.port ≠ 0)
    (groups : c.groups = before ++ name :: after) (wellNamed : WellNamed before)
    (earlier : name ∈ before) : FirstFault c (.duplicateGroup name)
  /-- The groups are well named, the numbers before are not zero, and this one is. -/
  | zero {before after : List (String × UInt64)} {field : String} (port : c.listener.port ≠ 0)
    (some : c.groups ≠ []) (wellNamed : WellNamed c.groups)
    (numbers : c.numbers = before ++ (field, 0) :: after)
    (nonzero : ∀ number ∈ before, number.2 ≠ 0) : FirstFault c (.zero field)

/-- The checks on some numbers, one after another. -/
def nonzeroAll : List (String × UInt64) → Except Fault Unit
  | [] => .ok ()
  | (field, n) :: rest => do
    Switchboard.nonzero field n
    nonzeroAll rest

/-! ## The numbers -/

section Numbers

variable {numbers before after : List (String × UInt64)}

theorem nonzeroAll_append (nonzero : ∀ number ∈ before, number.2 ≠ 0) :
    nonzeroAll (before ++ after) = nonzeroAll after := by
  induction before with
  | nil => rfl
  | cons number rest ih =>
    have first : Switchboard.nonzero number.1 number.2 = .ok () :=
      if_neg (nonzero number List.mem_cons_self)
    rw [List.cons_append, nonzeroAll, first]
    exact ih fun other mem => nonzero other (List.mem_cons_of_mem _ mem)

theorem nonzeroAll_eq_ok (nonzero : ∀ number ∈ numbers, number.2 ≠ 0) :
    nonzeroAll numbers = .ok () := by
  have all : nonzeroAll (numbers ++ []) = _ := nonzeroAll_append nonzero
  rwa [List.append_nil] at all

theorem nonzeroAll_of_zero {field : String} (nonzero : ∀ number ∈ before, number.2 ≠ 0) :
    nonzeroAll (before ++ (field, 0) :: after) = .error (.zero field) := by
  rw [nonzeroAll_append nonzero]
  rfl

/-- Some numbers are not zero, or there is a first one that is. -/
theorem nonzero_or_exists_first (numbers : List (String × UInt64)) :
    (∀ number ∈ numbers, number.2 ≠ 0) ∨
      ∃ before field after, numbers = before ++ (field, 0) :: after ∧
        ∀ number ∈ before, number.2 ≠ 0 := by
  induction numbers using List.reverseRecOn with
  | nil => exact Or.inl (by simp)
  | append_singleton numbers number ih =>
    obtain ⟨field, n⟩ := number
    rcases ih with sound | ⟨before, first, after, rfl, sound⟩
    · by_cases zero : n = 0
      · exact Or.inr ⟨numbers, field, [], by rw [zero], sound⟩
      · refine Or.inl fun number mem => ?_
        rcases List.mem_append.1 mem with old | new
        · exact sound number old
        · rwa [List.mem_singleton.1 new]
    · exact Or.inr ⟨before, first, after ++ [(field, n)], by simp, sound⟩

end Numbers

/-! ## The verdict -/

section Verdict

variable {c : Config} {fault : Fault}

/-- The numbers are looked at one after another. -/
theorem nonzeroAll_numbers (c : Config) :
    nonzeroAll c.numbers = (do
      Switchboard.nonzero "queue_capacity" c.queueCapacity
      Switchboard.nonzero "heartbeat_interval_ms" c.heartbeatIntervalMs
      Switchboard.nonzero "handshake_timeout_ms" c.handshakeTimeoutMs
      Switchboard.nonzero "max_frame_bytes" c.maxFrameBytes
      c.timeouts.validate) := by
  have last : ∀ check : Except Fault Unit, (check >>= fun _ => .ok ()) = check := by
    intro check
    cases check <;> rfl
  simp only [Config.numbers, nonzeroAll, Timeouts.validate, last]

/-- The port is looked at first, then the groups, then the numbers. -/
theorem validate_eq (c : Config) :
    c.validate = if c.listener.port = 0 then .error .invalidPort else
      if c.groups = [] then .error .noGroups else
        validateGroups [] c.groups >>= fun _ => nonzeroAll c.numbers := by
  rw [validate, Listener.validate, nonzeroAll_numbers]
  split
  · rfl
  · by_cases none : c.groups = []
    · rw [if_pos none, if_pos (List.isEmpty_iff.2 none)]
      rfl
    · rw [if_neg none, if_neg fun empty => none (List.isEmpty_iff.1 empty)]
      rfl

theorem Valid.validate (valid : c.Valid) : c.validate = .ok () := by
  rw [validate_eq, if_neg valid.port, if_neg valid.some, valid.wellNamed.validateGroups]
  exact nonzeroAll_eq_ok valid.nonzero

theorem FirstFault.validate (first : c.FirstFault fault) : c.validate = .error fault := by
  rw [validate_eq]
  cases first with
  | invalidPort port => rw [if_pos port]
  | noGroups port none => rw [if_neg port, if_pos none]
  | emptyGroupName port groups wellNamed =>
    rw [if_neg port, if_neg (by simp [groups]), groups, validateGroups_of_empty wellNamed]
    rfl
  | duplicateGroup port groups wellNamed earlier =>
    rw [if_neg port, if_neg (by simp [groups]), groups,
      validateGroups_of_duplicate wellNamed earlier]
    rfl
  | zero port some wellNamed numbers nonzero =>
    rw [if_neg port, if_neg some, wellNamed.validateGroups, numbers]
    exact nonzeroAll_of_zero nonzero

/-- A configuration is valid or has a first fault. -/
theorem valid_or_exists_firstFault (c : Config) : c.Valid ∨ ∃ fault, c.FirstFault fault := by
  by_cases port : c.listener.port = 0
  · exact Or.inr ⟨_, .invalidPort port⟩
  by_cases none : c.groups = []
  · exact Or.inr ⟨_, .noGroups port none⟩
  rcases wellNamed_or_exists_first c.groups with
    wellNamed | ⟨before, name, after, groups, wellNamed, rfl | earlier⟩
  · rcases nonzero_or_exists_first c.numbers with nonzero | ⟨before, field, after, numbers, nonzero⟩
    · exact Or.inl ⟨port, none, wellNamed, nonzero⟩
    · exact Or.inr ⟨_, .zero port none wellNamed numbers nonzero⟩
  · exact Or.inr ⟨_, .emptyGroupName port groups wellNamed⟩
  · exact Or.inr ⟨_, .duplicateGroup port groups wellNamed earlier⟩

theorem validate_eq_ok_iff : c.validate = .ok () ↔ c.Valid := by
  refine ⟨fun ok => (valid_or_exists_firstFault c).resolve_right ?_, Valid.validate⟩
  rintro ⟨fault, first⟩
  exact absurd (ok.symm.trans first.validate) (by simp)

theorem validate_eq_error_iff : c.validate = .error fault ↔ c.FirstFault fault := by
  refine ⟨fun error => ?_, FirstFault.validate⟩
  rcases valid_or_exists_firstFault c with valid | ⟨fault', first⟩
  · exact absurd (error.symm.trans valid.validate) (by simp)
  · rwa [Except.error.inj (error.symm.trans first.validate)]

end Verdict

/-- A configuration passes if it is valid, and otherwise its first fault is reported. A gateway comes of
the configurations that pass, and any other is refused for the same fault. -/
theorem validate_exact (c : Config) :
    (c.validate = .ok () ↔ c.Valid) ∧
      (∀ fault, c.validate = .error fault ↔ c.FirstFault fault) ∧
      (∀ g, c.gateway = .ok g ↔ c.validate = .ok () ∧ g = .start c.settings) ∧
      ∀ fault, c.gateway = .error fault ↔ c.validate = .error fault := by
  refine ⟨validate_eq_ok_iff, fun _ => validate_eq_error_iff, ?_, ?_⟩
  · intro g
    rw [gateway]
    cases c.validate with
    | ok valid =>
      show Except.ok (Gateway.start c.settings) = .ok g ↔ Except.ok valid = .ok () ∧ _
      simp [eq_comm]
    | error fault =>
      show (Except.error fault : Except Fault Gateway) = .ok g ↔ _
      simp
  · intro fault
    rw [gateway]
    cases c.validate with
    | ok valid =>
      show (Except.ok (Gateway.start c.settings) : Except Fault Gateway) = .error fault ↔ _
      simp
    | error fault' =>
      show (Except.error fault' : Except Fault Gateway) = .error fault ↔ _
      simp

/-- The name that is missing comes before the one that stands twice, and before the number. -/
example : ({ groups := ["a", "", "a"], queueCapacity := 0 } : Config).validate =
    .error .emptyGroupName := by
  decide

end Config

end Switchboard
