import Switchboard.Registry

/-!
# Registering and deregistering

What `Registry.register` and `Registry.deregister` do to each part of a registry. The groups of a
registry and its nodes say the same (`Registry.Coherent`): a group lists a node exactly if the node
is registered in that group. Registering and deregistering keep this, so the candidates of a group
are nodes of that group (`Registry.entry_of_mem_candidates`).
-/

set_option autoImplicit false

namespace Switchboard.Registry

variable {σ : Type}

/-- The members that a table of groups lists under one. -/
def roster (groups : Assoc String (List String)) (group : String) : List String :=
  (groups.get? group).getD []

/-- The groups list each registered node under its own group, and nothing else; no node is
registered twice. -/
structure Coherent (r : Registry σ) : Prop where
  listed : ∀ group node, node ∈ roster r.groups group ↔
    ∃ entry, r.nodes.get? node = some entry ∧ entry.group = group
  distinct : r.nodes.keys.Nodup

/-! ## Groups -/

theorem mem_roster_joinGroup (groups : Assoc String (List String)) (group node : String)
    (group' node' : String) :
    node' ∈ roster (joinGroup groups group node) group' ↔
      node' ∈ roster groups group' ∨ (group' = group ∧ node' = node) := by
  unfold roster joinGroup
  rw [Assoc.get?_insert]
  by_cases same : group = group'
  · subst same
    by_cases present : node ∈ (groups.get? group).getD [] <;> grind
  · rw [if_neg same]
    grind

theorem mem_roster_leaveGroup (groups : Assoc String (List String)) (group node : String)
    (group' node' : String) :
    node' ∈ roster (leaveGroup groups group node) group' ↔
      node' ∈ roster groups group' ∧ ¬ (group' = group ∧ node' = node) := by
  unfold roster leaveGroup
  cases listed : groups.get? group with
  | none => grind
  | some members =>
    dsimp only
    by_cases rest : (members.filter fun m => m ≠ node).isEmpty = true
    · rw [if_pos rest, Assoc.get?_erase]
      have only : ∀ m ∈ members, m = node := by simpa using rest
      by_cases same : group = group' <;> grind
    · rw [if_neg rest, Assoc.get?_insert]
      by_cases same : group = group' <;> grind

/-- Every group that is listed has a member. -/
def Peopled (groups : Assoc String (List String)) : Prop :=
  ∀ group members, groups.get? group = some members → members ≠ []

theorem peopled_joinGroup {groups : Assoc String (List String)} (h : Peopled groups)
    (group node : String) : Peopled (joinGroup groups group node) := by
  intro group' members listed
  rw [joinGroup, Assoc.get?_insert] at listed
  split at listed
  · obtain rfl := Option.some.inj listed
    split
    · rename_i mem
      exact List.ne_nil_of_mem mem
    · simp
  · exact h group' members listed

theorem peopled_leaveGroup {groups : Assoc String (List String)} (h : Peopled groups)
    (group node : String) : Peopled (leaveGroup groups group node) := by
  intro group' members listed
  rw [leaveGroup] at listed
  cases before : groups.get? group with
  | none =>
    rw [before] at listed
    exact h group' members listed
  | some old =>
    simp only [before] at listed
    split at listed
    · -- the last member left, and the group went with it
      rw [Assoc.get?_erase] at listed
      split at listed
      · exact absurd listed (by simp)
      · exact h group' members listed
    · rename_i some
      rw [Assoc.get?_insert] at listed
      split at listed
      · obtain rfl := Option.some.inj listed
        exact fun none => some (List.isEmpty_iff.2 none)
      · exact h group' members listed

/-! ## Registering -/

/-- A node that is registered under another key is taken over. -/
theorem register_of_owned {r : Registry σ} {group node key : String} {entry : Entry}
    (owned : r.nodes.get? node = some entry) (other : entry.key ≠ key) :
    (r.register group node key).1 = ⟨entry.queue, r.signals.length⟩ ∧
      (r.register group node key).2.signals = r.signals.set entry.signal true ++ [false] ∧
      (r.register group node key).2.queues = r.queues := by
  unfold register
  simp only [owned, if_neg other, and_self]

/-- A node that is not registered gets a queue. -/
theorem register_of_free {r : Registry σ} {group node key : String}
    (free : r.nodes.get? node = none) :
    (r.register group node key).1 = ⟨r.queues.length, r.signals.length⟩ ∧
      (r.register group node key).2.signals = r.signals ++ [false] ∧
      (r.register group node key).2.queues = r.queues ++ [({} : Queue σ)] := by
  unfold register
  simp only [free, and_self]

/-- A node that is registered under its own key keeps its signal. -/
theorem register_of_repeated {r : Registry σ} {group node key : String} {entry : Entry}
    (owned : r.nodes.get? node = some entry) (same : entry.key = key) :
    (r.register group node key).1 = ⟨entry.queue, entry.signal⟩ ∧
      (r.register group node key).2.signals = r.signals ∧
      (r.register group node key).2.queues = r.queues := by
  unfold register
  simp only [owned, if_pos same, and_self]

/-- Registering enters the node with what the connection receives. -/
theorem nodes_register (r : Registry σ) (group node key : String) :
    (r.register group node key).2.nodes =
      r.nodes.insert node
        ⟨group, key, (r.register group node key).1.queue, (r.register group node key).1.signal⟩ := by
  unfold register
  cases owned : r.nodes.get? node <;> rfl

@[simp]
theorem capacity_register (r : Registry σ) (group node key : String) :
    (r.register group node key).2.capacity = r.capacity := by
  unfold register
  cases owned : r.nodes.get? node <;> rfl

/-- Registering leaves what is on the queues alone. -/
@[simp]
theorem queue_register (r : Registry σ) (group node key : String) (id : QueueId) :
    (r.register group node key).2.queue id = r.queue id := by
  unfold register queue
  cases owned : r.nodes.get? node with
  | some entry => rfl
  | none =>
    dsimp only
    rcases Nat.lt_trichotomy id r.queues.length with lt | rfl | gt
    · rw [List.getElem?_append_left lt]
    · simp
    · rw [List.getElem?_eq_none (by simp; omega), List.getElem?_eq_none (by omega)]

theorem coherent_register {r : Registry σ} (h : r.Coherent) (group node key : String) :
    (r.register group node key).2.Coherent where
  distinct := by
    rw [nodes_register]
    exact Assoc.nodup_keys_insert h.distinct _ _
  listed group' node' := by
    rw [nodes_register, Assoc.get?_insert]
    unfold register
    cases owned : r.nodes.get? node with
    | some entry =>
      have listed := h.listed entry.group node
      dsimp only
      rw [mem_roster_joinGroup]
      by_cases same : entry.group = group
      · rw [if_pos same, h.listed group' node']
        by_cases here : node = node'
        · subst here
          rw [if_pos rfl]
          grind
        · rw [if_neg here]
          grind
      · rw [if_neg same, mem_roster_leaveGroup, h.listed group' node']
        by_cases here : node = node'
        · subst here
          rw [if_pos rfl]
          grind
        · rw [if_neg here]
          grind
    | none =>
      dsimp only
      rw [mem_roster_joinGroup, h.listed group' node']
      by_cases here : node = node'
      · subst here
        rw [if_pos rfl]
        simp [owned, eq_comm]
      · rw [if_neg here]
        grind

theorem peopled_register {r : Registry σ} (h : Peopled r.groups) (group node key : String) :
    Peopled (r.register group node key).2.groups := by
  unfold register
  cases owned : r.nodes.get? node with
  | none => exact peopled_joinGroup h group node
  | some entry =>
    dsimp only
    split
    · exact peopled_joinGroup h group node
    · exact peopled_joinGroup (peopled_leaveGroup h entry.group node) group node

/-! ## Signals -/

theorem notified_takeSignal (r : Registry σ) (signal signal' : SignalId) :
    (r.takeSignal signal).notified signal' =
      if signal = signal' then false else r.notified signal' := by
  unfold takeSignal notified
  dsimp only
  rw [List.getElem?_set]
  by_cases same : signal = signal'
  · rw [if_pos same, if_pos same]
    split <;> rfl
  · rw [if_neg same, if_neg same]

theorem notified_of_append {r : Registry σ} {signals : List Bool}
    (h : r.signals = signals ++ [false]) (signal : SignalId) :
    r.notified signal = (signals[signal]?).getD false := by
  unfold notified
  rw [h, List.getElem?_append]
  split
  · rfl
  · rename_i beyond
    rw [List.getElem?_eq_none (Nat.le_of_not_lt beyond)]
    cases (signal - signals.length) <;> rfl

/-! ## Deregistering -/

/-- The registry without a node of a group. -/
def without (r : Registry σ) (group node : String) : Registry σ :=
  { r with nodes := r.nodes.erase node, groups := leaveGroup r.groups group node }

@[simp]
theorem capacity_without (r : Registry σ) (group node : String) :
    (r.without group node).capacity = r.capacity := rfl

/-- Deregistering changes nothing unless the connection owns the node in its group. -/
theorem deregister_cases (r : Registry σ) (group node key : String) :
    (∃ entry, r.nodes.get? node = some entry ∧ entry.key = key ∧ entry.group = group ∧
        r.deregister group node key =
          (.removed ((r.without group node).members group), r.without group node)) ∨
      ((∀ entry, r.nodes.get? node = some entry → ¬ (entry.key = key ∧ entry.group = group)) ∧
        r.deregister group node key = (.stale (r.members group), r)) := by
  unfold deregister
  cases owned : r.nodes.get? node with
  | none => exact Or.inr ⟨by simp, rfl⟩
  | some entry =>
    by_cases owns : entry.key = key ∧ entry.group = group
    · refine Or.inl ⟨entry, rfl, owns.1, owns.2, ?_⟩
      simp only [if_pos owns]
      rfl
    · refine Or.inr ⟨by simpa using owns, ?_⟩
      simp only [if_neg owns]

theorem coherent_without {r : Registry σ} (h : r.Coherent) {group node : String} {entry : Entry}
    (owned : r.nodes.get? node = some entry) (same : entry.group = group) :
    (r.without group node).Coherent where
  distinct := Assoc.nodup_keys_erase h.distinct _
  listed group' node' := by
    unfold without
    dsimp only
    rw [mem_roster_leaveGroup, Assoc.get?_erase, h.listed group' node']
    by_cases here : node = node'
    · subst here
      rw [if_pos rfl]
      grind
    · rw [if_neg here]
      grind

theorem coherent_deregister {r : Registry σ} (h : r.Coherent) (group node key : String) :
    (r.deregister group node key).2.Coherent := by
  rcases deregister_cases r group node key with ⟨entry, owned, -, same, eq⟩ | ⟨-, eq⟩
  · rw [eq]
    exact coherent_without h owned same
  · rw [eq]
    exact h

theorem get?_without (r : Registry σ) (group node other : String) :
    (r.without group node).nodes.get? other = if node = other then none else r.nodes.get? other :=
  Assoc.get?_erase _ _ _

/-- Deregistering removes the entry that the connection owns in its group, and no other. -/
theorem get?_deregister_eq (r : Registry σ) (group node key other : String) :
    (r.deregister group node key).2.nodes.get? other =
      (r.nodes.get? other).filter fun entry =>
        !decide (other = node ∧ entry.key = key ∧ entry.group = group) := by
  rcases deregister_cases r group node key with ⟨owner, owned, mine, inGroup, eq⟩ | ⟨stale, eq⟩
  · rw [eq]
    show (r.without group node).nodes.get? other = _
    rw [get?_without]
    by_cases same : node = other
    · subst same
      rw [if_pos rfl, owned, Option.filter_some, if_neg (by simp [mine, inGroup])]
    · have apart : other ≠ node := fun eq => same eq.symm
      cases found : r.nodes.get? other with
      | none => rw [if_neg same, Option.filter_none]
      | some entry => rw [if_neg same, Option.filter_some, if_pos (by simp [apart])]
  · rw [eq]
    cases found : r.nodes.get? other with
    | none => rfl
    | some entry =>
      have kept : ¬ (other = node ∧ entry.key = key ∧ entry.group = group) := by
        rintro ⟨rfl, owns⟩
        exact stale entry found owns
      rw [Option.filter_some, decide_eq_false kept]
      rfl

/-- The nodes that are left were there before, and the connection does not own them. -/
theorem get?_deregister {r : Registry σ} {group node key other : String} {entry : Entry}
    (left : (r.deregister group node key).2.nodes.get? other = some entry) :
    r.nodes.get? other = some entry ∧
      ¬ (other = node ∧ entry.key = key ∧ entry.group = group) := by
  rw [get?_deregister_eq, Option.filter_eq_some_iff] at left
  obtain ⟨before, notMine⟩ := left
  refine ⟨before, fun mine => ?_⟩
  rw [decide_eq_true mine] at notMine
  exact absurd notMine (by simp)

theorem peopled_deregister {r : Registry σ} (h : Peopled r.groups) (group node key : String) :
    Peopled (r.deregister group node key).2.groups := by
  rcases deregister_cases r group node key with ⟨entry, -, -, -, eq⟩ | ⟨-, eq⟩
  · rw [eq]
    exact peopled_leaveGroup h group node
  · rw [eq]
    exact h

/-- Only the connection that owns a node removes it. -/
theorem key?_of_removed {r : Registry σ} {group node key : String} {members : List String}
    (removed : (r.deregister group node key).1 = .removed members) : r.key? node = some key := by
  rcases deregister_cases r group node key with ⟨entry, owned, mine, -, -⟩ | ⟨-, eq⟩
  · rw [key?, owned]
    exact congrArg some mine
  · rw [eq] at removed
    exact absurd removed (by simp)

/-- Deregistering touches only who is registered. -/
theorem deregister_frame (r : Registry σ) (group node key : String) :
    (r.deregister group node key).2.signals = r.signals ∧
      (r.deregister group node key).2.queues = r.queues ∧
      (r.deregister group node key).2.capacity = r.capacity := by
  rcases deregister_cases r group node key with ⟨entry, -, -, -, eq⟩ | ⟨-, eq⟩
  · rw [eq]
    exact ⟨rfl, rfl, rfl⟩
  · rw [eq]
    exact ⟨rfl, rfl, rfl⟩

/-- Deregistering leaves what is on the queues alone. -/
@[simp]
theorem queue_deregister (r : Registry σ) (group node key : String) (id : QueueId) :
    (r.deregister group node key).2.queue id = r.queue id := by
  rw [queue, (deregister_frame r group node key).2.1, queue]

/-! ## Members and candidates -/

/-- The candidates of a group are registered nodes of it, each with its queue. -/
theorem entry_of_mem_candidates {r : Registry σ} (h : r.Coherent) {group : String}
    {found : List Candidate} (seen : r.candidates group = some found) {c : Candidate}
    (mem : c ∈ found) :
    ∃ entry, r.nodes.get? c.node = some entry ∧ entry.group = group ∧ entry.queue = c.queue := by
  unfold candidates at seen
  cases listed : r.groups.get? group with
  | none => simp [listed] at seen
  | some nodes =>
    simp only [listed] at seen
    split at seen
    · exact absurd seen (by simp)
    · obtain rfl := Option.some.inj seen
      obtain ⟨node, among, made⟩ := List.mem_filterMap.1 mem
      obtain ⟨entry, owned, rfl⟩ := Option.map_eq_some_iff.1 made
      have member : node ∈ roster r.groups group :=
        List.mem_mergeSort.1 among
      obtain ⟨entry', owned', inGroup⟩ := (h.listed group node).1 member
      obtain rfl := Option.some.inj (owned.symm.trans owned')
      exact ⟨entry, owned, inGroup, rfl⟩

theorem mem_members_iff {r : Registry σ} (h : r.Coherent) (group node : String) :
    node ∈ r.members group ↔ ∃ entry, r.nodes.get? node = some entry ∧ entry.group = group :=
  List.mem_mergeSort.trans (h.listed group node)

/-- A group has members exactly if a node is registered in it. -/
theorem hasMembers_iff {r : Registry σ} (h : r.Coherent) (peopled : Peopled r.groups)
    (group : String) :
    r.hasMembers group = true ↔
      ∃ node entry, r.nodes.get? node = some entry ∧ entry.group = group := by
  rw [hasMembers, Option.isSome_iff_exists]
  constructor
  · rintro ⟨members, listed⟩
    obtain ⟨node, mem⟩ := List.exists_mem_of_ne_nil members (peopled group members listed)
    refine ⟨node, (h.listed group node).1 ?_⟩
    rw [roster, listed]
    exact mem
  · rintro ⟨node, registered⟩
    have mem := (h.listed group node).2 registered
    rw [roster] at mem
    cases listed : r.groups.get? group with
    | some members => exact ⟨members, rfl⟩
    | none => exact absurd mem (by simp [listed])

/-- A list of candidates is never empty. -/
theorem candidates_ne_nil {r : Registry σ} {group : String} {left : List Candidate}
    (seen : r.candidates group = some left) : left ≠ [] := by
  unfold candidates at seen
  cases listed : r.groups.get? group with
  | none => exact absurd seen (by simp [listed])
  | some members =>
    simp only [listed] at seen
    split at seen
    · exact absurd seen (by simp)
    · rename_i some
      obtain rfl := Option.some.inj seen
      exact fun none => some (List.isEmpty_iff.2 none)

/-- A group has no candidates exactly if no node is registered in it. -/
theorem candidates_eq_none_iff {r : Registry σ} (h : r.Coherent) (group : String) :
    r.candidates group = none ↔
      ∀ node entry, r.nodes.get? node = some entry → entry.group ≠ group := by
  have found : ∀ node entry, r.nodes.get? node = some entry → entry.group = group →
      node ∈ roster r.groups group := fun node entry owned same =>
    (h.listed group node).2 ⟨entry, owned, same⟩
  constructor
  · intro nobody node entry owned same
    have mem := found node entry owned same
    unfold candidates at nobody
    cases listed : r.groups.get? group with
    | none => exact absurd mem (by simp [roster, listed])
    | some members =>
      -- the node itself would be a candidate
      simp only [listed] at nobody
      split at nobody
      · rename_i empty
        have among : node ∈ r.members group := List.mem_mergeSort.2 mem
        have made := List.filterMap_eq_nil_iff.1 (List.isEmpty_iff.1 empty) node among
        exact absurd made (by simp [owned])
      · exact absurd nobody (by simp)
  · intro nobody
    cases seen : r.candidates group with
    | none => rfl
    | some left =>
      -- the first candidate is a node of the group
      obtain ⟨c, mem⟩ := List.exists_mem_of_ne_nil left (candidates_ne_nil seen)
      obtain ⟨entry, owned, same, -⟩ := entry_of_mem_candidates h seen mem
      exact absurd same (nobody c.node entry owned)

/-- A queue is owned by a registered node exactly if an entry has it. -/
theorem owns_iff {r : Registry σ} (h : r.Coherent) (queue : QueueId) :
    r.owns queue = true ↔ ∃ node entry, r.nodes.get? node = some entry ∧ entry.queue = queue := by
  unfold owns
  rw [List.any_eq_true]
  constructor
  · rintro ⟨⟨node, entry⟩, mem, same⟩
    exact ⟨node, entry, Assoc.get?_eq_some_of_mem h.distinct mem, by simpa using same⟩
  · rintro ⟨node, entry, owned, same⟩
    exact ⟨(node, entry), Assoc.mem_of_get?_eq_some owned, by simpa using same⟩

end Switchboard.Registry
