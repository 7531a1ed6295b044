import Mathlib.Data.Finmap
import Mathlib.Data.Finset.Sort
import Mathlib.Data.String.Basic
import Switchboard.Proofs.Registration

/-!
# The registry as one map

A registry keeps two tables, the nodes with their entries and the members of each group. This module
shows that the two never say more than one finite map from nodes to their places (`Directory`): calls
of the registry and of the directory give the same answers (`refines_call`), whatever happens to the
queues and signals in between, and every view of the registry can be read off the map (`Views`).

Main result: `registry_refines_directory`.
-/

set_option autoImplicit false

namespace Switchboard

/-- Where a node is registered. -/
structure Place where
  group : String
  key : String
  queue : QueueId
  deriving DecidableEq, Repr, Inhabited

/-- One map from nodes to their places, and the number of queues that were made. -/
structure Directory where
  places : Finmap fun _ : String => Place := ∅
  made : Nat := 0

namespace Directory

/-- Sets the group and the key of a node. A node that is there keeps its queue, and one that comes gets
a new one. -/
def register (d : Directory) (group node key : String) : QueueId × Directory :=
  match d.places.lookup node with
  | some place =>
    (place.queue, { d with places := d.places.insert node { place with group, key } })
  | none =>
    (d.made, { places := d.places.insert node ⟨group, key, d.made⟩, made := d.made + 1 })

/-- The nodes of a group in ascending order. -/
def members (d : Directory) (group : String) : List String :=
  (d.places.keys.filter fun node => (d.places.lookup node).map (·.group) = some group).sort

/-- Removes a node if it is there with exactly this group and key. -/
def deregister (d : Directory) (group node key : String) : Deregistration × Directory :=
  if (d.places.lookup node).any fun place => place.group = group ∧ place.key = key then
    let after := { d with places := d.places.erase node }
    (.removed (after.members group), after)
  else (.stale (d.members group), d)

end Directory

namespace Registry

variable {σ : Type}

/-- What is done to a registry: its two calls, and what others do to its queues and signals. -/
inductive Call (σ : Type)
  | register (group node key : String)
  | deregister (group node key : String)
  /-- Something is put on a queue or taken from it. -/
  | use (queue : QueueId) (content : Queue σ)
  /-- A notification is taken out of a signal. -/
  | hear (signal : SignalId)

/-- What a call is answered with. -/
inductive Answer
  | queue (queue : QueueId)
  | outcome (outcome : Deregistration)
  | nothing
  deriving DecidableEq, Repr

/-- A call of a registry. -/
def call (r : Registry σ) : Call σ → Answer × Registry σ
  | .register group node key =>
    (.queue (r.register group node key).1.queue, (r.register group node key).2)
  | .deregister group node key =>
    (.outcome (r.deregister group node key).1, (r.deregister group node key).2)
  | .use queue content => (.nothing, r.setQueue queue content)
  | .hear signal => (.nothing, r.takeSignal signal)

/-- The answers to some calls, one after another, and the registry afterwards. -/
def run (r : Registry σ) : List (Call σ) → List Answer × Registry σ
  | [] => ([], r)
  | c :: later => ((r.call c).1 :: ((r.call c).2.run later).1, ((r.call c).2.run later).2)

end Registry

namespace Directory

variable {σ : Type}

open Registry (Call Answer)

/-- A call of a directory, which knows nothing of what is on the queues. -/
def call (d : Directory) : Call σ → Answer × Directory
  | .register group node key =>
    (.queue (d.register group node key).1, (d.register group node key).2)
  | .deregister group node key =>
    (.outcome (d.deregister group node key).1, (d.deregister group node key).2)
  | .use _ _ => (.nothing, d)
  | .hear _ => (.nothing, d)

def run (d : Directory) : List (Call σ) → List Answer × Directory
  | [] => ([], d)
  | c :: later => ((d.call c).1 :: ((d.call c).2.run later).1, ((d.call c).2.run later).2)

end Directory

namespace Registry

variable {σ : Type} {r : Registry σ} {d : Directory}

/-- What a directory says of an entry. -/
def place (entry : Entry) : Place := ⟨entry.group, entry.key, entry.queue⟩

/-- A registry and a directory say the same, and the registry's own tables fit together. -/
structure Refines (r : Registry σ) (d : Directory) : Prop extends r.Coherent where
  places : ∀ node, d.places.lookup node = (r.nodes.get? node).map place
  peopled : Peopled r.groups
  /-- No group lists a node twice. -/
  rosters : ∀ group, (roster r.groups group).Nodup
  made : d.made = r.queues.length
  fresh : ∀ {node entry}, r.nodes.get? node = some entry → entry.queue < r.queues.length
  /-- No two nodes have the same queue. -/
  apart : ∀ {a b p q}, r.nodes.get? a = some p → r.nodes.get? b = some q → p.queue = q.queue → a = b

/-! ## Groups list nobody twice -/

theorem nodup_roster_joinGroup {groups : Assoc String (List String)} {group node : String}
    (h : ∀ group, (roster groups group).Nodup) (group' : String) :
    (roster (joinGroup groups group node) group').Nodup := by
  have old := h group
  rw [roster] at old
  rw [roster, joinGroup, Assoc.get?_insert]
  split
  · rw [Option.getD_some]
    split
    · exact old
    · rename_i new
      refine List.nodup_append.2 ⟨old, by simp, ?_⟩
      intro a mem b last same
      rw [same, List.mem_singleton.1 last] at mem
      exact new mem
  · exact h group'

theorem nodup_roster_leaveGroup {groups : Assoc String (List String)} {group node : String}
    (h : ∀ group, (roster groups group).Nodup) (group' : String) :
    (roster (leaveGroup groups group node) group').Nodup := by
  have old := h group
  rw [roster] at old
  rw [roster, leaveGroup]
  cases listed : groups.get? group with
  | none => exact h group'
  | some members =>
    rw [listed, Option.getD_some] at old
    dsimp only
    split
    · rw [Assoc.get?_erase]
      split
      · exact List.nodup_nil
      · exact h group'
    · rw [Assoc.get?_insert]
      split
      · exact old.filter _
      · exact h group'

theorem nodup_roster_register (h : ∀ group, (roster r.groups group).Nodup)
    (group node key group' : String) :
    (roster (r.register group node key).2.groups group').Nodup := by
  unfold register
  cases registered : r.nodes.get? node with
  | none => exact nodup_roster_joinGroup h group'
  | some entry =>
    dsimp only
    split
    · exact nodup_roster_joinGroup h group'
    · exact nodup_roster_joinGroup (nodup_roster_leaveGroup h) group'

/-! ## Members -/

section Members

theorem Refines.lookup_eq_some (h : Refines r d) {node : String} {p : Place} :
    d.places.lookup node = some p ↔ ∃ entry, r.nodes.get? node = some entry ∧ place entry = p := by
  rw [h.places, Option.map_eq_some_iff]

theorem Refines.mem_members_iff (h : Refines r d) (group node : String) :
    node ∈ r.members group ↔ (d.places.lookup node).map (·.group) = some group := by
  rw [Registry.mem_members_iff h.toCoherent, h.places, Option.map_map, Option.map_eq_some_iff]
  rfl

theorem Refines.nodup_members (h : Refines r d) (group : String) : (r.members group).Nodup :=
  List.nodup_mergeSort.2 (h.rosters group)

/-- The members of a group are ascending: sorted, and none of them twice. -/
theorem Refines.pairwise_members (h : Refines r d) (group : String) :
    (r.members group).Pairwise (· < ·) := by
  have sorted : (r.members group).Pairwise (· ≤ ·) := by
    refine (List.pairwise_mergeSort ?_ ?_ (roster r.groups group)).imp fun le => by simpa using le
    · intro a b c first second
      simp only [decide_eq_true_eq] at first second ⊢
      exact le_trans first second
    · intro a b
      simpa using le_total a b
  exact (sorted.and (h.nodup_members group)).imp fun both => lt_of_le_of_ne both.1 both.2

/-- The members of a group are those that the directory has in it. -/
theorem Refines.members_eq (h : Refines r d) (group : String) : r.members group = d.members group := by
  have same : d.places.keys.filter (fun node =>
      (d.places.lookup node).map (·.group) = some group) = (r.members group).toFinset := by
    ext node
    rw [Finset.mem_filter, List.mem_toFinset, h.mem_members_iff, Finmap.mem_keys, Finmap.mem_iff]
    constructor
    · exact fun found => found.2
    · intro found
      obtain ⟨p, there, -⟩ := Option.map_eq_some_iff.1 found
      exact ⟨⟨p, there⟩, found⟩
  rw [Directory.members, same]
  exact ((List.toFinset_sort (· ≤ ·) (h.nodup_members group)).2
    ((h.pairwise_members group).imp le_of_lt)).symm

end Members

/-! ## One call after another -/

theorem refines_start (capacity : Nat) : Refines ({ capacity } : Registry σ) {} where
  listed group node := by simp [roster]
  distinct := List.nodup_nil
  places node := Finmap.lookup_empty node
  peopled _ _ listed := absurd listed (by simp)
  rosters group := List.nodup_nil
  made := rfl
  fresh registered := absurd registered (by simp)
  apart registered := absurd registered (by simp)

/-- Registering answers with the node's queue, or with a new one that is empty. -/
theorem queues_register_cases (r : Registry σ) (group node key : String) :
    (∃ entry, r.nodes.get? node = some entry ∧
        (r.register group node key).1.queue = entry.queue ∧
        (r.register group node key).2.queues = r.queues) ∨
      (r.nodes.get? node = none ∧
        (r.register group node key).1.queue = r.queues.length ∧
        (r.register group node key).2.queues = r.queues ++ [({} : Queue σ)]) := by
  cases registered : r.nodes.get? node with
  | some entry =>
    refine Or.inl ⟨entry, rfl, ?_⟩
    unfold register
    simp only [registered, and_self]
  | none =>
    obtain ⟨made, -, queues⟩ := @register_of_free σ r group node key registered
    exact Or.inr ⟨rfl, by rw [made], queues⟩

/-- Registering a node on a queue that is made by then and that no other node has enters its place. -/
theorem Refines.enrolled (h : Refines r d) {group node key : String} {queue : QueueId}
    (answer : (r.register group node key).1.queue = queue)
    (room : queue < (r.register group node key).2.queues.length)
    (kept : r.queues.length ≤ (r.register group node key).2.queues.length)
    (own : ∀ other entry, node ≠ other → r.nodes.get? other = some entry → entry.queue ≠ queue) :
    Refines (r.register group node key).2
      { places := d.places.insert node ⟨group, key, queue⟩
        made := (r.register group node key).2.queues.length } := by
  have entries : ∀ other, (r.register group node key).2.nodes.get? other =
      if node = other then some ⟨group, key, queue, (r.register group node key).1.signal⟩
      else r.nodes.get? other := by
    intro other
    rw [nodes_register, Assoc.get?_insert, answer]
  exact {
    toCoherent := coherent_register h.toCoherent group node key
    places := by
      intro other
      dsimp only
      rw [entries]
      by_cases same : node = other
      · subst same
        rw [if_pos rfl, Finmap.lookup_insert]
        rfl
      · rw [if_neg same, Finmap.lookup_insert_of_ne _ (Ne.symm same)]
        exact h.places other
    peopled := peopled_register h.peopled group node key
    rosters := nodup_roster_register h.rosters group node key
    made := rfl
    fresh := by
      intro other entry registered
      rw [entries] at registered
      split at registered
      · obtain rfl := Option.some.inj registered
        exact room
      · exact Nat.lt_of_lt_of_le (h.fresh registered) kept
    apart := by
      intro a b p q first second same
      rw [entries] at first second
      split at first <;> split at second
      · rename_i one two
        exact one.symm.trans two
      · rename_i other
        obtain rfl := Option.some.inj first
        exact absurd same.symm (own b q other second)
      · rename_i other _
        obtain rfl := Option.some.inj second
        exact absurd same (own a p other first)
      · exact h.apart first second same }

theorem Refines.register (h : Refines r d) (group node key : String) :
    (r.register group node key).1.queue = (d.register group node key).1 ∧
      Refines (r.register group node key).2 (d.register group node key).2 := by
  rcases queues_register_cases r group node key with ⟨entry, registered, answer, queues⟩ |
    ⟨free, answer, queues⟩
  · -- the node keeps its queue
    have there : d.places.lookup node = some (place entry) := by
      rw [h.places, registered]
      rfl
    have after : d.register group node key = (entry.queue,
        { places := d.places.insert node ⟨group, key, entry.queue⟩
          made := (r.register group node key).2.queues.length }) := by
      rw [Directory.register, there, queues, ← h.made]
      rfl
    rw [after]
    refine ⟨answer, h.enrolled answer ?_ (by rw [queues]) ?_⟩
    · rw [queues]
      exact h.fresh registered
    · intro other entry' apart registered' same
      exact apart (h.apart registered registered' same.symm)
  · -- the node gets a queue that none has
    have absent : d.places.lookup node = none := by
      rw [h.places, free]
      rfl
    have after : d.register group node key = (r.queues.length,
        { places := d.places.insert node ⟨group, key, r.queues.length⟩
          made := (r.register group node key).2.queues.length }) := by
      rw [Directory.register, absent, queues, List.length_append, ← h.made]
      rfl
    rw [after]
    refine ⟨answer, h.enrolled answer (by simp [queues]) (by simp [queues]) ?_⟩
    intro other entry' _ registered'
    exact Nat.ne_of_lt (h.fresh registered')

theorem Refines.without (h : Refines r d) {group node : String} {entry : Entry}
    (registered : r.nodes.get? node = some entry) (inGroup : entry.group = group) :
    Refines (r.without group node) { d with places := d.places.erase node } where
  toCoherent := coherent_without h.toCoherent registered inGroup
  places other := by
    dsimp only
    rw [get?_without]
    by_cases same : node = other
    · subst same
      rw [if_pos rfl, Finmap.lookup_erase]
      rfl
    · rw [if_neg same, Finmap.lookup_erase_ne (Ne.symm same)]
      exact h.places other
  peopled := peopled_leaveGroup h.peopled group node
  rosters := nodup_roster_leaveGroup h.rosters
  made := h.made
  fresh left := by
    rw [get?_without] at left
    split at left
    · exact absurd left (by simp)
    · exact h.fresh left
  apart first second same := by
    rw [get?_without] at first second
    split at first
    · exact absurd first (by simp)
    · split at second
      · exact absurd second (by simp)
      · exact h.apart first second same

theorem Refines.deregister (h : Refines r d) (group node key : String) :
    (r.deregister group node key).1 = (d.deregister group node key).1 ∧
      Refines (r.deregister group node key).2 (d.deregister group node key).2 := by
  rcases deregister_cases r group node key with ⟨entry, registered, mine, inGroup, eq⟩ |
    ⟨stale, eq⟩
  · have after := h.without registered inGroup
    have matched : (d.places.lookup node).any
        (fun place => place.group = group ∧ place.key = key) = true := by
      rw [h.places, registered]
      simp [place, mine, inGroup]
    rw [eq, Directory.deregister, if_pos matched]
    exact ⟨by rw [after.members_eq], after⟩
  · have other : ¬ (d.places.lookup node).any
        (fun place => place.group = group ∧ place.key = key) = true := by
      rw [h.places]
      cases registered : r.nodes.get? node with
      | none => simp
      | some entry =>
        have kept := stale entry registered
        simp only [Option.map_some, place, Option.any_some, decide_eq_true_eq]
        exact fun both => kept both.symm
    rw [eq, Directory.deregister, if_neg other]
    exact ⟨by rw [h.members_eq], h⟩

/-- What happens to a queue that the registry has made does not change who is where. -/
theorem Refines.setQueue (h : Refines r d) (queue : QueueId) (content : Queue σ) :
    Refines (r.setQueue queue content) d where
  toCoherent := ⟨h.listed, h.distinct⟩
  places := h.places
  peopled := h.peopled
  rosters := h.rosters
  made := h.made.trans List.length_set.symm
  fresh registered := Nat.lt_of_lt_of_eq (h.fresh registered) List.length_set.symm
  apart := h.apart

/-- A registry and a directory that say the same answer a call alike, and say the same afterwards. -/
theorem refines_call (h : Refines r d) (c : Call σ) :
    (r.call c).1 = (d.call c).1 ∧ Refines (r.call c).2 (d.call c).2 := by
  cases c with
  | register group node key =>
    obtain ⟨answer, after⟩ := h.register group node key
    exact ⟨congrArg Answer.queue answer, after⟩
  | deregister group node key =>
    obtain ⟨answer, after⟩ := h.deregister group node key
    exact ⟨congrArg Answer.outcome answer, after⟩
  | use queue content => exact ⟨rfl, h.setQueue queue content⟩
  | hear signal =>
    exact ⟨rfl, { h with toCoherent := ⟨h.listed, h.distinct⟩ }⟩

theorem run_append (r : Registry σ) (calls later : List (Call σ)) :
    (r.run (calls ++ later)).2 = ((r.run calls).2.run later).2 := by
  induction calls generalizing r with
  | nil => rfl
  | cons c others ih =>
    rw [List.cons_append, run, run]
    exact ih _

/-- They answer any number of calls alike. -/
theorem refines_run (h : Refines r d) (calls : List (Call σ)) :
    (r.run calls).1 = (d.run calls).1 ∧ Refines (r.run calls).2 (d.run calls).2 := by
  induction calls generalizing r d with
  | nil => exact ⟨rfl, h⟩
  | cons c later ih =>
    obtain ⟨answer, after⟩ := refines_call h c
    obtain ⟨answers, last⟩ := ih after
    refine ⟨?_, last⟩
    rw [Registry.run, Directory.run, answer, answers]

/-! ## Every view is the same map -/

/-- What the views of a registry show is what a directory says. -/
structure Views (r : Registry σ) (d : Directory) : Prop where
  entries : ∀ node, (r.nodes.get? node).map place = d.places.lookup node
  keys : ∀ node, r.key? node = (d.places.lookup node).map (·.key)
  /-- A node is in the set of its own group and in no other one. -/
  grouped : ∀ group node, (∃ set, r.groups.get? group = some set ∧ node ∈ set) ↔
    (d.places.lookup node).map (·.group) = some group
  /-- The set of a group is not empty, and lists nobody twice. -/
  groups : ∀ {group set}, r.groups.get? group = some set → set ≠ [] ∧ set.Nodup
  members : ∀ group, r.members group = d.members group
  ascending : ∀ group, (r.members group).Pairwise (· < ·)
  mem_members : ∀ group node, node ∈ r.members group ↔
    (d.places.lookup node).map (·.group) = some group
  hasMembers : ∀ group, r.hasMembers group = true ↔ r.members group ≠ []
  isSome_candidates : ∀ group, (r.candidates group).isSome = r.hasMembers group
  /-- The candidates of a group are its members, each of them once and with its own queue. -/
  candidates : ∀ {group found}, r.candidates group = some found →
    (found.map (·.node)).Perm (d.members group) ∧
      ∀ c ∈ found, (d.places.lookup c.node).map (·.queue) = some c.queue
  /-- Every node is listed once, with its own queue. -/
  allQueues : (r.allQueues.map (·.node)).Nodup ∧
    ∀ c, c ∈ r.allQueues ↔ (d.places.lookup c.node).map (·.queue) = some c.queue
  /-- Distinct nodes have distinct queues. -/
  apart : ∀ c ∈ r.allQueues, ∀ c' ∈ r.allQueues, c.queue = c'.queue → c.node = c'.node
  nodeCount : r.nodeCount = d.places.keys.card

/-- A group is listed exactly if it has a member. -/
theorem Refines.hasMembers_iff (h : Refines r d) (group : String) :
    r.hasMembers group = true ↔ r.members group ≠ [] := by
  rw [Registry.hasMembers_iff h.toCoherent h.peopled]
  constructor
  · rintro ⟨node, registered⟩
    exact List.ne_nil_of_mem ((Registry.mem_members_iff h.toCoherent group node).2 registered)
  · intro some
    obtain ⟨node, mem⟩ := List.exists_mem_of_ne_nil _ some
    exact ⟨node, (Registry.mem_members_iff h.toCoherent group node).1 mem⟩

theorem Refines.isSome_candidates (h : Refines r d) (group : String) :
    (r.candidates group).isSome = r.hasMembers group := by
  rw [Bool.eq_iff_iff, Registry.hasMembers_iff h.toCoherent h.peopled, ← Option.ne_none_iff_isSome,
    ne_eq, candidates_eq_none_iff h.toCoherent]
  push Not
  rfl

/-- The candidates of a group are found by looking up its members, all of which are registered. -/
theorem Refines.nodes_candidates (h : Refines r d) {group : String} {found : List Candidate}
    (seen : r.candidates group = some found) : found.map (·.node) = r.members group := by
  have looked : found = (r.members group).filterMap fun node =>
      (r.nodes.get? node).map fun entry => ⟨node, entry.queue⟩ := by
    rw [Registry.candidates] at seen
    cases listed : r.groups.get? group with
    | none => simp [listed] at seen
    | some set =>
      simp only [listed] at seen
      split at seen
      · exact absurd seen (by simp)
      · exact (Option.some.inj seen).symm
  have there : ∀ node ∈ r.members group, ((r.nodes.get? node).map fun entry =>
      (⟨node, entry.queue⟩ : Candidate)).map (·.node) = some node := by
    intro node mem
    obtain ⟨entry, registered, -⟩ := (Registry.mem_members_iff h.toCoherent group node).1 mem
    rw [registered]
    rfl
  rw [looked, List.map_filterMap, List.filterMap_congr there, List.filterMap_some]

theorem Refines.mem_allQueues_iff (h : Refines r d) (c : Candidate) :
    c ∈ r.allQueues ↔ ∃ entry, r.nodes.get? c.node = some entry ∧ entry.queue = c.queue := by
  obtain ⟨node, queue⟩ := c
  rw [allQueues, List.mem_map]
  constructor
  · rintro ⟨⟨node', entry⟩, mem, same⟩
    obtain ⟨rfl, rfl⟩ := Candidate.mk.inj same
    exact ⟨entry, Assoc.get?_eq_some_of_mem h.distinct mem, rfl⟩
  · rintro ⟨entry, registered, rfl⟩
    exact ⟨(node, entry), Assoc.mem_of_get?_eq_some registered, rfl⟩

theorem Refines.lookup_queue_iff (h : Refines r d) (node : String) (queue : QueueId) :
    (d.places.lookup node).map (·.queue) = some queue ↔
      ∃ entry, r.nodes.get? node = some entry ∧ entry.queue = queue := by
  rw [h.places, Option.map_map, Option.map_eq_some_iff]
  rfl

/-- The directory has the nodes that are registered. -/
theorem Refines.keys_eq (h : Refines r d) : d.places.keys = r.nodes.keys.toFinset := by
  ext node
  rw [Finmap.mem_keys, Finmap.mem_iff, List.mem_toFinset, Assoc.keys, List.mem_map]
  constructor
  · rintro ⟨p, found⟩
    obtain ⟨entry, registered, -⟩ := h.lookup_eq_some.1 found
    exact ⟨(node, entry), Assoc.mem_of_get?_eq_some registered, rfl⟩
  · rintro ⟨⟨node, entry⟩, mem, rfl⟩
    exact ⟨_, h.lookup_eq_some.2 ⟨entry, Assoc.get?_eq_some_of_mem h.distinct mem, rfl⟩⟩

theorem views_of_refines (h : Refines r d) : Views r d where
  entries node := (h.places node).symm
  keys node := by
    rw [h.places, Option.map_map]
    rfl
  grouped group node := by
    rw [← h.mem_members_iff, Registry.members, List.mem_mergeSort]
    cases listed : r.groups.get? group with
    | none => simp
    | some set => simp
  groups {group set} listed := by
    have once := h.rosters group
    rw [roster, listed] at once
    exact ⟨h.peopled group set listed, once⟩
  members := h.members_eq
  ascending := h.pairwise_members
  mem_members := h.mem_members_iff
  hasMembers := h.hasMembers_iff
  isSome_candidates := h.isSome_candidates
  candidates {group found} seen := by
    refine ⟨?_, ?_⟩
    · rw [h.nodes_candidates seen, h.members_eq]
    · intro c mem
      obtain ⟨entry, registered, -, same⟩ := entry_of_mem_candidates h.toCoherent seen mem
      exact (h.lookup_queue_iff c.node c.queue).2 ⟨entry, registered, same⟩
  allQueues := by
    refine ⟨?_, ?_⟩
    · rw [Registry.allQueues, List.map_map]
      exact h.distinct
    · intro c
      rw [h.mem_allQueues_iff, h.lookup_queue_iff]
  apart c mem c' mem' same := by
    obtain ⟨entry, registered, mine⟩ := (h.mem_allQueues_iff c).1 mem
    obtain ⟨entry', registered', theirs⟩ := (h.mem_allQueues_iff c').1 mem'
    exact h.apart registered registered' (mine.trans (same.trans theirs.symm))
  nodeCount := by
    rw [h.keys_eq, List.toFinset_card_of_nodup h.distinct, Assoc.keys, List.length_map]
    rfl

/-! ## The registry refines the directory -/

/-- Whatever is called on a new registry, it answers as a single map of nodes would, and all its views
show that map. Registering leaves what is on the queues alone, and a node that comes gets a queue that
none had before, with nothing on it. A node is removed only if it is there with exactly this group and
key; otherwise nothing changes. -/
theorem registry_refines_directory (capacity : Nat) (calls : List (Call σ)) :
    let r := (({ capacity } : Registry σ).run calls).2
    let d := (({} : Directory).run calls).2
    (({ capacity } : Registry σ).run calls).1 = (({} : Directory).run calls).1 ∧
      Views r d ∧
      (∀ group node key queue, (r.register group node key).2.queue queue = r.queue queue) ∧
      (∀ group node key, d.places.lookup node = none →
        (r.register group node key).1.queue = r.queues.length ∧
          (r.register group node key).2.queue r.queues.length = {}) ∧
      (∀ group node key, (r.deregister group node key).2.queues = r.queues) ∧
      ∀ group node key,
        (∀ place, d.places.lookup node = some place → ¬ (place.group = group ∧ place.key = key)) →
        r.deregister group node key = (.stale (d.members group), r) := by
  intro r d
  obtain ⟨answers, h⟩ := refines_run (refines_start capacity) calls
  refine ⟨answers, views_of_refines h, queue_register r, ?_, ?_, ?_⟩
  · intro group node key absent
    have free : r.nodes.get? node = none := by
      rw [h.places, Option.map_eq_none_iff] at absent
      exact absent
    rcases queues_register_cases r group node key with ⟨entry, registered, -⟩ | ⟨-, answer, -⟩
    · exact absurd (free.symm.trans registered) (by simp)
    · refine ⟨answer, ?_⟩
      rw [queue_register, Registry.queue, List.getElem?_eq_none (Nat.le_refl _)]
      rfl
  · intro group node key
    exact (deregister_frame r group node key).2.1
  · intro group node key other
    rcases deregister_cases r group node key with ⟨entry, registered, mine, inGroup, -⟩ | ⟨-, eq⟩
    · refine absurd ⟨inGroup, mine⟩ (other (place entry) ?_)
      rw [h.places, registered]
      rfl
    · rw [eq, h.members_eq]

end Registry

end Switchboard
