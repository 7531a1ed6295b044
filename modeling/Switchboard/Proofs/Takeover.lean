import Switchboard.Proofs.Directory

/-!
# Takeover signals

A connection that registers a node gets a signal, which tells it that another connection took the node
over. A call notifies a signal exactly if it registers a node under another key than the one it is
registered under, and the signal is that of the node's entry (`notifies_iff`).

From then on no entry has the signal, and none gets it again (`Retired.call`). So a registration stands
until its node is taken over or removed: as long as it does, its entry has its key and its signal
(`Standing.call`), and what ends it either notifies the signal, once, or makes sure that nobody does
(`Standing.run`).

Main result: `notified_iff_taken_over`.
-/

set_option autoImplicit false

namespace Switchboard.Registry

variable {σ : Type} {r : Registry σ} {node key : String} {signal : SignalId} {c : Call σ}

/-! ## Calls that notify -/

/-- A call notifies a signal: if the signal held no notification before, it would hold one now. -/
def Notifies (r : Registry σ) (c : Call σ) (signal : SignalId) : Prop :=
  ((r.takeSignal signal).call c).2.notified signal = true

/-- A call registers a node under another key than its entry has, and the entry has this signal. -/
inductive TakesOver (r : Registry σ) : Call σ → SignalId → Prop
  | register {group node key : String} {entry : Entry} (owned : r.nodes.get? node = some entry)
    (other : entry.key ≠ key) : TakesOver r (.register group node key) entry.signal

/-- The signals of the entries were made, each for one node, and hold no notification. -/
structure Attentive (r : Registry σ) : Prop where
  made : ∀ {node entry}, r.nodes.get? node = some entry → entry.signal < r.signals.length
  apart : ∀ {a b p q}, r.nodes.get? a = some p → r.nodes.get? b = some q → p.signal = q.signal → a = b
  silent : ∀ {node entry}, r.nodes.get? node = some entry → r.notified entry.signal = false

/-- Registering a node gives it a signal of its own, unless it is registered under the same key. Only an
entry with another key is notified. -/
theorem register_signal_cases (r : Registry σ) (group node key : String) :
    (r.nodes.get? node = none ∧ (r.register group node key).1.signal = r.signals.length ∧
        (r.register group node key).2.signals = r.signals ++ [false]) ∨
      (∃ entry, r.nodes.get? node = some entry ∧ entry.key = key ∧
        (r.register group node key).1.signal = entry.signal ∧
        (r.register group node key).2.signals = r.signals) ∨
      ∃ entry, r.nodes.get? node = some entry ∧ entry.key ≠ key ∧
        (r.register group node key).1.signal = r.signals.length ∧
        (r.register group node key).2.signals = r.signals.set entry.signal true ++ [false] := by
  cases owned : r.nodes.get? node with
  | none =>
    obtain ⟨made, signals, -⟩ := @register_of_free σ r group node key owned
    exact Or.inl ⟨rfl, by rw [made], signals⟩
  | some entry =>
    by_cases same : entry.key = key
    · obtain ⟨made, signals, -⟩ := @register_of_repeated σ r group node key entry owned same
      exact Or.inr (Or.inl ⟨entry, rfl, same, by rw [made], signals⟩)
    · obtain ⟨made, signals, -⟩ := @register_of_owned σ r group node key entry owned same
      exact Or.inr (Or.inr ⟨entry, rfl, same, by rw [made], signals⟩)

/-- A signal holds a notification after a registration if it held one before, or its node was taken
over. -/
theorem notified_register (made : ∀ {node entry}, r.nodes.get? node = some entry →
      entry.signal < r.signals.length) (group node key : String) :
    (r.register group node key).2.notified signal = true ↔
      r.TakesOver (.register group node key) signal ∨ r.notified signal = true := by
  rcases register_signal_cases r group node key with ⟨free, -, signals⟩ |
    ⟨entry, owned, same, -, signals⟩ | ⟨entry, owned, other, -, signals⟩
  · have spared : ¬ r.TakesOver (.register group node key) signal := by
      rintro ⟨owned, -⟩
      exact absurd (free.symm.trans owned) (by simp)
    rw [notified_of_append signals, or_iff_right spared]
    rfl
  · have spared : ¬ r.TakesOver (.register group node key) signal := by
      rintro ⟨owned', other⟩
      obtain rfl := Option.some.inj (owned.symm.trans owned')
      exact other same
    rw [notified, signals, or_iff_right spared]
    rfl
  · rw [notified_of_append signals, List.getElem?_set]
    by_cases mine : entry.signal = signal
    · subst mine
      rw [if_pos rfl, if_pos (made owned)]
      exact iff_of_true rfl (Or.inl (.register owned other))
    · have spared : ¬ r.TakesOver (.register group node key) signal := by
        rintro ⟨owned', -⟩
        obtain rfl := Option.some.inj (owned.symm.trans owned')
        exact mine rfl
      rw [if_neg mine, or_iff_right spared]
      rfl

/-- What a signal holds after a call: a notification from the call, or an older one that was not heard. -/
theorem Attentive.notified_call (h : Attentive r) (c : Call σ) (signal : SignalId) :
    (r.call c).2.notified signal = true ↔
      r.TakesOver c signal ∨ (r.notified signal = true ∧ c ≠ .hear signal) := by
  cases c with
  | register group node key =>
    rw [Registry.call, notified_register h.made, and_iff_left (by simp)]
  | deregister group node key =>
    have spared : ¬ r.TakesOver (.deregister group node key) signal := nofun
    rw [Registry.call, notified, (deregister_frame r group node key).1, or_iff_right spared,
      and_iff_left (by simp)]
    rfl
  | use queue content =>
    have spared : ¬ r.TakesOver (.use queue content) signal := nofun
    rw [or_iff_right spared, and_iff_left (by simp)]
    rfl
  | hear heard =>
    have spared : ¬ r.TakesOver (.hear heard) signal := nofun
    rw [Registry.call, notified_takeSignal, or_iff_right spared]
    by_cases same : heard = signal
    · simp [same]
    · simp [same]

/-- A call notifies just the signal of the entry that it takes over. -/
theorem Attentive.notifies_iff (h : Attentive r) : r.Notifies c signal ↔ r.TakesOver c signal := by
  have cleared : Attentive (r.takeSignal signal) := by
    refine ⟨?_, h.apart, ?_⟩
    · intro node entry owned
      rw [takeSignal, List.length_set]
      exact h.made owned
    · intro node entry owned
      rw [notified_takeSignal]
      split
      · rfl
      · exact h.silent owned
  have none : ¬ (r.takeSignal signal).notified signal = true := by
    rw [notified_takeSignal, if_pos rfl]
    exact Bool.false_ne_true
  rw [Notifies, cleared.notified_call, or_iff_left fun both => none both.1]
  constructor
  · rintro ⟨owned, other⟩
    exact .register owned other
  · rintro ⟨owned, other⟩
    exact .register owned other

/-! ## One call after another -/

/-- The entry of a node has this key and this signal. -/
def Standing (r : Registry σ) (node key : String) (signal : SignalId) : Prop :=
  ∃ entry, r.nodes.get? node = some entry ∧ entry.key = key ∧ entry.signal = signal

/-- No entry has this signal, and it is not one that is still to be made. -/
structure Retired (r : Registry σ) (signal : SignalId) : Prop where
  made : signal < r.signals.length
  absent : ∀ {node entry}, r.nodes.get? node = some entry → entry.signal ≠ signal

theorem Standing.key?_eq (h : Standing r node key signal) : r.key? node = some key := by
  obtain ⟨entry, owned, rfl, -⟩ := h
  rw [key?, owned]
  rfl

/-- The entries after a registration: that of the node is new, and the others stay. -/
theorem get?_register (r : Registry σ) (group node key other : String) :
    (r.register group node key).2.nodes.get? other =
      if node = other then some ⟨group, key, (r.register group node key).1.queue,
        (r.register group node key).1.signal⟩ else r.nodes.get? other := by
  rw [nodes_register, Assoc.get?_insert]

theorem length_signals_register (r : Registry σ) (group node key : String) :
    r.signals.length ≤ (r.register group node key).2.signals.length := by
  rcases register_signal_cases r group node key with ⟨-, -, signals⟩ |
    ⟨entry, -, -, -, signals⟩ | ⟨entry, -, -, -, signals⟩
  all_goals simp [signals]

/-- A registration gives a new signal, or that of an entry with its key. -/
theorem signal_register_cases (r : Registry σ) (group node key : String) :
    ((r.register group node key).1.signal = r.signals.length ∧
        r.signals.length < (r.register group node key).2.signals.length) ∨
      ∃ entry, r.nodes.get? node = some entry ∧ entry.key = key ∧
        (r.register group node key).1.signal = entry.signal := by
  rcases register_signal_cases r group node key with ⟨-, made, signals⟩ |
    ⟨entry, owned, same, made, -⟩ | ⟨entry, -, -, made, signals⟩
  · exact Or.inl ⟨made, by simp [signals]⟩
  · exact Or.inr ⟨entry, owned, same, made⟩
  · exact Or.inl ⟨made, by simp [signals]⟩

/-- The entries after a call were there before, except for that of a node that is registered. -/
theorem owned_of_call {entry : Entry} (after : (r.call c).2.nodes.get? node = some entry) :
    r.nodes.get? node = some entry ∨
      ∃ group, c = .register group node entry.key ∧
        entry.signal = (r.register group node entry.key).1.signal := by
  cases c with
  | register group node' key =>
    rw [Registry.call, get?_register] at after
    split at after
    · rename_i same
      subst same
      obtain rfl := Option.some.inj after
      exact Or.inr ⟨group, rfl, rfl⟩
    · exact Or.inl after
  | deregister group node' key => exact Or.inl (get?_deregister after).1
  | use queue content => exact Or.inl after
  | hear heard => exact Or.inl after

theorem TakesOver.lt (h : Attentive r) (takes : r.TakesOver c signal) : signal < r.signals.length := by
  cases takes with
  | register owned other => exact h.made owned

/-- The signal that a registration gives was made and holds no notification, and no other node has
it. -/
theorem Attentive.given (h : Attentive r) (group node key : String) :
    (r.register group node key).1.signal < (r.register group node key).2.signals.length ∧
      (r.register group node key).2.notified (r.register group node key).1.signal = false ∧
      ∀ {other entry}, r.nodes.get? other = some entry →
        entry.signal = (r.register group node key).1.signal → other = node := by
  rw [← Bool.not_eq_true, notified_register h.made, not_or]
  rcases signal_register_cases r group node key with ⟨made, new⟩ | ⟨mine, owned, same, made⟩
  · -- a new signal is above all that were made
    rw [made]
    refine ⟨new, ⟨fun takes => Nat.lt_irrefl _ (takes.lt h), ?_⟩, ?_⟩
    · rw [notified, List.getElem?_eq_none (Nat.le_refl _)]
      exact Bool.false_ne_true
    · intro other entry there eq
      exact absurd (h.made there) (Nat.not_lt.2 (Nat.le_of_eq eq.symm))
  · rw [made]
    refine ⟨Nat.lt_of_lt_of_le (h.made owned) (length_signals_register ..), ⟨?_, ?_⟩, ?_⟩
    · generalize eq : mine.signal = signal
      rintro ⟨owned', other⟩
      obtain rfl := Option.some.inj (owned.symm.trans owned')
      exact other same
    · rw [h.silent owned]
      exact Bool.false_ne_true
    · intro other entry there eq
      exact h.apart there owned eq

/-- Signals stay made. -/
theorem length_signals_call (r : Registry σ) (c : Call σ) :
    r.signals.length ≤ (r.call c).2.signals.length := by
  cases c with
  | register group node key => exact length_signals_register r group node key
  | deregister group node key => rw [Registry.call, (deregister_frame r group node key).1]
  | use queue content => exact Nat.le_refl _
  | hear heard => rw [Registry.call, takeSignal, List.length_set]

/-- A signal that is notified is that of no entry any more. -/
theorem Attentive.retired (h : Attentive r) (takes : r.TakesOver c signal) :
    Retired (r.call c).2 signal := by
  cases takes with
  | @register group node key entry owned other =>
    refine ⟨Nat.lt_of_lt_of_le (h.made owned) (length_signals_call r _), ?_⟩
    intro other' entry' after same
    rw [Registry.call, get?_register] at after
    split at after
    · -- the node got a new signal, since the key is another one
      obtain rfl := Option.some.inj after
      rcases signal_register_cases r group node key with ⟨made, -⟩ | ⟨mine, owned', again, -⟩
      · exact absurd (h.made owned) (Nat.not_lt.2 (Nat.le_of_eq (made.symm.trans same)))
      · obtain rfl := Option.some.inj (owned.symm.trans owned')
        exact other again
    · rename_i distinct
      exact distinct (h.apart owned after same.symm)

/-- A retired signal stays so: the signals that are given are new, or those of entries. -/
theorem Retired.call (retired : Retired r signal) (c : Call σ) : Retired (r.call c).2 signal where
  made := Nat.lt_of_lt_of_le retired.made (length_signals_call r c)
  absent {node entry} after := by
    rcases owned_of_call after with owned | ⟨group, rfl, eq⟩
    · exact retired.absent owned
    · rw [eq]
      rcases signal_register_cases r group node entry.key with ⟨made, -⟩ | ⟨mine, owned, -, made⟩
      · rw [made]
        exact Nat.ne_of_gt retired.made
      · rw [made]
        exact retired.absent owned

theorem Retired.not_takesOver (retired : Retired r signal) : ¬ r.TakesOver c signal := by
  rintro ⟨owned, -⟩
  exact retired.absent owned rfl

/-- The entries after a call have signals that were made, of their own, and silent. -/
theorem Attentive.call (h : Attentive r) (c : Call σ) : Attentive (r.call c).2 where
  made {node entry} after := by
    rcases owned_of_call after with owned | ⟨group, rfl, eq⟩
    · exact Nat.lt_of_lt_of_le (h.made owned) (length_signals_call r c)
    · rw [eq]
      exact (h.given group node entry.key).1
  apart {a b p q} first second same := by
    rcases owned_of_call first with owned | ⟨group, rfl, eq⟩
    · rcases owned_of_call second with owned' | ⟨group, rfl, eq⟩
      · exact h.apart owned owned' same
      · exact (h.given group b q.key).2.2 owned (same.trans eq)
    · rcases owned_of_call second with owned' | ⟨group', again, eq'⟩
      · exact ((h.given group a p.key).2.2 owned' (same.symm.trans eq)).symm
      · obtain ⟨-, there, -⟩ := Call.register.inj again
        exact there
  silent {node entry} after := by
    rcases owned_of_call after with owned | ⟨group, rfl, eq⟩
    · rw [← Bool.not_eq_true, h.notified_call, not_or, h.silent owned]
      refine ⟨?_, fun both => Bool.false_ne_true both.1⟩
      intro takes
      exact (h.retired takes).absent after rfl
    · rw [eq]
      exact (h.given group node entry.key).2.1

/-- What a call does to a registration that stands: it stands on, and is not notified, or its signal is
retired and the node has another key or none. -/
theorem Standing.call (stands : Standing r node key signal) (h : Attentive r) (c : Call σ) :
    (Standing (r.call c).2 node key signal ∧ ¬ r.TakesOver c signal) ∨
      (Retired (r.call c).2 signal ∧ (r.call c).2.key? node ≠ some key) := by
  obtain ⟨entry, owned, mine, rfl⟩ := stands
  by_cases takes : r.TakesOver c entry.signal
  · refine Or.inr ⟨h.retired takes, ?_⟩
    generalize eq : entry.signal = signal at takes
    cases takes with
    | @register group node' key' entry' owned' other =>
      obtain rfl := h.apart owned owned' eq
      obtain rfl := Option.some.inj (owned.symm.trans owned')
      rw [Registry.call, key?, get?_register, if_pos rfl]
      intro same
      exact other (mine.trans (Option.some.inj same).symm)
  · cases there : (r.call c).2.nodes.get? node with
    | none =>
      refine Or.inr ⟨⟨Nat.lt_of_lt_of_le (h.made owned) (length_signals_call r c), ?_⟩, ?_⟩
      · -- only the node could have the signal, and it is gone
        intro other entry' after same
        have gone : node = other := by
          rcases owned_of_call after with owned' | ⟨group, rfl, eq⟩
          · exact h.apart owned owned' same.symm
          · exact (h.given group other entry'.key).2.2 owned (same.symm.trans eq)
        subst gone
        exact absurd (there.symm.trans after) (by simp)
      · rw [key?, there]
        simp
    | some entry' =>
      rcases owned_of_call there with owned' | ⟨group, rfl, eq⟩
      · obtain rfl := Option.some.inj (owned.symm.trans owned')
        exact Or.inl ⟨⟨entry, there, mine, rfl⟩, takes⟩
      · -- it was registered again, and under its key, since it was not taken over
        have again : entry.key = entry'.key := by
          by_contra other
          exact takes (.register owned other)
        obtain ⟨made, -, -⟩ := @register_of_repeated σ r group node entry'.key entry owned again
        rw [made] at eq
        exact Or.inl ⟨⟨entry', there, again.symm.trans mine, eq⟩, takes⟩

/-! ## Runs -/

/-- The registry before a call of a run. -/
def before (r : Registry σ) (calls : List (Call σ)) (m : Nat) : Registry σ := (r.run (calls.take m)).2

/-- A call of a run notifies a signal. -/
def NotifiedAt (r : Registry σ) (calls : List (Call σ)) (m : Nat) (signal : SignalId) : Prop :=
  ∃ c, calls[m]? = some c ∧ (r.before calls m).Notifies c signal

/-- A node has the same key all the time behind one call and up to another. -/
def Keeps (r : Registry σ) (calls : List (Call σ)) (node key : String) (i m : Nat) : Prop :=
  ∀ j, i < j → j ≤ m → (r.before calls j).key? node = some key

section Runs

variable {calls : List (Call σ)} {group : String} {i m : Nat}

theorem before_succ (there : calls[m]? = some c) :
    r.before calls (m + 1) = ((r.before calls m).call c).2 := by
  rw [before, List.take_add_one, there, run_append]
  rfl

/-- What each call keeps holds before all calls of a run. -/
theorem before_induction {P : Registry σ → Prop} (start : P r) (step : ∀ {r}, P r → ∀ c, P (r.call c).2)
    (calls : List (Call σ)) (m : Nat) : P (r.before calls m) := by
  rw [before]
  generalize calls.take m = done
  induction done generalizing r with
  | nil => exact start
  | cons c later ih => exact ih (step start c)

theorem before_add (r : Registry σ) (calls : List (Call σ)) (i m : Nat) :
    r.before calls (i + m) = (r.before calls i).before (calls.drop i) m := by
  rw [before, List.take_add, run_append]
  rfl

theorem Attentive.before (h : Attentive r) (calls : List (Call σ)) (m : Nat) :
    Attentive (r.before calls m) :=
  before_induction (P := Attentive) h Attentive.call calls m

theorem attentive_start (capacity : Nat) : Attentive ({ capacity } : Registry σ) where
  made owned := absurd owned (by simp)
  apart owned := absurd owned (by simp)
  silent owned := absurd owned (by simp)

theorem Attentive.notifiedAt_iff (h : Attentive r) :
    NotifiedAt r calls m signal ↔ ∃ c, calls[m]? = some c ∧ (r.before calls m).TakesOver c signal := by
  rw [NotifiedAt]
  simp only [(h.before calls m).notifies_iff]

/-- Behind a call that notifies it a signal is retired. -/
theorem Attentive.retired_of_notifiedAt (h : Attentive r) (notified : NotifiedAt r calls i signal)
    (later : i < m) : Retired (r.before calls m) signal := by
  obtain ⟨c, there, takes⟩ := h.notifiedAt_iff.1 notified
  obtain ⟨n, rfl⟩ := Nat.exists_eq_add_of_lt later
  rw [Nat.add_right_comm, before_add, before_succ there]
  exact before_induction (P := fun r => Retired r signal) ((h.before calls i).retired takes)
    Retired.call _ n

/-- The signal of an entry was never notified. -/
theorem Attentive.not_notifiedAt_of_owned (h : Attentive r) {entry : Entry}
    (owned : (r.before calls m).nodes.get? node = some entry) (earlier : i < m) :
    ¬ NotifiedAt r calls i entry.signal := by
  intro notified
  exact (h.retired_of_notifiedAt notified earlier).absent owned rfl

/-- A registration stands behind its call. -/
theorem standing_of_register (there : calls[i]? = some (.register group node key)) :
    Standing (r.before calls (i + 1)) node key ((r.before calls i).register group node key).1.signal := by
  rw [before_succ there]
  exact ⟨_, (get?_register ..).trans (if_pos rfl), rfl, rfl⟩

theorem keeps_succ : Keeps r calls node key i (m + 1) ↔
    Keeps r calls node key i m ∧ (i ≤ m → (r.before calls (m + 1)).key? node = some key) := by
  constructor
  · intro keeps
    exact ⟨fun j above below => keeps j above (Nat.le_succ_of_le below),
      fun le => keeps (m + 1) (Nat.lt_succ_of_le le) (Nat.le_refl _)⟩
  · rintro ⟨keeps, last⟩ j above below
    rcases Nat.lt_or_eq_of_le below with lt | rfl
    · exact keeps j above (Nat.le_of_lt_succ lt)
    · exact last (Nat.le_of_lt_succ above)

/-- A registration stands exactly as long as its node keeps its key, and its signal is retired from
then on. -/
theorem Standing.run (h : Attentive r)
    (stands : Standing (r.before calls (i + 1)) node key signal) (later : i < m)
    (bound : m ≤ calls.length) :
    (Standing (r.before calls m) node key signal ∧ Keeps r calls node key i m) ∨
      (Retired (r.before calls m) signal ∧ ¬ Keeps r calls node key i m) := by
  -- on the calls behind the registration
  induction m, later using Nat.le_induction with
  | base =>
    refine Or.inl ⟨stands, ?_⟩
    intro j above below
    obtain rfl := Nat.le_antisymm below above
    exact stands.key?_eq
  | succ m later ih =>
    have there : calls[m]? = some calls[m] := List.getElem?_eq_getElem bound
    rw [before_succ there, keeps_succ, before_succ there]
    rcases ih (Nat.le_of_succ_le bound) with ⟨stands, keeps⟩ | ⟨retired, broken⟩
    · rcases stands.call (h.before calls m) calls[m] with ⟨stands, -⟩ | ⟨retired, lost⟩
      · exact Or.inl ⟨stands, keeps, fun _ => stands.key?_eq⟩
      · exact Or.inr ⟨retired, fun both => lost (both.2 (Nat.le_of_succ_le later))⟩
    · exact Or.inr ⟨retired.call _, fun both => broken both.1⟩

/-- A registration is notified by the call that takes its node over while it stands, and by no
other. -/
theorem Attentive.notifiedAt_register_iff (h : Attentive r)
    (there : calls[i]? = some (.register group node key)) :
    NotifiedAt r calls m ((r.before calls i).register group node key).1.signal ↔
      i < m ∧ (∃ group' key', calls[m]? = some (.register group' node key') ∧ key' ≠ key) ∧
        Keeps r calls node key i m := by
  have stands := standing_of_register (r := r) there
  constructor
  · intro notified
    have later : i < m := by
      -- up to its own call, the signal is that of an entry or not yet made
      by_contra early
      obtain ⟨entry, owned, -, eq⟩ := stands
      rw [← eq] at notified
      exact h.not_notifiedAt_of_owned owned (Nat.lt_succ_of_le (Nat.not_lt.1 early)) notified
    obtain ⟨c, here, takes⟩ := h.notifiedAt_iff.1 notified
    have bound : m < calls.length := (List.getElem?_eq_some_iff.1 here).1
    rcases stands.run h later (Nat.le_of_lt bound) with ⟨⟨entry, owned, mine, eq⟩, keeps⟩ | ⟨retired, -⟩
    · refine ⟨later, ?_, keeps⟩
      generalize ((r.before calls i).register group node key).1.signal = signal at takes eq
      cases takes with
      | @register group' node' key' entry' owned' other =>
        obtain rfl := (h.before calls m).apart owned owned' eq
        obtain rfl := Option.some.inj (owned.symm.trans owned')
        exact ⟨group', key', here, fun same => other (mine.trans same.symm)⟩
    · exact absurd takes retired.not_takesOver
  · rintro ⟨later, ⟨group', key', here, other⟩, keeps⟩
    have bound : m < calls.length := (List.getElem?_eq_some_iff.1 here).1
    rcases stands.run h later (Nat.le_of_lt bound) with ⟨⟨entry, owned, mine, eq⟩, -⟩ | ⟨-, broken⟩
    · rw [h.notifiedAt_iff, ← eq]
      exact ⟨_, here, .register owned fun same => other (same.symm.trans mine)⟩
    · exact absurd keeps broken

/-- The notification that a signal holds is from the last call that notified it, and was not heard since
then. -/
theorem Attentive.notified_before_iff (h : Attentive r) (silent : r.notified signal = false)
    (bound : m ≤ calls.length) :
    (r.before calls m).notified signal = true ↔
      ∃ i < m, NotifiedAt r calls i signal ∧ ∀ j, i < j → j < m → calls[j]? ≠ some (.hear signal) := by
  induction m with
  | zero =>
    refine iff_of_false ?_ ?_
    · rw [show r.before calls 0 = r from rfl, silent]
      exact Bool.false_ne_true
    · rintro ⟨i, lt, -⟩
      exact absurd lt (Nat.not_lt_zero i)
  | succ m ih =>
    have there : calls[m]? = some calls[m] := List.getElem?_eq_getElem bound
    rw [before_succ there, (h.before calls m).notified_call, ih (Nat.le_of_succ_le bound)]
    constructor
    · rintro (takes | ⟨⟨i, lt, notified, unheard⟩, other⟩)
      · refine ⟨m, Nat.lt_succ_self m, h.notifiedAt_iff.2 ⟨_, there, takes⟩, ?_⟩
        intro j above below
        omega
      · refine ⟨i, Nat.lt_succ_of_lt lt, notified, ?_⟩
        intro j above below heard
        rcases Nat.lt_or_eq_of_le (Nat.le_of_lt_succ below) with lt | rfl
        · exact unheard j above lt heard
        · exact other (Option.some.inj (there.symm.trans heard))
    · rintro ⟨i, lt, notified, unheard⟩
      rcases Nat.lt_or_eq_of_le (Nat.le_of_lt_succ lt) with lt | rfl
      · refine Or.inr ⟨⟨i, lt, notified, fun j above below => ?_⟩, ?_⟩
        · exact unheard j above (Nat.lt_succ_of_lt below)
        · intro heard
          exact unheard m lt (Nat.lt_succ_self m) (heard ▸ there)
      · obtain ⟨c, here, takes⟩ := h.notifiedAt_iff.1 notified
        obtain rfl := Option.some.inj (there.symm.trans here)
        exact Or.inl takes

/-- A registration under the key that the node has gives the signal that it has, and notifies nobody. -/
theorem Standing.repeated (h : Attentive r) (stands : Standing (r.before calls m) node key signal)
    (here : calls[m]? = some (.register group node key)) :
    ((r.before calls m).register group node key).1.signal = signal ∧
      ∀ signal', ¬ NotifiedAt r calls m signal' := by
  obtain ⟨entry, owned, mine, eq⟩ := stands
  obtain ⟨made, -, -⟩ := @register_of_repeated σ _ group node key entry owned mine
  refine ⟨by rw [made, eq], ?_⟩
  intro signal' notified
  obtain ⟨c, here', takes⟩ := h.notifiedAt_iff.1 notified
  obtain rfl := Option.some.inj (here.symm.trans here')
  cases takes with
  | register owned' other =>
    obtain rfl := Option.some.inj (owned.symm.trans owned')
    exact other mine

/-- A registration of a node that is not registered notifies nobody. -/
theorem Attentive.not_notifiedAt_of_free (h : Attentive r)
    (here : calls[m]? = some (.register group node key))
    (free : (r.before calls m).key? node = none) : ¬ NotifiedAt r calls m signal := by
  intro notified
  obtain ⟨c, here', takes⟩ := h.notifiedAt_iff.1 notified
  obtain rfl := Option.some.inj (here.symm.trans here')
  cases takes with
  | register owned other =>
    rw [key?, owned] at free
    exact absurd free (by simp)

end Runs

/-- Whatever is called on a new registry, the signal of a registration is notified by a call exactly if
this registers its node under another key while the node still has the key from the registration, without
a removal in between. So it is notified at most once, and no call for another node does it. As long as it
stands, registering the node again under its key gives the same signal and notifies nobody; nor does
registering a node that is not registered. The signal of an entry holds no notification and was never
notified. What a signal holds was put there by such a call and not heard since. -/
theorem notified_iff_taken_over (capacity : Nat) (calls : List (Call σ)) :
    let r : Registry σ := { capacity }
    (∀ {i group node key}, calls[i]? = some (.register group node key) →
      let signal := ((r.before calls i).register group node key).1.signal
      (∀ m, r.NotifiedAt calls m signal ↔
        i < m ∧ (∃ group' key', calls[m]? = some (.register group' node key') ∧ key' ≠ key) ∧
          r.Keeps calls node key i m) ∧
      (∀ m m', r.NotifiedAt calls m signal → r.NotifiedAt calls m' signal → m = m') ∧
      ∀ m group', i < m → calls[m]? = some (.register group' node key) → r.Keeps calls node key i m →
        ((r.before calls m).register group' node key).1.signal = signal ∧
          ∀ signal', ¬ r.NotifiedAt calls m signal') ∧
    (∀ {m group node key}, calls[m]? = some (.register group node key) →
      (r.before calls m).key? node = none → ∀ signal, ¬ r.NotifiedAt calls m signal) ∧
    (∀ {m node entry}, (r.before calls m).nodes.get? node = some entry →
      (r.before calls m).notified entry.signal = false ∧
        ∀ i < m, ¬ r.NotifiedAt calls i entry.signal) ∧
    ∀ {m signal}, m ≤ calls.length → ((r.before calls m).notified signal = true ↔
      ∃ i < m, r.NotifiedAt calls i signal ∧
        ∀ j, i < j → j < m → calls[j]? ≠ some (.hear signal)) := by
  intro r
  have h : Attentive r := attentive_start capacity
  refine ⟨?_, ?_, ?_, ?_⟩
  · intro i group node key there signal
    have told := fun m => @Attentive.notifiedAt_register_iff σ r node key calls group i m h there
    refine ⟨told, ?_, ?_⟩
    · -- behind the first of two such calls the node has another key
      have later : ∀ m m', r.NotifiedAt calls m signal → r.NotifiedAt calls m' signal → ¬ m < m' := by
        intro m m' first second lt
        obtain ⟨after, ⟨group', key', here, other⟩, -⟩ := (told m).1 first
        obtain ⟨-, -, keeps⟩ := (told m').1 second
        have stands := standing_of_register (r := r) here
        have same := stands.key?_eq.symm.trans (keeps (m + 1) (Nat.lt_succ_of_lt after) lt)
        exact other (Option.some.inj same)
      intro m m' first second
      exact Nat.le_antisymm (Nat.not_lt.1 (later m' m second first))
        (Nat.not_lt.1 (later m m' first second))
    · intro m group' after here keeps
      have bound : m < calls.length := (List.getElem?_eq_some_iff.1 here).1
      rcases (standing_of_register there).run h after (Nat.le_of_lt bound) with ⟨stands, -⟩ | ⟨-, broken⟩
      · exact stands.repeated h here
      · exact absurd keeps broken
  · intro m group node key here free signal
    exact h.not_notifiedAt_of_free here free
  · intro m node entry owned
    exact ⟨(h.before calls m).silent owned, fun i lt => h.not_notifiedAt_of_owned owned lt⟩
  · intro m signal bound
    exact h.notified_before_iff rfl bound

/-- A node is registered, and again under its key; it is taken over in another group, and again after it
was removed. -/
def contestedCalls : List (Call Nat) :=
  [.register "a" "n" "k", .register "a" "m" "l", .register "a" "n" "k", .register "b" "n" "k2",
    .deregister "b" "n" "k2", .register "a" "n" "k3"]

theorem notified_iff_taken_over_contestedCalls :
    let r : Registry Nat := { capacity := 4 }
    contestedCalls[0]? = some (.register "a" "n" "k") ∧
      (∀ m, r.NotifiedAt contestedCalls m 0 ↔ m = 3) ∧
      ((r.before contestedCalls 2).register "a" "n" "k").1.signal = 0 ∧
      (∀ signal, ¬ r.NotifiedAt contestedCalls 5 signal) ∧
      (r.before contestedCalls 6).notified 0 = true := by
  intro r
  obtain ⟨registrations, free, -, held⟩ := notified_iff_taken_over 4 contestedCalls
  obtain ⟨told, once, again⟩ := @registrations 0 "a" "n" "k" rfl
  have keeps : ∀ m ≤ 3, r.Keeps contestedCalls "n" "k" 0 m := by
    intro m le j above below
    obtain rfl | rfl | rfl : j = 1 ∨ j = 2 ∨ j = 3 := by omega
    all_goals decide +kernel
  have third : r.NotifiedAt contestedCalls 3 0 :=
    (told 3).2 ⟨by decide, ⟨"b", "k2", rfl, by decide⟩, keeps 3 (Nat.le_refl 3)⟩
  refine ⟨rfl, ?_, ?_, free rfl (by decide +kernel), ?_⟩
  · intro m
    constructor
    · intro notified
      exact once m 3 notified third
    · rintro rfl
      exact third
  · exact (again 2 "a" (by decide) rfl (keeps 2 (by decide))).1
  · refine (held (by decide)).2 ⟨3, by decide, third, ?_⟩
    intro j above below
    obtain rfl | rfl : j = 4 ∨ j = 5 := by omega
    all_goals simp [contestedCalls]

end Switchboard.Registry
