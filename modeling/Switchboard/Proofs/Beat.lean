import Switchboard.Proofs.Placement

/-!
# One beat of a heartbeat

A beat goes through the registered nodes in some order and offers each queue a keepalive. No two nodes
have the same queue, so no offer changes what another one finds, and what the beat does can be said
queue by queue (`Beaten`), whatever the order.

Main result: `beat_appends`.
-/

set_option autoImplicit false

namespace Switchboard

namespace Registry

variable {σ : Type} {r : Registry σ} {d : Directory}

/-- A queue has no room. -/
def full (r : Registry σ) (queue : QueueId) : Bool := !(r.queue queue).hasRoom r.capacity

/-- The queues of the registered nodes, in the order in which they were made. -/
def owned (r : Registry σ) : List QueueId := (List.range r.queues.length).filter r.owns

/-- Some calls lead to the registry, whatever they do to its queues. -/
def Built (r : Registry σ) : Prop := ∃ capacity calls, r = (({ capacity } : Registry σ).run calls).2

theorem exists_refines_of_built (h : Built r) : ∃ d, Refines r d := by
  obtain ⟨capacity, calls, rfl⟩ := h
  exact ⟨_, (refines_run (refines_start capacity) calls).2⟩

theorem Built.call (h : Built r) (c : Call σ) : Built (r.call c).2 := by
  obtain ⟨capacity, calls, rfl⟩ := h
  refine ⟨capacity, calls ++ [c], ?_⟩
  rw [run_append]
  rfl

/-- Every queue of a registered node belongs to one node only. -/
theorem Refines.perm_owned (h : Refines r d) : (r.allQueues.map (·.queue)).Perm r.owned := by
  have nodes : r.allQueues.map (·.node) = r.nodes.keys := by
    rw [allQueues, List.map_map]
    rfl
  have apart : (r.allQueues.map (·.queue)).Nodup := by
    refine List.Nodup.map_on (fun c mem c' mem' same => ?_)
      (List.Nodup.of_map (·.node) (nodes ▸ h.distinct))
    obtain ⟨entry, registered, mine⟩ := (h.mem_allQueues_iff c).1 mem
    obtain ⟨entry', registered', theirs⟩ := (h.mem_allQueues_iff c').1 mem'
    have node := h.apart registered registered' (mine.trans (same.trans theirs.symm))
    cases c
    cases c'
    exact congrArg₂ Candidate.mk node same
  refine (List.perm_ext_iff_of_nodup apart (List.nodup_range.filter _)).2 fun queue => ?_
  rw [List.mem_filter, List.mem_range, owns_iff h.toCoherent, List.mem_map]
  constructor
  · rintro ⟨c, mem, rfl⟩
    obtain ⟨entry, registered, same⟩ := (h.mem_allQueues_iff c).1 mem
    exact ⟨same ▸ h.fresh registered, c.node, entry, registered, same⟩
  · rintro ⟨-, node, entry, registered, rfl⟩
    exact ⟨⟨node, entry.queue⟩, (h.mem_allQueues_iff _).2 ⟨entry, registered, rfl⟩, rfl⟩

end Registry

namespace Gateway

/-- What offering a keepalive once to each of some queues does. -/
structure Beaten (id : HeartbeatId) (queues : List QueueId) (g g' : Gateway) : Prop where
  /-- A queue with room has one keepalive more, behind what is on it, and nobody waits there who did not
  before. -/
  appended : ∀ queue ∈ queues, g.registry.full queue = false →
    g'.registry.queue queue =
      { g.registry.queue queue with frames := (g.registry.queue queue).frames ++ [.keepalive] }
  /-- A full queue is left as it was, and so is every queue that got no offer. -/
  kept : ∀ queue, (queue ∈ queues → g.registry.full queue = true) →
    g'.registry.queue queue = g.registry.queue queue
  made : g'.registry.queues.length = g.registry.queues.length
  counted : g'.metrics.value .heartbeatEnqueueFailed =
    g.metrics.value .heartbeatEnqueueFailed + queues.countP g.registry.full
  uncounted : ∀ series, series ≠ .heartbeatEnqueueFailed →
    g'.metrics.value series = g.metrics.value series
  told : ∃ news, g'.journal = news ++ g.journal ∧
    news.Perm ((queues.filter fun queue => !g.registry.full queue).map fun queue =>
      .queued queue .keepalive (.heartbeat id))
  /-- Nothing else changes. -/
  rest : g' =
    { g with
      registry := { g.registry with queues := g'.registry.queues }
      metrics := g'.metrics
      journal := g'.journal }

section Beaten

variable {id : HeartbeatId} {queues others : List QueueId} {g g' g'' : Gateway} {queue : QueueId}

theorem Beaten.nil (id : HeartbeatId) (g : Gateway) : Beaten id [] g g where
  appended _ mem := absurd mem List.not_mem_nil
  kept _ _ := rfl
  made := rfl
  counted := by simp
  uncounted _ _ := rfl
  told := ⟨[], rfl, .nil⟩
  rest := rfl

/-- What an offer does to its queue. -/
theorem beaten_offerKeepalive (id : HeartbeatId) (g : Gateway) (c : Candidate)
    (made : c.queue < g.registry.queues.length) :
    Beaten id [c.queue] g (offerKeepalive id g c) := by
  -- the queue takes the keepalive, or the offer is counted
  by_cases room : (g.registry.queue c.queue).hasRoom g.registry.capacity = true
  · have space : g.registry.full c.queue = false := by simp [Registry.full, room]
    have eq : offerKeepalive id g c =
        { g with
          registry := g.registry.setQueue c.queue
            { g.registry.queue c.queue with
              frames := (g.registry.queue c.queue).frames ++ [.keepalive] }
          journal := .queued c.queue .keepalive (.heartbeat id) :: g.journal } := by
      simp [offerKeepalive, offer, Registry.offer, Queue.push?, room, record]
    rw [eq]
    exact
      { appended := fun queue mem _ => by
          obtain rfl := List.mem_singleton.1 mem
          exact (queue_setQueue_of_lt made _ _).trans (if_pos rfl)
        kept := fun queue full => by
          refine (queue_setQueue_of_lt made _ _).trans (if_neg ?_)
          rintro rfl
          simp [space] at full
        made := List.length_set
        counted := by simp [space]
        uncounted := fun _ _ => rfl
        told := ⟨[_], rfl, by simp [space]⟩
        rest := rfl }
  · have full : g.registry.full c.queue = true := by simp [Registry.full, room]
    have eq : offerKeepalive id g c = g.count .heartbeatEnqueueFailed 1 := by
      simp [offerKeepalive, offer, Registry.offer, Queue.push?, room]
    rw [eq]
    exact
      { appended := fun queue mem space => by
          obtain rfl := List.mem_singleton.1 mem
          simp [full] at space
        kept := fun _ _ => rfl
        made := rfl
        counted := by simp [count, Metrics.value_add, full]
        uncounted := fun series other => by simp [count, Metrics.value_add, other.symm]
        told := ⟨[], rfl, by simp [full]⟩
        rest := rfl }

/-- A queue without an offer is as full as before. -/
theorem Beaten.full_eq (h : Beaten id queues g g') (away : queue ∉ queues) :
    g'.registry.full queue = g.registry.full queue := by
  rw [Registry.full, h.kept queue fun mem => absurd mem away, h.rest, Registry.full]

/-- Offers to different queues do not meet. -/
theorem Beaten.append (h : Beaten id queues g g') (h' : Beaten id others g' g'')
    (apart : queues.Disjoint others) : Beaten id (queues ++ others) g g'' := by
  -- the later offers find their queues as they were at the beginning
  have same : ∀ queue ∈ others, g'.registry.full queue = g.registry.full queue :=
    fun queue mem => h.full_eq fun mem' => apart mem' mem
  refine ⟨fun queue mem space => ?_, fun queue full => ?_, h'.made.trans h.made, ?_,
    fun series other => (h'.uncounted series other).trans (h.uncounted series other), ?_, ?_⟩
  · by_cases here : queue ∈ queues
    · rw [h'.kept queue fun mem' => absurd mem' (apart here), h.appended queue here space]
    · have there := (List.mem_append.1 mem).resolve_left here
      rw [h'.appended queue there ((same queue there).trans space),
        h.kept queue fun mem' => absurd mem' here]
  · rw [h'.kept queue fun mem => (same queue mem).trans (full (List.mem_append_right _ mem)),
      h.kept queue fun mem => full (List.mem_append_left _ mem)]
  · have counts : others.countP g'.registry.full = others.countP g.registry.full :=
      List.countP_congr fun queue mem => by rw [same queue mem]
    rw [h'.counted, h.counted, counts, List.countP_append]
    omega
  · obtain ⟨news, told, mine⟩ := h.told
    obtain ⟨later, told', theirs⟩ := h'.told
    have picks : (others.filter fun queue => !g'.registry.full queue) =
        others.filter fun queue => !g.registry.full queue :=
      List.filter_congr fun queue mem => by rw [same queue mem]
    refine ⟨later ++ news, by rw [told', told, List.append_assoc], ?_⟩
    rw [List.filter_append, List.map_append, ← picks]
    exact (theirs.append mine).trans List.perm_append_comm
  · have first := h.rest
    have second := h'.rest
    rw [first] at second
    exact second

theorem Beaten.of_perm (h : Beaten id queues g g') (same : queues.Perm others) :
    Beaten id others g g' where
  appended queue mem := h.appended queue (same.mem_iff.2 mem)
  kept queue full := h.kept queue fun mem => full (same.mem_iff.1 mem)
  made := h.made
  counted := by rw [← same.countP_eq]; exact h.counted
  uncounted := h.uncounted
  told := by
    obtain ⟨news, told, mine⟩ := h.told
    exact ⟨news, told, mine.trans ((same.filter _).map _)⟩
  rest := h.rest

/-- Offers to any number of queues, each of which gets one. -/
theorem beaten_foldl (id : HeartbeatId) (nodes : List Candidate) (g : Gateway)
    (apart : (nodes.map (·.queue)).Nodup)
    (made : ∀ c ∈ nodes, c.queue < g.registry.queues.length) :
    Beaten id (nodes.map (·.queue)) g (nodes.foldl (offerKeepalive id) g) := by
  -- on the nodes, the first one first: its offer is none of the later ones'
  induction nodes generalizing g with
  | nil => exact .nil id g
  | cons c rest ih =>
    rw [List.map_cons, List.nodup_cons] at apart
    have first := beaten_offerKeepalive id g c (made c List.mem_cons_self)
    have later := ih (offerKeepalive id g c) apart.2 fun c' mem =>
      first.made ▸ made c' (List.mem_cons_of_mem _ mem)
    exact first.append later (List.singleton_disjoint.2 apart.1)

end Beaten

/-- Calls alone lead to the registry of every state of a run. -/
theorem built_of_attained {s : Settings} {g : Gateway} (h : Attained s g) : g.registry.Built := by
  induction h with
  | refl => exact ⟨s.queueCapacity, [], rfl⟩
  | tail _ c ih =>
    rcases call_of_change c with same | ⟨call, same⟩
    · exact same ▸ ih
    · exact same ▸ ih.call call

/-- Whatever was registered and whatever is on the queues, a beat puts one keepalive on the queue of every
registered node that has room and counts the others, in whatever order it goes through the nodes, and
changes nothing else. A heartbeat that is due can always beat at once. -/
theorem beat_appends {g : Gateway} (built : g.registry.Built) (id : HeartbeatId) :
    (∀ nodes : List Candidate, nodes.Perm g.registry.allQueues →
        Beaten id g.registry.owned g (nodes.foldl (offerKeepalive id) g)) ∧
      ∀ h : Heartbeat, g.heartbeats[id]? = some h → h.pulse = .beating → h.next ≤ g.clock →
        ∃ g', Beaten id g.registry.owned g g' ∧
          g.move? (.beat id) =
            some { g' with
              heartbeats := g.heartbeats.set id { h with next := g.clock + h.interval } } := by
  obtain ⟨d, refines⟩ := Registry.exists_refines_of_built built
  -- whatever the order, the queues are those of the registered nodes, each of them once
  have effect : ∀ nodes : List Candidate, nodes.Perm g.registry.allQueues →
      Beaten id g.registry.owned g (nodes.foldl (offerKeepalive id) g) := by
    intro nodes order
    have queues := (order.map (·.queue)).trans refines.perm_owned
    refine (beaten_foldl id nodes g ?_ fun c mem => ?_).of_perm queues
    · exact queues.nodup_iff.2 (List.nodup_range.filter _)
    · have owned := queues.mem_iff.1 (List.mem_map_of_mem mem)
      exact List.mem_range.1 (List.mem_filter.1 owned).1
  refine ⟨effect, fun h here beating due => ?_⟩
  have beaten := effect g.registry.allQueues (.refl _)
  refine ⟨g.beatAll id, beaten, ?_⟩
  have beats : (g.beatAll id).heartbeats = g.heartbeats := by
    rw [beatAll, beaten.rest]
  have clock : (g.beatAll id).clock = g.clock := by
    rw [beatAll, beaten.rest]
  have step : g.step? (.beat id) = some { g.beatAll id with
      heartbeats := g.heartbeats.set id { h with next := g.clock + h.interval } } := by
    simp [Gateway.step?, beat, here, beating, due, beats, clock]
  exact move?_eq_some.2 ⟨rfl, step⟩

/-- The first worker comes and goes; the second has a full queue, before which a dispatch waits; the
third has an empty one. A heartbeat is due. -/
def beatStart : Gateway :=
  play { sample with queueCapacity := 1 } (join 0 100 keepaliveFrame ++
    [.input (.closeWrite 0), .move (.receive 0), .move (.receive 0)] ++ reported (.session 0) ++
    join 1 100 keepaliveFrame ++
    ask 0 "default_group" { command := .getItem } 1000 ++ [.move (.place 0 0)] ++
    ask 1 "default_group" { command := .getItem } 1000 ++ [.move (.place 1 0)] ++
    join 2 100 secondFrame ++ [.input (.startHeartbeat 500), .input (.elapse 500)])

/-- Only the third worker gets a keepalive, and the full queue is counted. -/
theorem beat_appends_beatStart :
    ∃ g', beatStart.move? (.beat 0) = some g' ∧
      g'.registry.queue 0 = beatStart.registry.queue 0 ∧
      g'.registry.queue 1 = beatStart.registry.queue 1 ∧
      ((g'.registry.queue 1).frames.length, (g'.registry.queue 1).waiting.length) = (1, 1) ∧
      g'.registry.queue 2 = { frames := [.keepalive] } ∧
      g'.metrics.value .heartbeatEnqueueFailed = 1 := by
  have built := built_of_attained (attained_of_reachable (reachable_play _ _) : Attained _ beatStart)
  have owned : beatStart.registry.owned = [1, 2] := by decide +kernel
  have spaces : [0, 1, 2].map beatStart.registry.full = [true, true, false] := by decide +kernel
  have due : beatStart.heartbeats[0]? = some ⟨500, 500, .beating⟩ ∧ 500 ≤ beatStart.clock := by
    decide +kernel
  have lengths : ((beatStart.registry.queue 1).frames.length,
      (beatStart.registry.queue 1).waiting.length) = (1, 1) := by decide +kernel
  have empty : beatStart.registry.queue 2 = {} := by decide +kernel
  have counted : beatStart.metrics.value .heartbeatEnqueueFailed = 0 := by decide +kernel
  simp only [List.map_cons, List.map_nil, List.cons.injEq, and_true] at spaces
  obtain ⟨first, second, third⟩ := spaces
  obtain ⟨g', beaten, move⟩ := (beat_appends built 0).2 _ due.1 rfl due.2
  rw [owned] at beaten
  have kept := beaten.kept 1 fun _ => second
  refine ⟨_, move, beaten.kept 0 fun _ => first, kept, ?_, ?_, ?_⟩
  · exact (congrArg (fun q => (q.frames.length, q.waiting.length)) kept).trans lengths
  · exact (beaten.appended 2 (by decide) third).trans (by rw [empty]; rfl)
  · exact beaten.counted.trans (by simp [counted, second, third])

end Gateway

end Switchboard
