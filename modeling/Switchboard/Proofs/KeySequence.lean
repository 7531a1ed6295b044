import Mathlib.Data.List.Nodup
import Switchboard.Proofs.ConnectionKey
import Switchboard.Proofs.Ending
import Switchboard.Proofs.Framing
import Switchboard.Proofs.Occurrence
import Switchboard.Proofs.Ownership
import Switchboard.Proofs.Run

/-!
# The keys of a run

A stream whose first frame is there gets its session a key, and the next one the next number
(`Keys`, `keys_perform`), whether a queue can be made for the node or not. So the numbers of the keys
of a run count up (`keyNumbers_keysGiven`), and since the number of a key can be read off it, no key
comes twice, whatever tags the workers chose. Everything else gives no key and registers nobody
(`Keyless`).

Main result: `keys_never_repeat`.
-/

set_option autoImplicit false

namespace Switchboard.Gateway

/-- The session that gets a key by an action, and the key. -/
def keyGiven? (g : Gateway) : Action → Option (SessionId × String)
  | .move (.greet id) =>
    if g.isHeldUp (.greet id) then none
    else
      match g.greeting? id with
      | some (s, _) =>
        match Wire.Frame.next g.settings.sessionLimit s.inbound s.inboundTail with
        | .frame e _ => some (id, g.newKey e)
        | _ => none
      | none => none
  | _ => none

/-- The keys that sessions get in the course of a run, in their order. -/
def keysGiven : Gateway → List Action → List (SessionId × String)
  | _, [] => []
  | g, a :: rest => (g.keyGiven? a).toList ++ keysGiven (g.perform a) rest

/-- No key is used up and nobody registers. -/
structure Keyless (g g' : Gateway) : Prop where
  accepted : g'.accepted = g.accepted
  registered : ∀ {id service}, .registered id service ∈ g'.journal →
    .registered id service ∈ g.journal
  registration : ∀ id, registration? id g'.journal = registration? id g.journal

/-- A session has had its first frame. -/
def Greeted (g : Gateway) (id : SessionId) : Prop :=
  ∃ t, g.sessions[id]? = some t ∧ t.isGreeting = false

/-- What an action has to do with keys. -/
inductive Keys (g : Gateway) (a : Action) (g' : Gateway) : Prop
  | nothing (given : g.keyGiven? a = none) (keyless : Keyless g g')
  /-- A session gets the next key, and may register under it. -/
  | gives {id : SessionId} {tag : String}
      (given : g.keyGiven? a = some (id, connectionKey tag (g.accepted + 1)))
      (waits : ¬ Greeted g id) (greeted : Greeted g' id) (accepted : g'.accepted = g.accepted + 1)
      (registered : ∀ {id' service}, .registered id' service ∈ g'.journal →
        .registered id' service ∈ g.journal ∨
          id' = id ∧ service.key = connectionKey tag (g.accepted + 1))

section Keyless

variable {g g' g'' : Gateway}

theorem Keyless.refl (g : Gateway) : Keyless g g := ⟨rfl, fun mem => mem, fun _ => rfl⟩

theorem Keyless.trans (first : Keyless g g') (second : Keyless g' g'') : Keyless g g'' where
  accepted := second.accepted.trans first.accepted
  registered mem := first.registered (second.registered mem)
  registration id := (second.registration id).trans (first.registration id)

theorem registration?_of_news {news before : List Event}
    (others : ∀ id service, .registered id service ∉ news) (id : SessionId) :
    registration? id (news ++ before) = registration? id before := by
  induction news with
  | nil => rfl
  | cons event later ih =>
    have rest := ih fun id service mem => others id service (List.mem_cons_of_mem _ mem)
    cases event with
    | registered other service => exact absurd List.mem_cons_self (others other service)
    | _ => exact rest

theorem Keyless.of_news (news : List Event) (accepted : g'.accepted = g.accepted)
    (journal : g'.journal = news ++ g.journal)
    (others : ∀ id service, .registered id service ∉ news) : Keyless g g' where
  accepted := accepted
  registered mem := by
    rw [journal] at mem
    exact (List.mem_append.1 mem).resolve_left (others _ _)
  registration id := by rw [journal, registration?_of_news others]

theorem Keyless.of_same (accepted : g'.accepted = g.accepted) (journal : g'.journal = g.journal) :
    Keyless g g' :=
  .of_news [] accepted journal (by simp)

theorem Keyless.of_event {event : Event} (accepted : g'.accepted = g.accepted)
    (journal : g'.journal = event :: g.journal)
    (other : ∀ id service, event ≠ .registered id service) : Keyless g g' :=
  .of_news [event] accepted journal fun id service mem =>
    other id service (List.mem_singleton.1 mem).symm

theorem keyless_letIn (waiting : Option DispatchId) (queue : QueueId) :
    Keyless g (g.letIn waiting queue) := by
  rcases letIn_cases g waiting queue with ⟨eq, -⟩ | ⟨caller, d, -, -, eq⟩
  · rw [eq]
    exact .refl g
  · rw [eq]
    exact .of_event rfl rfl (by simp)

theorem keyless_close (id : SessionId) (service : Service) : Keyless g (g.close id service) := by
  rw [close]
  split
  · exact .refl g
  · rcases deregister_shape (g := g) id service with
      ⟨current, metrics, -, -, eq⟩ | ⟨members, q, -, -, eq⟩
    · rw [eq]
      exact .of_event rfl rfl (by simp)
    · rw [eq]
      exact .of_news [.queued service.queue .keepalive (.closing id), .closed id true] rfl rfl
        (by simp)

theorem keyless_finish (id : SessionId) (t : Session) (service : Service) (reason : SessionError) :
    Keyless g (g.finish id t service reason) := by
  obtain ⟨accepted, -, -, journal⟩ := finish_rest g id t service reason
  exact (keyless_close id service).trans (.of_event accepted journal (by simp))

theorem keyless_handle (id : SessionId) (t : Session) (service : Service) (e : Envelope) :
    Keyless g (g.handle id t service e) := by
  have read : Keyless g (g.record (.received id e)) := .of_event rfl rfl (by simp)
  refine read.trans ?_
  rcases handle_cases g id t service e with
    ⟨-, eq⟩ | ⟨ticket, replies, -, -, eq⟩ | ⟨replies, -, -, eq⟩ | ⟨replies, -, -, eq⟩ <;> rw [eq]
  · exact (keyless_close id service).trans (.of_same rfl rfl)
  · exact .of_event rfl rfl (by simp)
  · exact .of_same rfl rfl
  · exact .of_same rfl rfl

theorem keyless_afterTaking (id : SessionId) (service : Service)
    (taken : Queue.Taken DispatchId) : Keyless g (g.afterTaking id service taken) := by
  have popped : Keyless g ({ g with
      registry := g.registry.setQueue service.queue taken.queue }.record
        (.taken id service.queue taken.frame)) := .of_event rfl rfl (by simp)
  exact popped.trans (keyless_letIn _ _)

/-- Only the first frame of a stream gets a session a key. -/
theorem keyless_of_deed {id : SessionId} {m : Move} (deed : Deed g id m g')
    (later : m ≠ .greet id) : Keyless g g' := by
  cases deed with
  | dismissed reason how here greeting => exact .of_event rfl rfl (by simp)
  | enrolled e rest here greeting room => exact absurd rfl later
  | broke here greeting => exact absurd rfl later
  | finished reason how here serving => exact keyless_finish _ _ _ _
  | handled here serving read => exact keyless_handle _ _ _ _
  | acquired here serving waiting free => exact .of_same rfl rfl
  | retired here serving between notified => exact .of_same rfl rfl
  | looked here serving idle current => exact .of_event rfl rfl (by simp)
  | missed here serving reaching empty => exact .of_same rfl rfl
  | took here serving reaching first encoded =>
    exact (keyless_afterTaking _ _ _).trans (.of_same rfl rfl)
  | skipped here serving reaching first unwritable =>
    exact (keyless_afterTaking _ _ _).trans (.of_event rfl rfl (by simp))
  | wrote here serving writing whole pos room le => exact .of_event rfl rfl (by simp)

theorem keyless_of_turn {id : DispatchId} {d : Dispatch} {m : Move} (turn : Turn g id d m g') :
    Keyless g g' := by
  cases turn with
  | passed placing chosen shut => exact .of_same rfl rfl
  | joined placing chosen live full => exact .of_same rfl rfl
  | movedOn blocked shut => exact .of_same rfl rfl
  | _ => exact .of_event rfl rfl (by simp)

theorem keyless_dispatch (group : String) (e : Envelope) (timeout : Nat) :
    Keyless g (g.dispatch group e timeout) := by
  have opens : ∀ replies, Keyless g (g.slotted (g.newDispatch group e timeout) replies) :=
    fun replies => .of_event rfl (journal_slotted _ replies) (by simp)
  have starts := starts_dispatch g group e timeout
  generalize g.dispatch group e timeout = g' at starts ⊢
  cases starts with
  | collides taken => exact .of_event rfl (journal_resolve _ _ _) (by simp)
  | @fails claim replies cause opened =>
    exact (opens replies).trans (.of_event rfl (journal_resolve _ _ _) (by simp))
  | @places claim replies left opened => exact (opens replies).trans (.of_same rfl rfl)

theorem keyless_of_occurs {a : Action} (occurs : Occurs g a g')
    (later : ∀ id, a ≠ .move (.greet id)) : Keyless g g' := by
  cases occurs with
  | @deed a id m g' how mem free deed =>
    refine keyless_of_deed deed fun same => ?_
    rcases how with how | ⟨-, reach⟩
    · exact later id (how.trans (congrArg Action.move same))
    · exact absurd (same.symm.trans reach) (by simp)
  | turn here free turn => exact keyless_of_turn turn
  | tallies due => exact .of_event rfl rfl (by simp)
  | publishes due => exact .of_event rfl rfl (by simp)
  | beats id =>
    obtain ⟨registry, metrics, news, shape, each⟩ := beatAll_shape (g := g) id
    refine .of_news news (by rw [shape]) (by rw [shape]) fun other service mem => ?_
    obtain ⟨queue, same⟩ := each _ mem
    exact absurd same (by simp)
  | stops id => exact .of_event rfl rfl (by simp)
  | starts group e timeout => exact keyless_dispatch group e timeout
  | forsakes here free waits => exact .of_event rfl rfl (by simp)
  | connects greeting => exact .of_same rfl rfl
  | streams own here phase => exact .of_same rfl rfl
  | around => exact .of_same rfl rfl

end Keyless

/-! ## One action -/

section Keys

variable {g g' : Gateway}

theorem not_greeted_of_greeting {id : SessionId} {t : Session} {deadline : Nat}
    (here : g.sessions[id]? = some t) (greeting : t.phase = .greeting deadline) :
    ¬ Greeted g id := by
  rintro ⟨t', here', past⟩
  obtain rfl := Option.some.inj (here.symm.trans here')
  exact absurd past (by simp [Session.isGreeting, greeting])

theorem Greeted.changes {id : SessionId} (greeted : Greeted g id) (run : Changes g g') :
    Greeted g' id := by
  induction run with
  | refl => exact greeted
  | tail _ c ih =>
    obtain ⟨t, here, past⟩ := ih
    exact isGreeting_of_change c here past

theorem Greeted.perform {id : SessionId} (greeted : Greeted g id) (a : Action) :
    Greeted (g.perform a) id := by
  rw [Gateway.perform]
  cases step : g.act? a with
  | none => exact greeted
  | some g' => exact greeted.changes (changes_of_act step)

theorem keys_greet (g : Gateway) (id : SessionId) :
    Keys g (.move (.greet id)) (g.perform (.move (.greet id))) := by
  cases held : g.isHeldUp (.greet id) with
  | true =>
    have same : g.perform (.move (.greet id)) = g := by simp [perform, act?, move?, held]
    rw [same]
    exact .nothing (by simp [keyGiven?, held]) (.refl g)
  | false =>
    have step : g.perform (.move (.greet id)) = (g.greet id).getD g := by
      simp [perform, act?, move?, held, Gateway.step?]
    cases waiting : g.greeting? id with
    | none =>
      have same : g.perform (.move (.greet id)) = g := by simp [step, greet, waiting]
      rw [same]
      exact .nothing (by simp [keyGiven?, held, waiting]) (.refl g)
    | some pair =>
      obtain ⟨t, deadline⟩ := pair
      obtain ⟨here, greeting⟩ := greeting?_eq_some.1 waiting
      obtain ⟨lt, -⟩ := List.getElem?_eq_some_iff.1 here
      cases next : Wire.Frame.next g.settings.sessionLimit t.inbound t.inboundTail with
      | incomplete =>
        have same : g.perform (.move (.greet id)) = g := by
          simp [step, greet, waiting, next]
        rw [same]
        exact .nothing (by simp [keyGiven?, held, waiting, next]) (.refl g)
      | finished =>
        have same : g.perform (.move (.greet id)) = g.dismiss id t .endOfStream := by
          simp [step, greet, waiting, next]
        rw [same]
        exact .nothing (by simp [keyGiven?, held, waiting, next]) (.of_event rfl rfl (by simp))
      | failed cause =>
        have same : g.perform (.move (.greet id)) = g.dismiss id t (.read cause) := by
          simp [step, greet, waiting, next]
        rw [same]
        exact .nothing (by simp [keyGiven?, held, waiting, next]) (.of_event rfl rfl (by simp))
      | frame e rest =>
        have same : g.perform (.move (.greet id)) = g.welcome id t e rest := by
          simp [step, greet, waiting, next]
        have given : g.keyGiven? (.move (.greet id)) = some (id, g.newKey e) := by
          simp [keyGiven?, held, waiting, next]
        have waits := not_greeted_of_greeting here greeting
        rw [same, welcome]
        -- the number is used up, whether the node can be registered or not
        split
        · refine .gives given waits ⟨_, List.getElem?_set_self lt, rfl⟩ rfl ?_
          intro id' service mem
          rcases List.mem_cons.1 mem with new | old
          · obtain ⟨rfl, rfl⟩ := Event.registered.inj new
            exact Or.inr ⟨rfl, rfl⟩
          · exact Or.inl old
        · exact .gives given waits ⟨_, List.getElem?_set_self lt, rfl⟩ rfl Or.inl

theorem keys_perform (g : Gateway) (a : Action) : Keys g a (g.perform a) := by
  by_cases greets : ∃ id, a = .move (.greet id)
  · obtain ⟨id, rfl⟩ := greets
    exact keys_greet g id
  · have later : ∀ id, a ≠ .move (.greet id) := fun id same => greets ⟨id, same⟩
    have given : g.keyGiven? a = none := by
      cases a with
      | input i => rfl
      | move m =>
        cases m with
        | greet id => exact absurd rfl (later id)
        | _ => rfl
    rw [perform]
    cases step : g.act? a with
    | none => exact .nothing given (.refl g)
    | some g' => exact .nothing given (keyless_of_occurs (occurs_of_act step) later)

end Keys

/-! ## A run -/

section Run

variable {g : Gateway}

/-- As many numbers are used up as keys are given. -/
theorem length_keysGiven (actions : List Action) :
    (actions.foldl perform g).accepted = g.accepted + (keysGiven g actions).length := by
  induction actions generalizing g with
  | nil => rfl
  | cons a rest ih =>
    rw [List.foldl_cons, ih, keysGiven, List.length_append]
    cases keys_perform g a with
    | nothing given keyless =>
      rw [keyless.accepted, given, Option.toList_none, List.length_nil, Nat.zero_add]
    | gives given waits greeted accepted registered =>
      rw [accepted, given, Option.toList_some, List.length_singleton, Nat.add_assoc]

/-- The key at a place of the sequence has the number of this place. -/
theorem exists_tag_of_keysGiven (actions : List Action) {i : Nat} {id : SessionId} {key : String}
    (there : (keysGiven g actions)[i]? = some (id, key)) :
    ∃ tag, key = connectionKey tag (g.accepted + i + 1) := by
  induction actions generalizing g i with
  | nil => exact absurd there (by simp [keysGiven])
  | cons a rest ih =>
    rw [keysGiven] at there
    cases keys_perform g a with
    | nothing given keyless =>
      rw [given, Option.toList_none, List.nil_append] at there
      rw [← keyless.accepted]
      exact ih there
    | gives given waits greeted accepted registered =>
      rw [given, Option.toList_some, List.singleton_append] at there
      cases i with
      | zero =>
        rw [List.getElem?_cons_zero] at there
        obtain ⟨-, rfl⟩ := Prod.mk.inj (Option.some.inj there)
        exact ⟨_, rfl⟩
      | succ i =>
        obtain ⟨tag, numbered⟩ := ih (List.getElem?_cons_succ ▸ there)
        rw [accepted, Nat.add_right_comm g.accepted 1 i] at numbered
        exact ⟨tag, numbered⟩

/-- The numbers of the keys count up. -/
theorem keyNumbers_keysGiven (actions : List Action) :
    (keysGiven g actions).map (fun pair => keyNumber pair.2) =
      List.range' (g.accepted + 1) (keysGiven g actions).length := by
  apply List.ext_getElem?
  intro i
  rw [List.getElem?_map]
  cases there : (keysGiven g actions)[i]? with
  | none =>
    rw [List.getElem?_eq_none_iff] at there
    rw [Option.map_none, List.getElem?_eq_none (by rwa [List.length_range'])]
  | some pair =>
    obtain ⟨id, key⟩ := pair
    obtain ⟨tag, rfl⟩ := exists_tag_of_keysGiven actions there
    obtain ⟨lt, -⟩ := List.getElem?_eq_some_iff.1 there
    rw [Option.map_some, keyNumber_connectionKey, List.getElem?_range' lt]
    congr 1
    omega

theorem nodup_keys (actions : List Action) : ((keysGiven g actions).map (·.2)).Nodup := by
  have numbers : (((keysGiven g actions).map (·.2)).map keyNumber).Nodup := by
    rw [List.map_map]
    exact keyNumbers_keysGiven (g := g) actions ▸ List.nodup_range'
  exact numbers.of_map _

/-- A session that has had its first frame gets no key any more. -/
theorem not_greeted_of_mem_keysGiven (actions : List Action) {pair : SessionId × String}
    (mem : pair ∈ keysGiven g actions) : ¬ Greeted g pair.1 := by
  induction actions generalizing g with
  | nil => exact absurd mem (by simp [keysGiven])
  | cons a rest ih =>
    rw [keysGiven, List.mem_append] at mem
    rcases mem with now | later
    · cases keys_perform g a with
      | nothing given keyless => exact absurd now (by simp [given])
      | gives given waits greeted accepted registered =>
        rw [given, Option.toList_some, List.mem_singleton] at now
        rw [now]
        exact waits
    · exact fun greeted => ih later (greeted.perform a)

theorem nodup_sessions (actions : List Action) : ((keysGiven g actions).map (·.1)).Nodup := by
  induction actions generalizing g with
  | nil => exact List.nodup_nil
  | cons a rest ih =>
    rw [keysGiven]
    cases keys_perform g a with
    | nothing given keyless => simpa [given] using ih
    | gives given waits greeted accepted registered =>
      rw [given, Option.toList_some, List.singleton_append, List.map_cons, List.nodup_cons]
      refine ⟨fun mem => ?_, ih⟩
      obtain ⟨pair, later, same⟩ := List.mem_map.1 mem
      exact not_greeted_of_mem_keysGiven rest later (same ▸ greeted)

/-- Who registers does so under the key that its session got. -/
theorem mem_keysGiven_of_registered (actions : List Action) {id : SessionId} {service : Service}
    (mem : .registered id service ∈ (actions.foldl perform g).journal) :
    .registered id service ∈ g.journal ∨ (id, service.key) ∈ keysGiven g actions := by
  induction actions generalizing g with
  | nil => exact Or.inl mem
  | cons a rest ih =>
    rw [keysGiven, List.mem_append]
    rcases ih mem with before | later
    · cases keys_perform g a with
      | nothing given keyless => exact Or.inl (keyless.registered before)
      | gives given waits greeted accepted registered =>
        rcases registered before with old | ⟨rfl, key⟩
        · exact Or.inl old
        · exact Or.inr (Or.inl (by simp [given, key]))
    · exact Or.inr (Or.inr later)

end Run

/-- Whatever tags the workers choose, in a run that uses up fewer than 2^64 numbers no key comes twice,
and no session gets two: the key at a place of the sequence is a tag, a hyphen and the 64-bit number of
this place, which can be read off it. Sessions register under the keys that they got, and these have
the tags of their workers. -/
theorem keys_never_repeat (s : Settings) (actions : List Action)
    (few : (play s actions).accepted < UInt64.size) :
    (∀ tag n, keyNumber (connectionKey tag n) = n) ∧
    (keysGiven (.start s) actions).length = (play s actions).accepted ∧
    (∀ {i id key}, (keysGiven (.start s) actions)[i]? = some (id, key) →
      ∃ tag, key = connectionKey tag (UInt64.ofNat (i + 1)).toNat ∧ keyNumber key = i + 1) ∧
    ((keysGiven (.start s) actions).map (·.1)).Nodup ∧
    ((keysGiven (.start s) actions).map (·.2)).Nodup ∧
    (∀ {id service}, .registered id service ∈ (play s actions).journal →
      (id, service.key) ∈ keysGiven (.start s) actions ∧
        service.key = connectionKey service.identity.connTag (keyNumber service.key)) := by
  have length : (play s actions).accepted = (keysGiven (.start s) actions).length :=
    (length_keysGiven actions).trans (Nat.zero_add _)
  refine ⟨keyNumber_connectionKey, length.symm, ?_, nodup_sessions actions, nodup_keys actions, ?_⟩
  · intro i id key there
    obtain ⟨lt, -⟩ := List.getElem?_eq_some_iff.1 there
    obtain ⟨tag, rfl⟩ := exists_tag_of_keysGiven actions there
    have number : (Gateway.start s).accepted + i + 1 = i + 1 :=
      congrArg (· + 1) (Nat.zero_add i)
    have fits : (UInt64.ofNat (i + 1)).toNat = i + 1 :=
      UInt64.toNat_ofNat_of_lt' (by omega)
    rw [number, fits]
    exact ⟨tag, rfl, keyNumber_connectionKey tag _⟩
  · intro id service listed
    refine ⟨(mem_keysGiven_of_registered actions listed).resolve_left (by simp [start]), ?_⟩
    obtain ⟨n, -, key⟩ := (owned_of_attained
      (attained_of_reachable (reachable_play s actions))).numbered listed
    rw [key, keyNumber_connectionKey]

/-- What a worker says that chose this tag. -/
def tagged (tag : String) : List UInt8 :=
  Wire.Frame.bytes ({ conn := some tag } : Metadata).registerFrame

/-- Each worker takes the key of the one before for its tag. -/
def forgedTags : List Action :=
  join 0 100 (tagged "a") ++ join 1 100 (tagged "a-1") ++ join 2 100 (tagged "a-1-2")

/-- Their keys differ all the same. -/
theorem keys_never_repeat_forgedTags :
    (play sample forgedTags).accepted < UInt64.size ∧
      keysGiven (.start sample) forgedTags = [(0, "a-1"), (1, "a-1-2"), (2, "a-1-2-3")] ∧
      ((keysGiven (.start sample) forgedTags).map (·.2)).Nodup := by
  have few : (play sample forgedTags).accepted < UInt64.size := by decide +kernel
  obtain ⟨-, -, -, -, apart, -⟩ := keys_never_repeat sample forgedTags few
  exact ⟨few, by decide +kernel, apart⟩

end Switchboard.Gateway
