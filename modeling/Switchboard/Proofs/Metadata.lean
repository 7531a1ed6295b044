import Mathlib.Data.List.Nodup
import Switchboard.Metadata
import Switchboard.Proofs.Handshake
import Switchboard.Proofs.JsonText

/-!
# The metadata of a connection on its way

A worker puts its metadata into a `Register` frame as the JSON text of an object that leaves absent
fields out. The gateway gets the same metadata back (`Metadata.ofFrame_registerFrame`): every text is read
as it was written, and a name under which nothing was written is absent (`Fields.ofMembers_present`). A
session registers with the first frame of its stream, if it does (`registeredByFirst_of_run`), so it
registers under what its worker said, and under defaults only where the worker said nothing.

Main result: `register_keeps_metadata`.
-/

set_option autoImplicit false

namespace Switchboard

namespace Fields

variable {δ : Type}

/-- The fields that are there, with their names. -/
def present (names : List String) (values : List (Option δ)) : List (String × δ) :=
  (names.zip values).filterMap fun (name, value) => value.map fun value => (name, value)

theorem present_cons (name : String) (names : List String) (value : Option δ)
    (values : List (Option δ)) :
    present (name :: names) (value :: values) =
      (value.toList.map fun value => (name, value)) ++ present names values := by
  rw [present, List.zip_cons_cons, List.filterMap_cons]
  cases value <;> rfl

theorem mem_names_of_present {names : List String} {values : List (Option δ)} {m : String × δ}
    (mem : m ∈ present names values) : m.1 ∈ names := by
  obtain ⟨⟨name, value⟩, among, some⟩ := List.mem_filterMap.1 mem
  obtain ⟨v, -, rfl⟩ := Option.map_eq_some_iff.1 some
  exact (List.of_mem_zip among).1

theorem map_present {ε : Type} (f : δ → ε) (names : List String) (values : List (Option δ)) :
    (present names values).map (fun m => (m.1, f m.2)) =
      present names (values.map fun value => value.map f) := by
  induction names generalizing values with
  | nil => rfl
  | cons name names ih =>
    cases values with
    | nil => rfl
    | cons value values =>
      rw [present_cons, List.map_append, ih, List.map_cons, present_cons]
      cases value <;> rfl

/-- Under each of its names a record that was written has the field again. -/
theorem map_filter_present {names : List String} (distinct : names.Nodup)
    {values : List (Option δ)} (complete : values.length = names.length) :
    (names.map fun name => ((present names values).filter fun m => m.1 == name).map (·.2)) =
      values.map Option.toList := by
  induction names generalizing values with
  | nil => rw [List.length_eq_zero_iff.1 complete]; rfl
  | cons name names ih =>
    obtain ⟨value, values, rfl⟩ := List.exists_cons_of_length_eq_add_one complete
    obtain ⟨fresh, distinct⟩ := List.nodup_cons.1 distinct
    -- none of the later fields has the first name, and the first field has none of the later names
    have own : ((present (name :: names) (value :: values)).filter fun m => m.1 == name).map (·.2) =
        value.toList := by
      have others : ((present names values).filter fun m => m.1 == name) = [] := by
        refine List.filter_eq_nil_iff.2 fun m mem same => fresh ?_
        exact eq_of_beq same ▸ mem_names_of_present mem
      rw [present_cons, List.filter_append, others]
      cases value <;> simp
    have rest : ∀ other ∈ names,
        ((present (name :: names) (value :: values)).filter fun m => m.1 == other) =
          (present names values).filter fun m => m.1 == other := by
      intro other mem
      have apart : name ≠ other := fun same => fresh (same ▸ mem)
      rw [present_cons, List.filter_append]
      cases value <;> simp [apart]
    rw [List.map_cons, own, List.map_cons, ← ih distinct (Nat.succ.inj complete)]
    refine congrArg _ (List.map_congr_left fun other mem => ?_)
    rw [rest other mem]

/-- A record that was written without the fields that are absent is read back. -/
theorem ofMembers_present {names : List String} (distinct : names.Nodup)
    {values : List (Option δ)} (complete : values.length = names.length) :
    ofMembers names (present names values) = some ⟨values, false⟩ := by
  have once : (values.map Option.toList).all (fun found => found.length ≤ 1) = true := by
    refine List.all_eq_true.2 fun found mem => ?_
    obtain ⟨value, -, rfl⟩ := List.mem_map.1 mem
    cases value <;> rfl
  have heads : (values.map Option.toList).map List.head? = values := by
    rw [List.map_map]
    refine (List.map_congr_left fun value _ => ?_).trans (List.map_id values)
    cases value <;> rfl
  rw [ofMembers, map_filter_present distinct complete, if_pos once, heads]

end Fields

namespace Metadata

/-- The fields of metadata, in the order of their names. -/
def values (m : Metadata) : List (Option String) := [m.clientId, m.group, m.conn]

theorem toJson_eq (m : Metadata) : m.toJson = Json.ofTexts (Fields.present fieldNames m.values) := by
  rw [toJson, Json.ofTexts, Fields.present, List.map_filterMap]
  refine congrArg _ (List.filterMap_congr fun p _ => ?_)
  obtain ⟨name, value⟩ := p
  cases value <;> rfl

/-- The tree of a text. -/
def leaf (value : String) : Json.Tree := .string (some value)

/-- An object of texts has a text under each of its keys. -/
theorem namedMembers?_ofTexts (members : List (String × String)) :
    (Json.Tree.ofTexts members).namedMembers? = some (members.map fun m => (m.1, leaf m.2)) := by
  rw [Json.Tree.ofTexts, Json.Tree.namedMembers?]
  induction members with
  | nil => rfl
  | cons member later ih =>
    rw [List.map_cons, List.mapM_cons, ih]
    rfl

/-- A field that is absent or a text is read. -/
theorem withDefault_text (value : Option String) {fields : Fields Json.Tree} {place : Nat}
    (there : fields.at? place = value.map leaf) :
    fields.withDefault place none (Document.optional Document.text : Json.Tree → Option _) =
      some value := by
  rw [Fields.withDefault, there]
  cases value <;> rfl

/-- Metadata is read back from its JSON text. -/
theorem read?_text (m : Metadata) : Json.read? ofJson? m.toJson.text = some m := by
  have fields : (Document.fields fieldNames (Json.Tree.ofTexts (Fields.present fieldNames m.values)) :
      Option (Fields Json.Tree)) = some ⟨m.values.map fun value => value.map leaf, false⟩ := by
    have members := namedMembers?_ofTexts (Fields.present fieldNames m.values)
    rw [Fields.map_present] at members
    have distinct : fieldNames.Nodup := by decide
    exact (congrArg (Option.bind · _) members).trans (Fields.ofMembers_present distinct rfl)
  rw [Json.read?, toJson_eq, Json.Tree.parse_text_ofTexts, Option.bind_some, ofJson?, fields]
  simp only [Option.bind_eq_bind, Option.bind_some]
  rw [withDefault_text m.clientId rfl, withDefault_text m.group rfl, withDefault_text m.conn rfl]
  rfl

/-- Metadata is read back from its frame. -/
theorem ofFrame_registerFrame (m : Metadata) : ofFrame m.registerFrame = m := by
  rw [ofFrame, registerFrame, read?_text, Option.getD_some]

/-- A value of its own is kept if it is there and not empty, and else the default is taken. -/
structure Resolves (value : Option String) (default own : String) : Prop where
  given : ∀ v, value = some v → v ≠ "" → own = v
  missing : value = none ∨ value = some "" → own = default

theorem resolves_orDefault (value : Option String) (default : String) :
    Resolves value default (orDefault value default) where
  given v some filled := by
    subst some
    rw [orDefault, Option.filter_some, if_pos (by simpa using filled), Option.getD_some]
  missing absent := by
    rcases absent with rfl | rfl <;> rfl

/-- An identity is what metadata says, field by field. -/
structure Names (m : Metadata) (identity : Identity) : Prop where
  node : Resolves m.clientId Identity.defaultNode identity.node
  group : Resolves m.group Identity.defaultGroup identity.group
  connTag : Resolves m.conn Identity.defaultConn identity.connTag

theorem names_identity (m : Metadata) : Names m m.identity :=
  ⟨resolves_orDefault _ _, resolves_orDefault _ _, resolves_orDefault _ _⟩

end Metadata

namespace Gateway

open Wire

/-- A session that registered did so with the first frame of its stream. -/
def RegisteredByFirst (s : Settings) (id : SessionId) (sent : Sent) (g : Gateway) : Prop :=
  ∀ service, .registered id service ∈ tale id g.journal →
    ∃ e rest, Frame.next s.sessionLimit sent.bytes .more = .frame e rest ∧
      service.identity = firstIdentity e

section Runs

variable {s : Settings} {g g' g₀ : Gateway} {id : SessionId} {t : Session} {deadline : Nat}
  {actions : List Action} {a : Action} {sent : Sent}

theorem bytes_cutOff (sent : Sent) (tail : Tail) : (sent.cutOff tail).bytes = sent.bytes := by
  unfold Sent.cutOff
  split <;> rfl

/-- What is on a stream stays there. -/
theorem exists_bytes_after (id : SessionId) (sent : Sent) (a : Action) :
    ∃ more, (sent.after id a).bytes = sent.bytes ++ more := by
  unfold Sent.after
  split
  · split
    · exact ⟨_, rfl⟩
    · exact ⟨[], by simp⟩
  · split <;> exact ⟨[], by simp [bytes_cutOff]⟩
  · split <;> exact ⟨[], by simp [bytes_cutOff]⟩
  · exact ⟨[], by simp⟩

theorem RegisteredByFirst.after (h : RegisteredByFirst s id sent g) (a : Action)
    (same : ∀ service, .registered id service ∈ tale id g'.journal →
      .registered id service ∈ tale id g.journal) :
    RegisteredByFirst s id (sent.after id a) g' := by
  intro service mem
  obtain ⟨e, rest, first, identity⟩ := h service (same service mem)
  obtain ⟨more, grown⟩ := exists_bytes_after id sent a
  rw [grown]
  exact ⟨e, _, next_frame_append first more, identity⟩

/-- A session registers in its greeting only. -/
theorem Standing.registeredByFirst_move (attained : Attained s g)
    (standing : Standing s g₀ id deadline actions g t)
    (h : RegisteredByFirst s id (sentBy id actions) g) {m : Move} (mem : m ∈ sessionMoves id)
    (step : g.move? m = some g') :
    RegisteredByFirst s id ((sentBy id actions).after id (.move m)) g' := by
  have live := (deed_of_move mem step).isLive
  rw [standing.here] at live
  -- only the greeting of a session that waits writes a registration
  cases standing.stage with
  | waiting greeting unread untold =>
    cases greets_of_move attained standing.here greeting unread standing.tail mem step with
    | refused why => exact h.after _ fun service => by simp [tale]
    | @admitted e rest first room =>
      intro service mem
      have told : tale id (g.enroll id t e rest).journal = [.registered id (g.newService e)] :=
        (List.filter_cons_of_pos (by simp [Event.session?])).trans (congrArg _ untold)
      rw [told, List.mem_singleton] at mem
      obtain ⟨-, rfl⟩ := Event.registered.inj mem
      exact ⟨e, rest, first, rfl⟩
    | broke first none => exact h.after _ fun _ mem => mem
  | refused earlier there waited why ended told => exact absurd live (by simp [Session.isLive, ended])
  | brokenDown first none broken untold => exact absurd live (by simp [Session.isLive, broken])
  | admitted room identity told once handover =>
    rcases handover.serving_or_ended with ⟨service, phase⟩ | ⟨reason, phase⟩
    · obtain ⟨news, told', quiet⟩ := (tends_of_move standing.here phase mem step).exists_tale
      refine h.after _ fun service mem => ?_
      rw [told'] at mem
      exact (List.mem_append.1 mem).resolve_left (quiet id service)
    · exact absurd live (by simp [Session.isLive, phase])

theorem Standing.registeredByFirst (attained : Attained s g)
    (standing : Standing s g₀ id deadline actions g t)
    (h : RegisteredByFirst s id (sentBy id actions) g) (step : g.act? a = some g') :
    RegisteredByFirst s id (sentBy id (actions ++ [a])) g' := by
  rw [sentBy_concat]
  -- what is no move of the session adds nothing to its tale
  by_cases moves : ∃ m ∈ sessionMoves id, a = .move m
  · obtain ⟨m, mem, rfl⟩ := moves
    exact standing.registeredByFirst_move attained h mem step
  · have told : tale id g'.journal = tale id g.journal := by
      rcases stepOf_or_elsewhere attained step with own | ⟨-, told⟩
      · exact tale_of_aside own step fun mem same => moves ⟨_, mem, same⟩
      · exact told
    exact h.after _ fun service mem => by rwa [told] at mem

/-- However a run goes on, a stream registers with its first frame, if it does. -/
theorem registeredByFirst_of_run (h : Reachable s g) (buffer : Nat) (actions : List Action) :
    RegisteredByFirst s g.sessions.length (sentBy g.sessions.length actions)
      (actions.foldl perform (g.input (.connect buffer))) := by
  -- on the actions, the last one first
  induction actions using List.reverseRecOn with
  | nil =>
    intro service mem
    have unknown : tale g.sessions.length g.journal = [] :=
      tale_of_unknown h (List.getElem?_eq_none (Nat.le_refl _))
    rw [List.foldl_nil] at mem
    exact absurd ((congrArg (_ ∈ ·) unknown).mp mem) List.not_mem_nil
  | append_singleton actions a ih =>
    obtain ⟨later, t, standing⟩ := exists_standing h buffer actions
    rw [standing.run] at ih
    rw [List.foldl_append, standing.run, List.foldl_cons, List.foldl_nil, perform]
    cases step : later.act? a with
    | none =>
      rw [sentBy_concat]
      exact ih.after a fun _ mem => mem
    | some g' =>
      have reached : Reachable s later := by
        rw [← standing.run]
        exact reachable_of_leads (.input _ h) (leads_foldl_perform actions)
      exact standing.registeredByFirst (attained_of_reachable reached) ih step

/-- With a frame on its stream a session that waits registers at once, if a queue can be made. -/
theorem registers_of_first (h : Reachable s g) (here : g.sessions[id]? = some t)
    (greeting : t.phase = .greeting deadline) (room : Queue.isCapacity s.queueCapacity = true)
    {e : Envelope} {rest : List UInt8}
    (first : Frame.next s.sessionLimit t.inbound t.inboundTail = .frame e rest) :
    ∃ g', g.move? (.greet id) = some g' ∧ .registered id (g.newService e) ∈ g'.journal ∧
      g'.registry.nodes.get? (firstIdentity e).node = some (g.newService e).entry := by
  refine ⟨g.enroll id t e rest, ?_, List.mem_cons_self, ?_⟩
  · refine move?_eq_some.2 ⟨isHeldUp_of_greeting h here greeting, ?_⟩
    exact (greet_of_frame (attained_of_reachable h) here greeting first).trans (by rw [if_pos room])
  · have nodes : (g.enroll id t e rest).registry.nodes = _ := Registry.nodes_register _ _ _ _
    rw [nodes, Assoc.get?_insert, if_pos rfl]
    rfl

end Runs

/-- A session whose worker sends a `Register` frame with some metadata first. -/
structure Introduced (s : Settings) (m : Metadata) (id : SessionId) (g : Gateway) : Prop where
  /-- It registers under this metadata, if it does. -/
  named : ∀ service, .registered id service ∈ g.journal → m.Names service.identity
  /-- While it waits it can register at once, wherever a queue can be made. -/
  admitted : ∀ t deadline, g.sessions[id]? = some t → t.phase = .greeting deadline →
    Queue.isCapacity s.queueCapacity = true →
    ∃ g' service, g.move? (.greet id) = some g' ∧ .registered id service ∈ g'.journal ∧
      g'.registry.nodes.get? service.identity.node = some service.entry ∧ m.Names service.identity

/-- The metadata of any connection comes back from its frame: in whatever pieces the frame of a writer
reaches a reader with the same limit or a larger one, the reader gets it and finds in it the metadata
that it was made of, with what is absent apart from what is empty. A session whose worker starts its
stream with the frame registers under this metadata, in which each field has its own value just if there
is one that is not empty, and else its default. -/
theorem register_keeps_metadata (m : Metadata) {writer : Nat} {frame : List UInt8}
    (written : Frame.encode writer m.registerFrame = .ok frame) :
    (∀ {limit source rest}, writer ≤ limit → source.flatten = frame ++ rest →
        ∃ e source', readFrame limit source = .frame e source' ∧ source'.flatten = rest ∧
          Metadata.ofFrame e = m) ∧
      ∀ {s g}, Reachable s g → writer ≤ s.sessionLimit → ∀ buffer actions rest,
        (sentBy g.sessions.length actions).bytes = frame ++ rest →
        Introduced s m g.sessions.length (actions.foldl perform (g.input (.connect buffer))) := by
  obtain ⟨writable, rfl⟩ := Frame.encode_eq_ok.1 written
  have readable : Command.register.Readable := ⟨"1", by decide⟩
  have first : ∀ {limit}, writer ≤ limit → ∀ rest tail,
      Frame.next limit (Frame.bytes m.registerFrame ++ rest) tail = .frame m.registerFrame rest :=
    fun wider => Frame.next_bytes (writable.mono wider) readable
  have named : m.Names (firstIdentity m.registerFrame) := by
    rw [identity_of_first, if_pos (by rfl), m.ofFrame_registerFrame]
    exact m.names_identity
  refine ⟨fun {limit source rest} wider pieces => ?_, fun {s g} h wider buffer actions rest sent => ?_⟩
  · have read := joined_readFrame limit source
    rw [pieces, first wider] at read
    cases result : readFrame limit source with
    | frame e source' =>
      rw [result, ReadResult.joined] at read
      obtain ⟨rfl, rest⟩ := Frame.Next.frame.inj read
      exact ⟨_, source', rfl, rest, m.ofFrame_registerFrame⟩
    | finished =>
      rw [result] at read
      exact absurd read (by simp [ReadResult.joined])
    | failed cause =>
      rw [result] at read
      exact absurd read (by simp [ReadResult.joined])
  · obtain ⟨later, t, standing⟩ := exists_standing h buffer actions
    have reached : Reachable s later := by
      rw [← standing.run]
      exact reachable_of_leads (.input _ h) (leads_foldl_perform actions)
    have registered := registeredByFirst_of_run h buffer actions
    rw [standing.run] at registered ⊢
    refine ⟨fun service mem => ?_, fun t' deadline here greeting room => ?_⟩
    · -- the first frame of its stream is the one that its worker sent
      obtain ⟨e, left, next, identity⟩ := registered service
        (List.mem_filter.2 ⟨mem, by simp [Event.session?]⟩)
      rw [sent, first wider] at next
      obtain ⟨rfl, -⟩ := Frame.Next.frame.inj next
      rw [identity]
      exact named
    · obtain rfl := Option.some.inj (here.symm.trans standing.here)
      have waits : Frame.next s.sessionLimit t'.inbound t'.inboundTail =
          .frame m.registerFrame rest := by
        rw [standing.unread greeting, sent, first wider]
      obtain ⟨g', move, told, entry⟩ :=
        registers_of_first reached here greeting room waits
      exact ⟨g', _, move, told, entry, named⟩

/-- A worker whose name has to be escaped, with an empty group and no tag. -/
def escapedWorker : Metadata := { clientId := some "a\"\\\n\x01é", group := some "" }

/-- Its frame is read in two pieces, and it registers under its name and two defaults. -/
theorem register_keeps_metadata_escapedWorker :
    ∃ frame, Frame.encode 1000 escapedWorker.registerFrame = .ok frame ∧
      (∃ e source', readFrame 1000 [frame.take 5, frame.drop 5] = .frame e source' ∧
        source'.flatten = [] ∧ Metadata.ofFrame e = escapedWorker) ∧
      ∃ g' service,
        ([Action.input (.send 0 (frame.take 5)), .input (.send 0 (frame.drop 5))].foldl perform
          ((Gateway.start sample).input (.connect 100))).move? (.greet 0) = some g' ∧
        .registered 0 service ∈ g'.journal ∧
        service.identity = ⟨"a\"\\\n\x01é", "default_group", "default_conn"⟩ := by
  have written : Frame.encode 1000 escapedWorker.registerFrame =
      .ok (Frame.bytes escapedWorker.registerFrame) :=
    Frame.encode_eq_ok.2 ⟨by decide +kernel, rfl⟩
  generalize Frame.bytes escapedWorker.registerFrame = frame at written
  obtain ⟨read, session⟩ := register_keeps_metadata escapedWorker written
  refine ⟨frame, written, read (Nat.le_refl _) (by simp), ?_⟩
  have introduced := session (.start : Reachable sample (.start sample)) (Nat.le_refl _) 100
    [.input (.send 0 (frame.take 5)), .input (.send 0 (frame.drop 5))] []
    (by simp [sentBy, Sent.after, Gateway.start])
  obtain ⟨g', service, move, registered, -, names⟩ := introduced.admitted _ 1000 rfl rfl (by decide)
  refine ⟨g', service, move, registered, ?_⟩
  have node := names.node.given _ rfl (by decide)
  have group := names.group.missing (Or.inr rfl)
  have tag := names.connTag.missing (Or.inl rfl)
  calc service.identity
      = ⟨service.identity.node, service.identity.group, service.identity.connTag⟩ := rfl
    _ = _ := by rw [node, group, tag]; rfl

end Gateway

end Switchboard
