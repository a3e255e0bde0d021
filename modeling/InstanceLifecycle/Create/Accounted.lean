import InstanceLifecycle.Create.CardRecovery
import InstanceLifecycle.Create.StatusDetails

/-!
# Every address of a create is written or reported

The run of a loop is cut into one part for each pass: the events of its calls and the
failures it recorded. A pass of the inner loop hands back an IP row or records a failure of
its address, and a pass of the outer loop hands back an endpoint and accounts for its
addresses or records a failure of the endpoint. All these failures mark the state.
-/

namespace InstanceLifecycle

open Interaction Store InstanceHandler

/-! ## Parts of a run -/

/-- What a part of a run adds to the history and to the accumulator. -/
structure Part where
  events : List Event
  entries : List ErrorEntry

namespace Part

instance : Append Part := ⟨fun earlier later =>
  ⟨earlier.events ++ later.events, earlier.entries ++ later.entries⟩⟩

/-- The events of two parts, one after the other, are theirs in turn. -/
@[simp] theorem events_append (earlier later : Part) :
    (earlier ++ later).events = earlier.events ++ later.events := rfl

/-- The recorded entries of two parts, one after the other, are theirs in turn. -/
@[simp] theorem entries_append (earlier later : Part) :
    (earlier ++ later).entries = earlier.entries ++ later.entries := rfl

/-- Parts are put together in either order of grouping, which lets a pass be
split off the front of a loop. -/
theorem append_assoc (first second third : Part) :
    first ++ second ++ third = first ++ (second ++ third) := by
  change Part.mk _ _ = Part.mk _ _
  simp

/-- The parts one after the other, as the loop runs through them. -/
def join : List Part → Part
  | [] => ⟨[], []⟩
  | part :: rest => part ++ join rest

/-- No failure of the part marks the state. If the whole run is to end ready,
each of its parts has to be so. -/
def Unmarked (part : Part) : Prop := ∀ entry ∈ part.entries, entry.markStateError = false

/-- Two parts together are unmarked exactly when each of them is. -/
theorem unmarked_append {earlier later : Part} :
    (earlier ++ later).Unmarked ↔ earlier.Unmarked ∧ later.Unmarked := by
  simp [Unmarked, or_imp, forall_and]

end Part

/-- In every run the action adds a part that meets the condition along with the result. -/
def Adds (permits : Faults) {α : Type} (action : Run α) (post : Except Exn α → Part → Prop) :
    Prop :=
  ∀ state world, action.Ensures (faulty permits) (fun _ => True) (fun result final after =>
    ∃ part : Part, final.entries = state.entries ++ part.entries ∧
      after.history = world.history ++ part.events ∧ post result part) state world

section Rules

variable {permits : Faults} {handler : InstanceHandler} {α β : Type}

/-- A weaker condition on the result and the part is met by the same part. -/
theorem Adds.mono {action : Run α} {post weaker : Except Exn α → Part → Prop}
    (adds : Adds permits action post) (implied : ∀ result part, post result part →
      weaker result part) : Adds permits action weaker := by
  intro state world
  refine (adds state world).mono ?_
  rintro result final after ⟨part, entries, events, held⟩
  exact ⟨part, entries, events, implied result part held⟩

/-- A pure value adds the empty part. -/
theorem adds_pure (value : α) {post : Except Exn α → Part → Prop}
    (held : post (.ok value) ⟨[], []⟩) :
    Adds permits (pure value : Run α) post :=
  fun _ _ => ⟨⟨[], []⟩, by simp, by simp, held⟩

/-- A note adds its one entry, with the default flags, and no event. -/
theorem adds_note (field message : String) :
    Adds permits (Action.modify (fun errors => errors.add field message) : Run Unit)
      (fun _ part => part.entries = [⟨field, message, true, true⟩]) :=
  fun _ _ => ⟨⟨[], [⟨field, message, true, true⟩]⟩, rfl, by simp, rfl⟩

/-- The part of a sequence is the part of its first action before that of the rest. -/
theorem Adds.bind {action : Run α} {next : α → Run β} {mid : Except Exn α → Part → Prop}
    {post : Except Exn β → Part → Prop} (first : Adds permits action mid)
    (rest : ∀ value before, mid (.ok value) before →
      Adds permits (next value) (fun result later => post result (before ++ later)))
    (raised : ∀ exc before, mid (.error exc) before → post (.error exc) before) :
    Adds permits (action >>= next) post := by
  intro state world
  refine (first state world).bind ?_ ?_
  · rintro value middle between ⟨before, entries, events, held⟩
    refine (rest value before held middle between).mono ?_
    rintro result final after ⟨later, moreEntries, moreEvents, met⟩
    refine ⟨before ++ later, ?_, ?_, met⟩
    · rw [moreEntries, entries, Part.entries_append, List.append_assoc]
    · rw [moreEvents, events, Part.events_append, List.append_assoc]
  · rintro exc middle between ⟨before, entries, events, held⟩
    exact ⟨before, entries, events, raised exc before held⟩

/-- What the retry loop records goes to the end of the accumulator, if it
records anything. -/
theorem recorded_grows (handler : InstanceHandler) (options : CallOptions) (exc : Exn)
    (state : FieldErrors) :
    ∃ added, (handler.recorded options exc state).entries = state.entries ++ added := by
  rw [recorded]
  split
  · exact ⟨_, rfl⟩
  · exact ⟨[], by simp⟩

/-- The insert handed back the row, or the selector did after a failed insert. -/
def HandedBack {ρ : Type} (invoked : Except CallError ρ → Event)
    (selected : Except CallError (Option ρ) → Event) (row : ρ) (events : List Event) : Prop :=
  invoked (.ok row) ∈ events ∨
    (∃ error, invoked (.error error) ∈ events) ∧ selected (.ok (some row)) ∈ events

/-- A row handed back is still handed back when other events come first. -/
theorem HandedBack.after {ρ : Type} {invoked : Except CallError ρ → Event}
    {selected : Except CallError (Option ρ) → Event} {row : ρ} {events : List Event}
    (handed : HandedBack invoked selected row events) (before : List Event) :
    HandedBack invoked selected row (before ++ events) := by
  rcases handed with inserted | ⟨⟨error, failed⟩, found⟩
  · exact Or.inl (List.mem_append_right before inserted)
  · exact Or.inr ⟨⟨error, List.mem_append_right before failed⟩, List.mem_append_right before found⟩

/-- How an insert with selector leaves a part: with a row, or with its failure recorded. -/
def insertExit (handler : InstanceHandler) (options : CallOptions) {ρ : Type}
    (invoked : Except CallError ρ → Event) (selected : Except CallError (Option ρ) → Event)
    (result : Except Exn (Option ρ)) (part : Part) : Prop :=
  match result with
  | .ok (some row) => HandedBack invoked selected row part.events
  | .ok none => ∃ exc, part.entries = [⟨options.label, handler.errorMessage options exc,
      options.markStateError, options.includeInStatusDetails⟩]
  | .error _ => True

/-- An insert with its selector adds the events of its attempts, and the exit
says how they ended: the row was handed back by the insert or by the selector,
or the failure was recorded. The invariant of the retry loop is that the history
only grew. -/
theorem insertCall_adds {options : CallOptions} (recorded : options.errors = true)
    (swallowed : options.raiseOnDataError = false) {op : CmdbOp}
    {selector : Run (Option op.Rows)} (selected : Except CallError (Option op.Rows) → Event)
    (selects : ∀ state world, selector.Ensures (faulty permits) (fun _ => True)
      (fun result final after => final = state ∧ ∃ reply,
        after.history = world.history ++ [selected reply] ∧
          result = reply.mapError CallError.toExn) state world) :
    Adds permits (handler.cmdbCall options (cmdb op) (some selector))
      (insertExit handler options (fun reply => ⟨.cmdb op, reply⟩) selected) := by
  intro state world
  apply call_ensures (fun current => ∃ events, current.history = world.history ++ events)
    (fun current => ∃ events, current.history = world.history ++ events ∧
      ∃ error, (⟨.cmdb op, .error error⟩ : Event) ∈ events) ⟨[], by simp⟩
  · rintro current ⟨events, since⟩ outcome permitted
    refine ⟨trivial, ?_⟩
    have next : (current.next op outcome).history = world.history ++
        (events ++ [⟨.cmdb op, (current.db.answer op outcome).1⟩]) := by
      rw [World.next_history, since, List.append_assoc]
    cases reply : (current.db.answer op outcome).1 with
    | ok row =>
      rw [reply] at next
      exact ⟨⟨_, []⟩, by simp, next, Or.inl (by simp)⟩
    | error error =>
      rw [reply] at next
      simp only [replyExit, swallowed, Bool.false_eq_true, if_false]
      split
      · exact ⟨⟨_, next, error, by simp⟩, ⟨_, []⟩, by simp, next, trivial⟩
      · refine ⟨⟨_, _⟩, ?_, next, error.toExn, rfl⟩
        simp [InstanceHandler.recorded, recorded, FieldErrors.add]
  · rintro _ ⟨⟩ current ⟨events, since, error, failed⟩
    refine (selects state current).mono ?_
    rintro result final after ⟨rfl, reply, looked, rfl⟩
    rw [since, List.append_assoc] at looked
    refine ⟨rfl, ?_⟩
    cases reply with
    | error other =>
      exact ⟨⟨_, looked, error, by simp [failed]⟩, ⟨_, []⟩, by simp, looked, trivial⟩
    | ok found =>
      cases found with
      | none => exact ⟨_, looked⟩
      | some row =>
        exact ⟨⟨_, []⟩, by simp, looked, Or.inr ⟨⟨error, by simp [failed]⟩, by simp⟩⟩
  · intro absent
    cases absent

/-- A selector that is one call adds that call's event and leaves the
accumulator alone. -/
theorem probe_selects {select : CmdbOp} (state : FieldErrors) (world : World) :
    (cmdb select).Ensures (faulty permits) (fun _ => True) (fun result final after =>
      final = state ∧ ∃ reply, after.history = world.history ++ [⟨.cmdb select, reply⟩] ∧
        result = reply.mapError CallError.toExn) state world := by
  apply cmdb_ensures
  exact fun outcome _ => ⟨trivial, rfl, _, rfl, rfl⟩

/-- A call without selector adds some part. Nothing more is needed of the calls
outside the inserts. -/
theorem plainCall_adds {options : CallOptions} {op : CmdbOp} :
    Adds permits (handler.cmdbCall options (cmdb op)) (fun _ _ => True) := by
  intro state world
  apply plainCall_ensures (fun current => ∃ events, current.history = world.history ++ events)
    ⟨[], by simp⟩
  rintro current ⟨events, since⟩ outcome permitted
  refine ⟨trivial, ?_⟩
  have next : (current.next op outcome).history = world.history ++
      (events ++ [⟨.cmdb op, (current.db.answer op outcome).1⟩]) := by
    rw [World.next_history, since, List.append_assoc]
  cases reply : (current.db.answer op outcome).1 with
  | ok row => exact ⟨⟨_, []⟩, by simp, next, trivial⟩
  | error error =>
    simp only [replyExit]
    split
    · exact ⟨⟨_, next⟩, ⟨_, []⟩, by simp, next, trivial⟩
    · obtain ⟨added, grown⟩ := recorded_grows handler options error.toExn state
      exact ⟨⟨_, added⟩, grown, next, trivial⟩

end Rules

/-! ## The parts of a create -/

section Parts

variable (handler : InstanceHandler)

/-- The insert of the address handed back a row. The columns inserted are those
of the address on this endpoint, under a prefix whose network holds it. -/
def AddressWritten (endpointId : Nat) (addr : String) (part : Part) : Prop :=
  ∃ (netPrefix : NetworkPrefix) (columns : Ip) (row : Nat),
    networkHolds handler.runtime addr netPrefix = true ∧ columns.ip = addr ∧
      columns.networkEndpointId = endpointId ∧ columns.prefixId = some netPrefix.id ∧
      HandedBack (fun reply => ⟨.cmdb (.ipInsertOne columns), reply⟩)
        (fun reply => ⟨.cmdb (.ipSelectOne addr endpointId netPrefix.id), reply⟩) row part.events

/-- The entry of an address without prefix: the address is skipped, and the
state is marked. -/
def missingPrefix (addr : String) : ErrorEntry where
  field := "network_prefix"
  message := "network_prefix for ip " ++ handler.runtime.repr (.str addr) ++
    " not found. Skipping ip creation"
  markStateError := true
  includeInStatusDetails := true

/-- The entry of a failed insert, with the columns it was to write as the
subject of the message. -/
def failedInsert (field : String) (subject : Value) (exc : Exn) : ErrorEntry where
  field := field
  message := handler.errorMessage { field := field, errors := true, subject := some subject } exc
  markStateError := true
  includeInStatusDetails := true

/-- A failure of the address was recorded: its prefix was missing or its insert
was rejected. -/
def AddressFailed (endpointId : Nat) (addr : String) (part : Part) : Prop :=
  missingPrefix handler addr ∈ part.entries ∨
    ∃ (columns : Ip) (exc : Exn), columns.ip = addr ∧ columns.networkEndpointId = endpointId ∧
      failedInsert handler "ip" columns.subject exc ∈ part.entries

/-- The pass of an address either wrote it or recorded a failure of it. -/
def AddressAccounted (endpointId : Nat) (addr : String) (part : Part) : Prop :=
  AddressWritten handler endpointId addr part ∨ AddressFailed handler endpointId addr part

/-- An address stays accounted for when another part comes first. -/
theorem AddressAccounted.after {endpointId : Nat} {addr : String} {part : Part}
    (accounted : AddressAccounted handler endpointId addr part) (before : Part) :
    AddressAccounted handler endpointId addr (before ++ part) := by
  rcases accounted with written | missing | failed
  · obtain ⟨netPrefix, columns, row, holds, address, hangs, prefixed, handed⟩ := written
    exact Or.inl ⟨netPrefix, columns, row, holds, address, hangs, prefixed,
      handed.after before.events⟩
  · exact Or.inr (Or.inl (List.mem_append_right before.entries missing))
  · obtain ⟨columns, exc, address, hangs, recorded⟩ := failed
    exact Or.inr (Or.inr ⟨columns, exc, address, hangs,
      List.mem_append_right before.entries recorded⟩)

/-- The insert of the endpoint of the card handed back a row with this id. -/
def CardHandedBack (serverId : Nat) (card : HostNetwork) (endpointId : Nat) (part : Part) : Prop :=
  ∃ (takenNames : List String) (endpoint : EndpointRef), endpoint.id = endpointId ∧
    HandedBack (fun reply => ⟨.cmdb (.endpointInsertOne (cardColumns serverId takenNames card)),
        reply⟩)
      (fun reply => ⟨.cmdb (.endpointSelectOne serverId (endpointKey takenNames card)), reply⟩)
      endpoint part.events

/-- The endpoint was handed back, and each occurrence of an address meets a condition on it. -/
def CardParts (serverId : Nat) (each : Nat → String → Part → Prop) (card : HostNetwork)
    (part : Part) : Prop :=
  ∃ (endpointId : Nat) (head : Part) (parts : List Part), part = head ++ Part.join parts ∧
    CardHandedBack serverId card endpointId head ∧
    List.Forall₂ (each endpointId) card.addresses parts

/-- A failure of the endpoint was recorded. The names taken by then decide the
name it was to get, so they are part of the columns. -/
def CardFailed (serverId : Nat) (card : HostNetwork) (part : Part) : Prop :=
  ∃ (takenNames : List String) (exc : Exn),
    failedInsert handler "network_endpoint" (cardColumns serverId takenNames card).subject exc ∈
      part.entries

/-- The pass of a card either handed back its endpoint and accounted for its
addresses, or recorded a failure of the endpoint. -/
def CardAccounted (serverId : Nat) (card : HostNetwork) (part : Part) : Prop :=
  CardParts serverId (AddressAccounted handler) card part ∨ CardFailed handler serverId card part

end Parts

section Loops

variable {permits : Faults} {handler : InstanceHandler} {ctx : CreateContext}

/-- The look-up adds some part, and a prefix it returns holds the address. -/
theorem getNetPrefixByIp_adds (addr dcName : String) (errors : Bool) :
    Adds permits (handler.getNetPrefixByIp addr dcName errors) (fun result _ =>
      ∀ netPrefix, result = .ok (some netPrefix) →
        networkHolds handler.runtime addr netPrefix = true) := by
  unfold getNetPrefixByIp
  apply plainCall_adds.bind
  · intro found before _
    cases found with
    | none => exact adds_pure none (by simp)
    | some vlans =>
      apply adds_pure
      intro netPrefix located
      exact List.find?_some (Except.ok.inj located)
  · simp

/-- The insert of an IP accounts for its address, whichever way it ends
normally: a row was handed back, or the failure was recorded. -/
theorem insertIp_adds (endpointId : Nat) {addr : String} {netPrefix : NetworkPrefix} {columns : Ip}
    (holds : networkHolds handler.runtime addr netPrefix = true) (address : columns.ip = addr)
    (hangs : columns.networkEndpointId = endpointId)
    (prefixed : columns.prefixId = some netPrefix.id) :
    Adds permits (handler.cmdbCall
        { field := "ip", errors := true, subject := some columns.subject }
        (cmdb (.ipInsertOne columns)) (some (ipSelector addr endpointId netPrefix.id)))
      (fun result part => ∀ row, result = .ok row →
        AddressAccounted handler endpointId addr part) := by
  have inserts : Adds permits (handler.cmdbCall
        { field := "ip", errors := true, subject := some columns.subject }
        (cmdb (.ipInsertOne columns)) (some (ipSelector addr endpointId netPrefix.id)))
      (insertExit handler { field := "ip", errors := true, subject := some columns.subject }
        (fun reply => ⟨.cmdb (.ipInsertOne columns), reply⟩)
        (fun reply => ⟨.cmdb (.ipSelectOne addr endpointId netPrefix.id), reply⟩)) :=
    insertCall_adds rfl rfl _ probe_selects
  apply inserts.mono
  rintro result part exit row rfl
  cases row with
  | some row => exact Or.inl ⟨netPrefix, columns, row, holds, address, hangs, prefixed, exit⟩
  | none =>
    obtain ⟨exc, recorded⟩ := exit
    refine Or.inr (Or.inr ⟨columns, exc, address, hangs, ?_⟩)
    rw [recorded]
    exact List.mem_singleton.mpr rfl

/-- One pass for each address, each of them accounting for it. By induction on
the addresses; the part of the first is split off the rest. -/
theorem persistAddresses_adds (endpointId : Nat) (used : List (Option String))
    (addresses : List String) :
    Adds permits (handler.persistAddresses ctx endpointId used addresses) (fun result part =>
      ∀ types, result = .ok types → ∃ parts, part = Part.join parts ∧
        List.Forall₂ (AddressAccounted handler endpointId) addresses parts) := by
  induction addresses generalizing used with
  | nil => exact adds_pure used fun types _ => ⟨[], rfl, .nil⟩
  | cons addr rest ih =>
    unfold persistAddresses
    apply (getNetPrefixByIp_adds addr ctx.dcName true).bind
    · intro found before located
      cases found with
      | none =>
        simp only
        apply (adds_note _ _).bind
        · intro _ noted recorded
          apply (ih used).mono
          rintro result part later types ended
          obtain ⟨parts, rfl, accounted⟩ := later types ended
          have missing : AddressAccounted handler endpointId addr noted := by
            refine Or.inr (Or.inl ?_)
            rw [recorded]
            exact List.mem_singleton.mpr rfl
          exact ⟨(before ++ noted) :: parts, (Part.append_assoc before noted _).symm,
            .cons (missing.after handler before) accounted⟩
        · simp
      | some netPrefix =>
        simp only
        apply (insertIp_adds endpointId (located netPrefix rfl) rfl rfl rfl).bind
        · intro row inserted accounted
          apply (ih _).mono
          rintro result part later types ended
          obtain ⟨parts, rfl, others⟩ := later types ended
          exact ⟨(before ++ inserted) :: parts, (Part.append_assoc before inserted _).symm,
            .cons ((accounted row rfl).after handler before) others⟩
        · simp
    · simp

/-- The insert of an endpoint either records the failure of the card or hands
back a row of the card's columns. -/
theorem insertCard_adds (serverId : Nat) (takenNames : List String) (card : HostNetwork) :
    Adds permits (handler.insertCard serverId takenNames card) (fun result part =>
      (result = .ok none → CardFailed handler serverId card part) ∧
        ∀ endpoint, result = .ok (some endpoint) →
          CardHandedBack serverId card endpoint.id part) := by
  have inserts : Adds permits (handler.insertCard serverId takenNames card)
      (insertExit handler
        { field := "network_endpoint", errors := true,
          subject := some (cardColumns serverId takenNames card).subject }
        (fun reply => ⟨.cmdb (.endpointInsertOne (cardColumns serverId takenNames card)), reply⟩)
        (fun reply =>
          ⟨.cmdb (.endpointSelectOne serverId (endpointKey takenNames card)), reply⟩)) :=
    insertCall_adds rfl rfl _ probe_selects
  apply inserts.mono
  intro result part exit
  constructor
  · rintro rfl
    obtain ⟨exc, recorded⟩ := exit
    refine ⟨takenNames, exc, ?_⟩
    rw [recorded]
    exact List.mem_singleton.mpr rfl
  · rintro endpoint rfl
    exact ⟨takenNames, endpoint, rfl, exit⟩

/-- One pass for each card, by induction on the cards. A card whose endpoint
failed has no addresses to account for, and the loop goes on. -/
theorem persistCards_adds (serverId : Nat) (takenNames : List String)
    (used : List (Option String)) (cards : List HostNetwork) :
    Adds permits (handler.persistCards ctx serverId takenNames used cards) (fun result part =>
      result = .ok () → ∃ parts, part = Part.join parts ∧
        List.Forall₂ (CardAccounted handler serverId) cards parts) := by
  induction cards generalizing takenNames used with
  | nil => exact adds_pure () fun _ => ⟨[], rfl, .nil⟩
  | cons card rest ih =>
    unfold persistCards
    apply (insertCard_adds serverId takenNames card).bind
    · rintro found head ⟨failed, handed⟩
      cases found with
      | none =>
        apply (ih _ _).mono
        intro result part later ended
        obtain ⟨parts, rfl, others⟩ := later ended
        exact ⟨head :: parts, rfl, .cons (Or.inr (failed rfl)) others⟩
      | some endpoint =>
        simp only
        apply (persistAddresses_adds endpoint.id used card.addresses).bind
        · intro types addresses accounted
          obtain ⟨passes, rfl, each⟩ := accounted types rfl
          apply (ih _ _).mono
          intro result part later ended
          obtain ⟨parts, rfl, others⟩ := later ended
          exact ⟨(head ++ Part.join passes) :: parts, (Part.append_assoc head _ _).symm,
            .cons (Or.inl ⟨endpoint.id, head, passes, rfl, handed endpoint rfl, each⟩) others⟩
        · simp
    · simp

end Loops

/-! ## The ready state -/

/-- The address is stored on the endpoint, in whatever row. -/
def AddressStored (db : Cmdb) (endpointId : Nat) (addr : String) : Prop :=
  ∃ ip ∈ db.ips.rows, ip.data.ip = addr ∧ ip.data.networkEndpointId = endpointId

/-- An IP row that the event hands back is stored in this store. Events that
hand back no IP say nothing. -/
def Event.HandsStored (db : Cmdb) : Event → Prop
  | ⟨.cmdb (.ipInsertOne columns), .ok _⟩ => AddressStored db columns.networkEndpointId columns.ip
  | ⟨.cmdb (.ipSelectOne addr endpointId _), .ok (some _)⟩ => AddressStored db endpointId addr
  | _ => True

/-- All IP rows handed back since a point of the history are stored. -/
def HandsStoredSince (before : List Event) (world : World) : Prop :=
  ∃ events, world.history = before ++ events ∧ ∀ event ∈ events, event.HandsStored world.db

/-- Rows that are only added to keep what an event handed back in the store. -/
theorem Event.HandsStored.grow {db after : Cmdb} (grown : ∀ ip ∈ db.ips.rows, ip ∈ after.ips.rows)
    {event : Event} (stored : event.HandsStored db) : event.HandsStored after := by
  have kept : ∀ {endpointId addr}, AddressStored db endpointId addr →
      AddressStored after endpointId addr :=
    fun ⟨ip, present, same⟩ => ⟨ip, grown ip present, same⟩
  unfold Event.HandsStored at stored ⊢
  split at stored
  · exact kept stored
  · exact kept stored
  · trivial

/-- The calls of the cards delete no IP, whatever becomes of them. By the call:
the inserts add rows, and the selects change nothing. -/
theorem ofCards_grows {op : CmdbOp} (cards : op.ofCards = true) (world : World)
    (outcome : Outcome) : ∀ ip ∈ world.db.ips.rows, ip ∈ (world.next op outcome).db.ips.rows := by
  have grows : ∀ ip ∈ world.db.ips.rows, ip ∈ (world.db.effect op).ips.rows := by
    intro ip present
    cases op with
    | endpointInsertOne columns =>
      rw [Cmdb.effect, Cmdb.insertEndpoint_ips]
      exact present
    | ipInsertOne columns =>
      rw [Cmdb.effect, Cmdb.insertIp]
      split
      · exact (world.db.ips.mem_insert columns ip).mpr (Or.inl present)
      · exact present
    | endpointSelectOne serverId key => exact present
    | networkPrefixSelect dcName => exact present
    | ipSelectOne address endpointId prefixId => exact present
    | _ => cases cards
  exact Cmdb.answer_keeps (fun after => ∀ ip ∈ world.db.ips.rows, ip ∈ after.ips.rows)
    (fun _ present => present) grows outcome

/-- A row handed back was inserted, or found. In both cases it is in the store
after the call. -/
theorem next_handsStored (op : CmdbOp) (world : World) (outcome : Outcome) :
    Event.HandsStored (world.next op outcome).db
      ⟨.cmdb op, (world.db.answer op outcome).1⟩ := by
  cases outcome with
  | fail error landed => cases op <;> trivial
  | ok =>
    cases op with
    | ipInsertOne columns =>
      rw [World.next_db]
      by_cases admitted : world.db.admits (.ipInsertOne columns) = true
      · obtain ⟨endpoint, present, same⟩ := List.any_eq_true.mp admitted
        simp only [Cmdb.answer, admitted, if_true, Event.HandsStored, Cmdb.effect]
        rw [Cmdb.insertIp, dif_pos ⟨endpoint, present, of_decide_eq_true same⟩]
        exact ⟨_, (world.db.ips.mem_insert columns _).mpr (Or.inr rfl), rfl, rfl⟩
      · simp only [Cmdb.answer, admitted]
        trivial
    | ipSelectOne address endpointId prefixId =>
      cases found : world.db.ips.rows.find? (fun ip => decide (ip.data.ip = address) &&
          decide (ip.data.networkEndpointId = endpointId) &&
          decide (ip.data.prefixId = some prefixId)) with
      | none =>
        simp only [Cmdb.answer, Cmdb.admits, if_true, Cmdb.rows, found]
        trivial
      | some ip =>
        have passes := List.find?_some found
        simp only [Bool.and_eq_true, decide_eq_true_eq] at passes
        simp only [Cmdb.answer, Cmdb.admits, if_true, Cmdb.rows, found]
        exact ⟨ip, List.mem_of_find?_eq_some found, passes.1.1, passes.1.2⟩
    | _ => trivial

/-- Every IP row handed back by the calls of the cards is stored at the end,
since no later call of theirs deletes it. -/
theorem persistNetEndpoints_handsStored {handler : InstanceHandler} {ctx : CreateContext}
    {serverId : Nat} {permits : Faults} {state : FieldErrors} {world : World} :
    (handler.persistNetEndpoints ctx serverId).Ensures (faulty permits) (fun _ => True)
      (fun _ _ after => HandsStoredSince world.history after) state world := by
  have only : (handler.persistNetEndpoints ctx serverId).Only
      (calls fun op => op.ofCards = true) := persistCards_only fun _ cards => cards
  apply calls_ensures only (HandsStoredSince world.history)
  · rintro before ⟨events, since, stored⟩ op cards outcome _
    refine ⟨events ++ [⟨.cmdb op, (before.db.answer op outcome).1⟩], ?_, ?_⟩
    · rw [World.next_history, since, List.append_assoc]
    · intro event member
      rcases List.mem_append.mp member with old | new
      · exact (stored event old).grow (ofCards_grows cards before outcome)
      · rw [List.mem_singleton.mp new]
        exact next_handsStored op before outcome
  · exact fun _ _ => trivial
  · exact ⟨[], by simp, by simp⟩

section Ready

variable {handler : InstanceHandler}

/-- A final write of the ready state means that no failure marked the state, for
such an entry would have made it the error state. -/
theorem ready_unmarked {ctx : CreateContext} {errors : FieldErrors}
    (ready : finalState ctx errors = single "state" ctx.readyState) :
    ∀ entry ∈ errors.entries, entry.markStateError = false := by
  by_cases failed : errors.failed = true
  · rw [finalState, if_pos failed] at ready
    have details := congrArg (fun mutation : Mutation => mutation.get? "status_details") ready
    cases details
  · simpa [FieldErrors.failed] using failed

/-- An address that is accounted for without a marking failure was written,
since the failures of addresses all mark the state. -/
theorem AddressAccounted.written {endpointId : Nat} {addr : String} {part : Part}
    (accounted : AddressAccounted handler endpointId addr part) (unmarked : part.Unmarked) :
    AddressWritten handler endpointId addr part := by
  rcases accounted with written | missing | ⟨columns, exc, -, -, failed⟩
  · exact written
  · cases unmarked _ missing
  · cases unmarked _ failed

/-- An address that was written is stored, by the event that handed it back. -/
theorem AddressWritten.stored {db : Cmdb} {endpointId : Nat} {addr : String} {part : Part}
    (written : AddressWritten handler endpointId addr part)
    (stored : ∀ event ∈ part.events, event.HandsStored db) : AddressStored db endpointId addr := by
  obtain ⟨netPrefix, columns, row, -, address, hangs, -, inserted | ⟨-, found⟩⟩ := written
  · have present : AddressStored db columns.networkEndpointId columns.ip := stored _ inserted
    rw [address, hangs] at present
    exact present
  · exact stored _ found

/-- The insert of the address handed back a row, which is stored. -/
def AddressDone (handler : InstanceHandler) (db : Cmdb) (endpointId : Nat) (addr : String)
    (part : Part) : Prop :=
  AddressWritten handler endpointId addr part ∧ AddressStored db endpointId addr

/-- In an unmarked part whose rows are stored, every address of the loop is
done. By induction on the passes. -/
theorem addresses_done {db : Cmdb} {endpointId : Nat} {addresses : List String} {parts : List Part}
    (accounted : List.Forall₂ (AddressAccounted handler endpointId) addresses parts)
    (unmarked : (Part.join parts).Unmarked)
    (stored : ∀ event ∈ (Part.join parts).events, event.HandsStored db) :
    List.Forall₂ (AddressDone handler db endpointId) addresses parts := by
  induction accounted with
  | nil => exact .nil
  | cons first _ ih =>
    obtain ⟨own, others⟩ := Part.unmarked_append.mp unmarked
    have written := first.written own
    constructor
    · refine ⟨written, written.stored ?_⟩
      exact fun event member => stored event (List.mem_append_left _ member)
    · exact ih others fun event member => stored event (List.mem_append_right _ member)

/-- Likewise for the cards, again by induction on the passes: an endpoint whose
failure was recorded would have marked the state. -/
theorem cards_done {db : Cmdb} {serverId : Nat} {cards : List HostNetwork} {parts : List Part}
    (accounted : List.Forall₂ (CardAccounted handler serverId) cards parts)
    (unmarked : (Part.join parts).Unmarked)
    (stored : ∀ event ∈ (Part.join parts).events, event.HandsStored db) :
    List.Forall₂ (CardParts serverId (AddressDone handler db)) cards parts := by
  induction accounted with
  | nil => exact .nil
  | cons first _ ih =>
    obtain ⟨own, others⟩ := Part.unmarked_append.mp unmarked
    constructor
    · rcases first with ⟨endpointId, head, passes, rfl, handed, each⟩ | ⟨takenNames, exc, failed⟩
      · refine ⟨endpointId, head, passes, rfl, handed, ?_⟩
        apply addresses_done each (Part.unmarked_append.mp own).2
        intro event member
        exact stored event (List.mem_append_left _ (List.mem_append_right _ member))
      · cases own _ failed
    · exact ih others fun event member => stored event (List.mem_append_right _ member)

end Ready

/-- However the calls of the cards end: if the loops end normally, the run is one part for each
card, and in it one for each occurrence of an address, that hands back the row or records its
failure. With the ready state to come, all of them are written. -/
theorem addresses_accounted (handler : InstanceHandler) (ctx : CreateContext) (serverId : Nat)
    (state errors : FieldErrors) (world last : World)
    (run : Prog.Ends (faulty everyFault) world (handler.persistNetEndpoints ctx serverId state)
      (.ok (), errors) last) :
    ∃ parts, last.history = world.history ++ (Part.join parts).events ∧
      errors.entries = state.entries ++ (Part.join parts).entries ∧
      List.Forall₂ (CardAccounted handler serverId) ctx.hostNetworks parts ∧
      (finalState ctx errors = single "state" ctx.readyState →
        List.Forall₂ (CardParts serverId (AddressDone handler last.db)) ctx.hostNetworks
          parts) := by
  obtain ⟨part, entries, events, accounts⟩ :=
    (persistCards_adds serverId (realNames ctx.hostNetworks) [] ctx.hostNetworks state
      world).at_end run
  obtain ⟨parts, rfl, accounted⟩ := accounts rfl
  refine ⟨parts, events, entries, accounted, ?_⟩
  intro ready
  have unmarked := ready_unmarked ready
  obtain ⟨since, sameEvents, stored⟩ := persistNetEndpoints_handsStored.at_end run
  apply cards_done accounted
  · intro entry member
    apply unmarked
    rw [entries]
    exact List.mem_append_right _ member
  · rw [events] at sameEvents
    rw [List.append_cancel_left sameEvents]
    exact stored

/-- The reply of the first IP insert is lost and the state is ready. -/
theorem addresses_accounted_lost :
    ∃ parts, List.Forall₂ (CardParts 0 (AddressDone AsciiRuntime.handler
      ((AsciiRuntime.handler.persistNetEndpoints (sampleContext (clashingCards "m3")) 0 {}).run
        (World.scripted [(2, .fail (.transport "lost") true)]) ⟨AsciiRuntime.registered, []⟩).2.db))
      (clashingCards "m3") parts := by
  obtain ⟨parts, -, -, -, ready⟩ := addresses_accounted AsciiRuntime.handler
    (sampleContext (clashingCards "m3")) 0 {} _ ⟨AsciiRuntime.registered, []⟩ _
    (Prog.run_ends (scripted_possible [(2, .fail (.transport "lost") true)] (fun _ => trivial)
      fun _ _ _ => trivial) _ _)
  exact ⟨parts, ready rfl⟩

end InstanceLifecycle
