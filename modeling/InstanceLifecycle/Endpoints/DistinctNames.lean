import InstanceLifecycle.Create.Acknowledgement
import InstanceLifecycle.Create.Adoption
import InstanceLifecycle.Endpoints.Names

/-!
# Endpoint names stay distinct

A create chooses the names of its cards before the first insert, so they must be free on
the server it fills: the row it inserted, or the row its look-up by hostname hands back.
The removal in front leaves no other row with the hostname, unless the hostname is empty
and so left out of the condition. Where no such stranger carries a name of the cards, the
names stay distinct in every state, whatever fails.
-/

namespace InstanceLifecycle

open Interaction Store InstanceHandler

/-! ## The cards of a create -/

/-- The server is stored, and these names are free on it. -/
structure Room (serverId : Nat) (names : List String) (world : World) : Prop where
  distinct : Distinct world
  present : ∃ server ∈ world.db.servers.rows, server.id = serverId
  free : ∀ name ∈ names, some name ∉ world.db.endpointNames serverId

section Cards

variable {permits : Faults} {handler : InstanceHandler} {ctx : CreateContext}
  {state : FieldErrors} {world : World} {serverId : Nat} {names : List String}

/-- There is still room after a call that leaves the endpoints and the server
rows' ids as they are. -/
theorem Room.frame {after : World} (room : Room serverId names world)
    (endpoints : after.db.endpoints = world.db.endpoints)
    (servers : ∀ server ∈ world.db.servers.rows,
      ∃ kept ∈ after.db.servers.rows, kept.id = server.id) : Room serverId names after := by
  have same : ∀ id, after.db.endpointNames id = world.db.endpointNames id := by
    intro id
    simp only [Cmdb.endpointNames, Cmdb.endpointsOf, endpoints]
  refine ⟨?_, ?_, ?_⟩
  · intro id
    rw [same id]
    exact room.distinct id
  · obtain ⟨server, stored, own⟩ := room.present
    obtain ⟨kept, still, unmoved⟩ := servers server stored
    exact ⟨kept, still, unmoved.trans own⟩
  · intro name member
    rw [same serverId]
    exact room.free name member

/-- An endpoint under the first of the names leaves room for the others. -/
theorem Room.insert {name : String} (room : Room serverId (name :: names) world)
    (apart : name ∉ names) (columns : Endpoint) (hangs : columns.serverId = serverId)
    (named : columns.name = some name) {after : World}
    (took : after.db = world.db.insertEndpoint columns) : Room serverId names after := by
  subst hangs
  refine ⟨?_, ?_, ?_⟩
  · rw [Distinct, took]
    apply NamesDistinct.insertEndpoint room.distinct columns room.present
    rw [named]
    exact room.free name List.mem_cons_self
  · rw [took, world.db.insertEndpoint_servers]
    exact room.present
  · intro other member
    rw [took, endpointNames_insertEndpoint _ _ room.present, if_pos rfl, List.mem_append,
      List.mem_singleton, named]
    rintro (old | new)
    · exact room.free other (List.mem_cons_of_mem name member) old
    · exact apart (Option.some.inj new ▸ member)

/-- Once a name is used there is room for the names that remain. -/
theorem Room.fewer {name : String} (room : Room serverId (name :: names) world) :
    Room serverId names world :=
  ⟨room.distinct, room.present, fun other member =>
    room.free other (List.mem_cons_of_mem name member)⟩

/-- The calls about addresses leave the room as it is, since they touch neither
endpoints nor servers, whether they succeed or fail. -/
theorem Room.addresses (room : Room serverId names world) (op : CmdbOp)
    (addresses : op.ofAddresses = true) (outcome : Outcome) :
    Room serverId names (world.next op outcome) := by
  have effect : (world.db.effect op).endpoints = world.db.endpoints := by
    cases op with
    | ipInsertOne columns => exact world.db.insertIp_endpoints columns
    | _ => first | rfl | simp [CmdbOp.ofAddresses] at addresses
  have endpoints : (world.next op outcome).db.endpoints = world.db.endpoints := by
    rw [World.next_db]
    rcases world.db.answer_db op outcome with same | took
    · rw [same]
    · rw [took, effect]
  apply room.frame endpoints
  rw [World.next_db, answer_cards_servers world.db op (CmdbOp.ofCards_of_ofAddresses addresses)]
  exact fun server stored => ⟨server, stored, rfl⟩

/-- One card takes its name or leaves it free, so there is room for the names
that follow. Only the store before the insert and the one after it are to be
looked at, as a repeated attempt re-selects first. -/
theorem insertCard_room {takenNames : List String} {card : HostNetwork}
    (within : ∀ op outcome, permits op outcome → anyFaults op outcome)
    (apart : endpointName takenNames card ∉ names)
    (room : Room serverId (endpointName takenNames card :: names) world) :
    (handler.insertCard serverId takenNames card).Ensures (faulty permits) Distinct
      (fun _ _ after => Room serverId names after) state world := by
  have around : ∀ after : World, (after.db = world.db ∨
      after.db = world.db.insertEndpoint (cardColumns serverId takenNames card)) →
      Room serverId names after := by
    rintro after (same | took)
    · apply room.fewer.frame
      · rw [same]
      · rw [same]
        exact fun server stored => ⟨server, stored, rfl⟩
    · exact room.insert apart _ rfl rfl took
  apply insertCard_ensures world.db (fun _ => True) rfl room.present within
  · intro current outcome same
    refine ⟨(around _ ?_).distinct, trivial⟩
    rw [World.next_db, ← same]
    exact current.db.answer_db _ outcome
  · intro current outcome either _
    refine ⟨(around _ ?_).distinct, trivial⟩
    rw [World.next_db, current.db.answer_read _ rfl]
    exact either
  · exact fun after took => around after (Or.inr took)
  · exact fun after row either _ => around after either
  · exact fun after exc same _ => around after (Or.inl same)
  · exact fun after exc either _ => around after either

/-- The cards of a create keep every server's endpoint names distinct. The
induction is on the cards, and what it carries is that the names still to come
are free under the new server. -/
theorem persistCards_distinct (cards : List HostNetwork) (takenNames : List String)
    (used : List (Option String))
    (within : ∀ op outcome, permits op outcome → anyFaults op outcome)
    (apart : (cardNames takenNames cards).Nodup)
    (room : Room serverId (cardNames takenNames cards) world) :
    (handler.persistCards ctx serverId takenNames used cards).Ensures (faulty permits) Distinct
      (fun _ _ after => Distinct after) state world := by
  induction cards generalizing takenNames used state world with
  | nil => exact room.distinct
  | cons card rest ih =>
    obtain ⟨absent, further⟩ := List.nodup_cons.mp apart
    rw [persistCards]
    refine (insertCard_room within absent room).bind ?_ fun _ _ _ held => held.distinct
    intro endpoint final after held
    cases endpoint with
    | none => exact ih _ _ further held
    | some row =>
      have addresses : (handler.persistAddresses ctx row.id used card.addresses).Only
          (calls fun op => op.ofAddresses = true) :=
        persistAddresses_only rfl (fun _ _ => rfl) fun _ _ => rfl
      refine (calls_ensures addresses (Room serverId (cardNames (takeName takenNames card) rest))
        (fun _ held op own outcome _ => held.addresses op own outcome)
        (fun _ held => held.distinct) held).bind ?_ fun _ _ _ held => held.distinct
      exact fun _ _ _ held => ih _ _ further held

end Cards

/-! ## One message -/

/-- No endpoint on the row has the name of a card of the message. A create whose
content or list of writes cannot be read never comes to its cards. -/
def namesApart (handler : InstanceHandler) (message : Message) (db : Cmdb) (id : Nat) : Prop :=
  ∀ content writes, readCreate handler message = .ok (some content) →
    handler.createWrites (content.context handler message db) = .ok writes →
    ∀ name ∈ cardNames (realNames content.hostNetworks) content.hostNetworks,
      some name ∉ db.endpointNames id

section Message

variable {permits : Faults} {handler : InstanceHandler} {message : Message} {ctx : CreateContext}
  {state : FieldErrors} {world : World} {newServerId : Nat}

/-- An update of the servers keeps their ids and the endpoints. -/
theorem Room.update {names : List String} (room : Room newServerId names world)
    (allOf : List ServerKey) (mutation : Mutation) (outcome : Outcome) :
    Room newServerId names (world.next (.serverUpdate allOf mutation) outcome) := by
  apply room.frame
  · rw [World.next_db]
    rcases world.db.answer_db (.serverUpdate allOf mutation) outcome with same | took
    · rw [same]
    · rw [took]
      rfl
  · exact next_update_servers world allOf mutation outcome

/-- The rest of a create keeps the names distinct. Without its list of writes it
ends before the cards; with it the field updates leave the endpoints alone, and
then the cards find room. -/
theorem completeCreate_distinct
    (within : ∀ op outcome, permits op outcome → anyFaults op outcome)
    (apart : (cardNames (realNames ctx.hostNetworks) ctx.hostNetworks).Nodup)
    (distinct : Distinct world)
    (room : ∀ writes, handler.createWrites ctx = .ok writes →
      Room newServerId (cardNames (realNames ctx.hostNetworks) ctx.hostNetworks) world) :
    (completeCreate handler ctx newServerId).Ensures (faulty permits) Distinct
      (fun _ _ after => Distinct after) state world := by
  rw [completeCreate]
  cases returned : handler.createWrites ctx with
  | error exc =>
    rw [writeCreateFields, returned]
    exact distinct
  | ok writes =>
    have updates : (handler.writeCreateFields ctx).Only (calls fun op =>
        ∃ allOf mutation, op = .serverUpdate allOf mutation) :=
      writeCreateFields_only fun _ _ => ⟨⟨_, _, rfl⟩, fun _ _ => ⟨_, _, rfl⟩⟩
    refine (calls_ensures updates _ ?_ (fun _ held => held.distinct) (room writes returned)).bind ?_
      fun _ _ _ held => held.distinct
    · rintro before held op ⟨allOf, mutation, rfl⟩ outcome _
      exact held.update allOf mutation outcome
    · intro _ middle after held
      refine (persistCards_distinct _ _ _ within apart held).bind ?_ fun _ _ _ held => held
      exact fun _ _ _ held => distinct_ensures (setFinalState_only fun _ => rfl) held

/-- The row a create goes on with has room for its names: a fresh row has no
endpoints, and of an adopted one the environment promises it. -/
theorem createInstances_distinct
    (within : ∀ op outcome, permits op outcome → anyFaults op outcome)
    (underway : world.underway = some message) (distinct : Distinct world) :
    (handler.createInstances message).Ensures (adopting permits (namesApart handler)) Distinct
      (fun _ _ after => Distinct after) state world := by
  apply createInstances_adopting underway fun after reads => distinct.reads reads
  · intro ctx errors built reads
    have held := distinct.reads reads
    have rows : (handler.recreateServerRow ctx).Ensures (faulty permits) Distinct
        (fun result final after => final = errors ∧
          recreatedExit handler ctx built.db result after.db) errors built := by
      apply recreateServerRow_ensures within
      · exact fun after shrunk => held.fewer shrunk.endpoints
      · intro after base cleared took
        rw [Distinct, took]
        exact held.fewer cleared.1.endpoints
    exact (rows.kept held).mono fun _ _ _ exit => ⟨exit.1.2, exit.2⟩
  · intro content read id errors after now reference stored free
    apply completeCreate_distinct within (cardNames_distinct _ (readCreate_increasing read)) now
    intro writes returned
    refine ⟨now, stored, fun name member taken => ?_⟩
    rcases free with none | apart
    · rw [Cmdb.endpointNames, none] at taken
      cases taken
    · rw [← (context_congr content reference).1] at returned
      exact apart content writes read returned name member taken

/-- Each action keeps the names distinct: a create by its cards, an attach by
the free name it takes, and the others because they insert no endpoint. -/
theorem dispatch_distinct
    (within : ∀ op outcome, permits op outcome → anyFaults op outcome)
    (underway : world.underway = some message) (distinct : Distinct world) :
    (handler.dispatch message).Ensures (adopting permits (namesApart handler)) Distinct
      (fun _ _ after => Distinct after) state world := by
  by_cases create : message.actionType = some "create"
  · rw [dispatch_create handler create]
    exact createInstances_distinct within underway distinct
  · have others : (handler.dispatch message).Ensures (faulty permits) Distinct
        (fun _ _ after => Distinct after) state world := by
      rw [dispatch]
      split
      · contradiction
      · exact distinct_ensures
          (deleteInstances_only (fun _ => rfl) (fun _ => rfl) fun _ => rfl) distinct
      · exact distinct_ensures (resizeInstances_only fun _ _ _ _ => rfl) distinct
      · exact attachToInstances_distinct message distinct
      · exact distinct_ensures (detachFromInstances_only (fun _ _ => rfl) fun _ => rfl) distinct
      · exact distinct
    exact others.env_mono (fun _ _ _ _ step => step.2) fun _ held => held

end Message

/-! ## All messages -/

/-- The runs under any failures in which no endpoint on a row that a create
adopts has the name of one of its cards. -/
def apartEnv (handler : InstanceHandler) : Env service World :=
  adopting anyFaults (namesApart handler)

/-- A delivery keeps the names distinct, also one whose body cannot be parsed,
which calls nothing. -/
theorem processDelivery_distinct (worker : MessageHandlerService) (delivery : Delivery)
    {state : FieldErrors} {world : World} (distinct : Distinct world) :
    (worker.processDelivery delivery).Ensures (apartEnv worker.handler) Distinct
      (fun _ _ after => Distinct after) state world := by
  rw [MessageHandlerService.processDelivery, Action.ensures_bind, Action.ensures_lift]
  cases delivery with
  | error exc => exact distinct
  | ok message =>
    simp only
    rw [processMessage, Action.ensures_bind, logStarted, Action.ensures_request]
    rintro ⟨⟩ after ⟨-, step⟩
    obtain rfl := faulty_recorded rfl step
    exact ⟨distinct, dispatch_distinct (fun _ _ permitted => permitted)
      (world.underway_started message) distinct⟩

/-- Over any messages, under any failures, the names of the endpoints of each
server stay distinct in every state, if no endpoint on a row that a nameless
create adopts has the name of one of its cards. Creates that name their host
need no condition. -/
theorem endpoint_names_distinct (worker : MessageHandlerService) (deliveries : List Delivery)
    (db : Cmdb) (distinct : NamesDistinct db) (state : FieldErrors) (last : World)
    (rest : Prog service (Except Exn Unit × FieldErrors))
    (run : Prog.Steps (apartEnv worker.handler) ⟨db, []⟩ (worker.handleAll deliveries state) last
      rest) : NamesDistinct last.db := by
  have start : Distinct ⟨db, []⟩ := distinct
  have within : Within (apartEnv worker.handler) anyFaults := fun _ _ _ _ step => step.2
  have ensured : (worker.handleAll deliveries).Ensures (apartEnv worker.handler) Distinct
      (fun _ _ after => Distinct after) state ⟨db, []⟩ := by
    apply MessageHandlerService.handleAll_ensures Distinct deliveries _ start
    intro delivery _ state world held
    apply MessageHandlerService.handleMessage_keeps within.records Distinct _ _ held
    · exact fun _ _ now => processDelivery_distinct worker delivery now
    · exact fun _ _ _ now => ⟨now, now⟩
  exact ensured.always start run

/-- Two creates of a host and an attach to it. -/
def namedDeliveries : List Delivery :=
  [.ok sampleCreate, .ok sampleCreate, .ok (AsciiRuntime.attachMessage "10.0.0.9" "m9")]

/-- The replies of four inserts are lost, and the second insert of an IP is rejected. -/
def namedScript : List (Nat × Outcome) :=
  (21, .fail (.data "rejected") false) ::
    [5, 15, 18, 29].map (fun position => (position, .fail (.transport "lost") true))

/-- The world after these messages and replies. -/
def namedEnd : World :=
  ((AsciiRuntime.service.handleAll namedDeliveries {}).run (World.scripted namedScript)
    ⟨Cmdb.empty AsciiRuntime.reference, []⟩).2

/-- A create with a host name after another of its kind: the condition is met at
every answered call, so the names are distinct at the end. -/
theorem endpoint_names_distinct_named : NamesDistinct namedEnd.db := by
  have possible : ∀ (op : service.Op) (before : World), (!adoptsNameless op) = true →
      apartEnv AsciiRuntime.handler op before (before.scripted namedScript op).1
        (before.scripted namedScript op).2 := by
    intro op before named
    refine ⟨adopts_other (adoptsNameless_false named) before _, ?_⟩
    refine scripted_possible _ (fun _ => trivial) ?_ op before
    simp [namedScript, anyFaults, CallError.isTransport]
  exact endpoint_names_distinct AsciiRuntime.service namedDeliveries
    (Cmdb.empty AsciiRuntime.reference) (fun _ => List.nodup_nil) {} _ _
    (Prog.run_ends_where possible _ _ (by decide +kernel))

/-- A create of a host without a name, under this uuid. -/
def namelessCreate (uuid : String) : Message :=
  { AsciiRuntime.createMessage "" [] [] with
    resources := some [{
      resourceType := some "instance"
      resourceBody := .value {
        name := .value ""
        id := .value uuid
        metadata := .value .empty
        addresses := .value [("net", [AsciiRuntime.fixedAddress "10.0.0.7" "m1" 1])]
        flavor := .value ⟨.value "small"⟩ } }] }

/-- Two creates whose instances have the empty name, the second of which
re-selects the row of the first. -/
def namelessDeliveries : List Delivery := [.ok (namelessCreate "u0"), .ok (namelessCreate "u1")]

/-- The request of the second insert of a server is lost. -/
def namelessScript : List (Nat × Outcome) := [(12, .fail (.transport "lost") false)]

/-- The world after the two creates. -/
def namelessEnd : World :=
  ((AsciiRuntime.service.handleAll namelessDeliveries {}).run (World.scripted namelessScript)
    ⟨Cmdb.empty AsciiRuntime.reference, []⟩).2

/-- The second create is handed the row of the first and repeats the name of its card. -/
theorem nameless_create_repeats_name :
    NamesDistinct (Cmdb.empty AsciiRuntime.reference) ∧
      (∃ ended, Prog.Ends (faulty transportFaults) ⟨Cmdb.empty AsciiRuntime.reference, []⟩
        (AsciiRuntime.service.handleAll namelessDeliveries {}) ended namelessEnd) ∧
      namelessEnd.db.servers.rows.map Row.id = [0] ∧
      namelessEnd.db.endpointNames 0 = [some "bond0", some "bond0"] ∧
      ¬ NamesDistinct namelessEnd.db := by
  have repeated : namelessEnd.db.endpointNames 0 = [some "bond0", some "bond0"] := by
    decide +kernel
  have one : namelessEnd.db.servers.rows.map Row.id = [0] := by
    decide +kernel
  refine ⟨fun _ => List.nodup_nil, ⟨_, Prog.run_ends ?_ _ _⟩, one, repeated, ?_⟩
  · apply scripted_possible _ (fun _ => trivial)
    simp [namelessScript, transportFaults, CallError.isTransport]
  · intro distinct
    have names := distinct 0
    rw [repeated] at names
    exact absurd names (by decide)

end InstanceLifecycle
