import InstanceLifecycle.Addresses.Types
import InstanceLifecycle.Endpoints.DistinctNames

/-!
# At most one `be` and one `fe` address

A create keeps the types it has given in a set that grows over its cards and starts
empty, because the row it fills is the one it has just inserted. Where the insert is
skipped for a row that the look-up by hostname hands back, that row is a stranger, and
the set says nothing about the addresses it has. Where no such stranger carries a type
the addresses of the create may get, every server keeps at most one of each.
-/

namespace InstanceLifecycle

open Interaction Store InstanceHandler

/-! ## The cards of a create -/

/-- The addresses of all cards of a create. -/
def CreateContext.addresses (ctx : CreateContext) : List String :=
  ctx.hostNetworks.flatMap (fun card => card.addresses)

/-- The types of the prefixes in which the addresses of the cards lie. -/
def addressTypes (handler : InstanceHandler) (ctx : CreateContext) (db : Cmdb) :
    List (Option String) :=
  ctx.addresses.filterMap (fun addr =>
    (ipInNetPrefixes handler.runtime addr (db.rows (.networkPrefixSelect ctx.dcName))).map
      NetworkPrefix.type)

/-- The server is stored, and a type that the addresses may get and that is not used yet
is free on it. -/
structure Spare (handler : InstanceHandler) (ctx : CreateContext) (before : Cmdb) (serverId : Nat)
    (used : List (Option String)) (world : World) : Prop where
  bounded : Bounded world
  reference : world.db.reference = before.reference
  present : ∃ server ∈ world.db.servers.rows, server.id = serverId
  free : ∀ type ∈ ["be", "fe"], some type ∈ addressTypes handler ctx before →
    some type ∉ used → some type ∉ world.db.ipTypes serverId

section Cards

variable {permits : Faults} {handler : InstanceHandler} {ctx : CreateContext} {before : Cmdb}
  {state : FieldErrors} {world : World} {serverId : Nat} {used : List (Option String)}

/-- A call that adds no address, takes no server away and reads the same prefixes. -/
theorem Spare.frame {after : World} (spare : Spare handler ctx before serverId used world)
    (fewer : ∀ id, (after.db.ipTypes id).Sublist (world.db.ipTypes id))
    (reference : after.db.reference = world.db.reference)
    (servers : ∀ server ∈ world.db.servers.rows,
      ∃ kept ∈ after.db.servers.rows, kept.id = server.id) :
    Spare handler ctx before serverId used after := by
  refine ⟨spare.bounded.fewer fewer, reference.trans spare.reference, ?_, ?_⟩
  · obtain ⟨server, stored, own⟩ := spare.present
    obtain ⟨kept, still, unmoved⟩ := servers server stored
    exact ⟨kept, still, unmoved.trans own⟩
  · intro type single may new member
    exact spare.free type single may new ((fewer serverId).subset member)

/-- A call that inserts no IP leaves the types spare. -/
theorem Spare.next (spare : Spare handler ctx before serverId used world) (op : CmdbOp)
    (other : op.insertsIp = false) (outcome : Outcome)
    (servers : ∀ server ∈ world.db.servers.rows,
      ∃ kept ∈ (world.next op outcome).db.servers.rows, kept.id = server.id) :
    Spare handler ctx before serverId used (world.next op outcome) :=
  spare.frame (ipTypes_next world op other outcome) (world.db.answer_reference op outcome) servers

/-- So do reading calls. -/
theorem Spare.reads {after : World} (spare : Spare handler ctx before serverId used world)
    (reads : world.Reads after) : Spare handler ctx before serverId used after := by
  apply spare.frame
  · rw [reads.db]
    exact fun _ => .refl _
  · rw [reads.db]
  · rw [reads.db]
    exact fun server stored => ⟨server, stored, rfl⟩

/-- A type counted as used needs no longer be spare. -/
theorem Spare.more (spare : Spare handler ctx before serverId used world)
    (type : Option String) : Spare handler ctx before serverId (used ++ [type]) world := by
  refine ⟨spare.bounded, spare.reference, spare.present, ?_⟩
  intro other single may new
  exact spare.free other single may fun old => new (List.mem_append_left _ old)

/-- An address of the message, under the type that its prefix and the used types give. -/
theorem Spare.insertIp (spare : Spare handler ctx before serverId used world) {addr : String}
    (listed : addr ∈ ctx.addresses) {row : NetworkPrefix}
    (located : ipInNetPrefixes handler.runtime addr
      (world.db.rows (.networkPrefixSelect ctx.dcName)) = some row)
    (columns : Ip) (typed : columns.type = some (resolveIpType row.type used))
    {endpoint : Row Endpoint} (hangs : endpoint ∈ world.db.endpointsOf serverId)
    (named : endpoint.id = columns.networkEndpointId) {after : World}
    (took : after.db = world.db.insertIp columns) :
    Spare handler ctx before serverId (used ++ [columns.type]) after := by
  obtain ⟨stored, own⟩ := List.mem_filter.mp hangs
  have onServer : endpoint.data.serverId = serverId := of_decide_eq_true own
  have may : row.type ∈ addressTypes handler ctx before := by
    simp only [Cmdb.rows, spare.reference] at located
    refine List.mem_filterMap.mpr ⟨addr, listed, ?_⟩
    simp only [Cmdb.rows, located, Option.map_some]
  have types := ipTypes_insertIp world.db columns stored named serverId
  rw [if_pos onServer] at types
  refine ⟨?_, ?_, ?_, ?_⟩
  · rw [Bounded, took]
    apply OneOfEach.insertIp spare.bounded columns stored named
    intro type single same
    rw [typed, Option.some.injEq] at same
    obtain ⟨prefixed, new⟩ := resolveIpType_new single same
    rw [onServer]
    exact spare.free type single (prefixed ▸ may) new
  · rw [took]
    exact (world.db.effect_reference (.ipInsertOne columns)).trans spare.reference
  · rw [took, world.db.insertIp_servers]
    exact spare.present
  · intro type single producible new
    rw [took, types, List.mem_append, List.mem_singleton]
    rintro (old | same)
    · exact spare.free type single producible
        (fun member => new (List.mem_append_left _ member)) old
    · exact new (List.mem_append_right _ (List.mem_singleton.mpr same))

/-- One address of a card takes its type or leaves it free. The insert may have
landed more than once, but a repeated attempt re-selects first, so only the
store before it and the one after it are to be looked at. -/
theorem insertAddress_spare {endpointId : Nat} {addr : String} {row : NetworkPrefix}
    {columns : Ip} {options : CallOptions}
    (within : ∀ op outcome, permits op outcome → writeFaults op outcome)
    (spare : Spare handler ctx before serverId used world)
    (hangs : ∃ endpoint ∈ world.db.endpointsOf serverId, endpoint.id = endpointId)
    (listed : addr ∈ ctx.addresses)
    (located : ipInNetPrefixes handler.runtime addr
      (world.db.rows (.networkPrefixSelect ctx.dcName)) = some row)
    (typed : columns.type = some (resolveIpType row.type used))
    (named : columns.networkEndpointId = endpointId) (prefixed : columns.prefixId = some row.id) :
    (handler.cmdbCall options (cmdb (.ipInsertOne columns))
      (some (ipSelector columns.ip columns.networkEndpointId row.id))).Ensures (faulty permits)
      Bounded (fun _ _ after => Spare handler ctx before serverId (used ++ [columns.type]) after ∧
        ∃ endpoint ∈ after.db.endpointsOf serverId, endpoint.id = endpointId) state world := by
  obtain ⟨endpoint, member, rfl⟩ := hangs
  have around : ∀ after : World,
      (after.db = world.db ∨ after.db = world.db.insertIp columns) →
      Spare handler ctx before serverId (used ++ [columns.type]) after ∧
        ∃ kept ∈ after.db.endpointsOf serverId, kept.id = endpoint.id := by
    rintro after (same | took)
    · constructor
      · apply (spare.more _).frame
        · rw [same]
          exact fun _ => .refl _
        · rw [same]
        · rw [same]
          exact fun server stored => ⟨server, stored, rfl⟩
      · rw [same]
        exact ⟨endpoint, member, rfl⟩
    · constructor
      · exact spare.insertIp listed located columns typed member named.symm took
      · rw [took, Cmdb.endpointsOf, world.db.insertIp_endpoints]
        exact ⟨endpoint, member, rfl⟩
  apply insertIp_ensures world.db rfl ⟨endpoint, (List.mem_filter.mp member).1, named.symm⟩
    prefixed (fun op outcome permitted => writeFaults_any op outcome (within op outcome permitted))
  · intro current outcome same
    refine (around _ ?_).1.bounded
    rw [World.next_db, ← same]
    exact current.db.answer_db _ outcome
  · intro current outcome either
    refine (around _ ?_).1.bounded
    rw [World.next_db, current.db.answer_read _ rfl]
    exact either
  · exact fun after took => around after (Or.inr took)
  · exact fun after row either _ => around after either
  · exact fun after exc same _ => around after (Or.inl same)
  · exact fun after exc either => around after either

/-- The addresses of a card are given types that are spare, and use them up. By
induction on the addresses; a lost reply is found again, so no type is given
twice. -/
theorem persistAddresses_spare {endpointId : Nat} (addresses : List String)
    (within : ∀ op outcome, permits op outcome → writeFaults op outcome)
    (listed : ∀ addr ∈ addresses, addr ∈ ctx.addresses)
    (spare : Spare handler ctx before serverId used world)
    (hangs : ∃ endpoint ∈ world.db.endpointsOf serverId, endpoint.id = endpointId) :
    (handler.persistAddresses ctx endpointId used addresses).Ensures (faulty permits) Bounded
      (fun result _ after => Bounded after ∧ ∀ types, result = .ok types →
        Spare handler ctx before serverId types after) state world := by
  induction addresses generalizing used state world with
  | nil =>
    refine ⟨spare.bounded, ?_⟩
    rintro _ ⟨⟩
    exact spare
  | cons addr rest ih =>
    have further : ∀ other ∈ rest, other ∈ ctx.addresses :=
      fun other member => listed other (List.mem_cons_of_mem addr member)
    rw [persistAddresses]
    refine (getNetPrefixByIp_answers addr ctx.dcName true
      (fun outcome permitted => writeFaults_lossy rfl outcome (within _ outcome permitted))
      fun current outcome reads =>
        spare.bounded.reads (reads.trans (next_reads current _ rfl outcome))).bind ?_
      fun _ _ _ held => ⟨spare.bounded.reads held.2.1, by simp⟩
    rintro found final after ⟨rfl, reads, answer⟩
    have now := spare.reads reads
    have still : ∃ endpoint ∈ after.db.endpointsOf serverId, endpoint.id = endpointId := by
      rw [reads.db]
      exact hangs
    have located := (answer found rfl).symm
    rw [← reads.db] at located
    cases found with
    | none => exact ih further now still
    | some row =>
      refine (insertAddress_spare within now still (listed addr List.mem_cons_self) located rfl rfl
        rfl).bind ?_ fun _ _ _ held => ⟨held.1.bounded, by simp⟩
      exact fun _ _ _ held => ih further held.1 held.2

/-- One card becomes an endpoint of the server, or none, and no type is used by
it. -/
theorem insertCard_spare {takenNames : List String} {card : HostNetwork}
    (within : ∀ op outcome, permits op outcome → writeFaults op outcome)
    (spare : Spare handler ctx before serverId used world) :
    (handler.insertCard serverId takenNames card).Ensures (faulty permits) Bounded
      (fun result _ after => Spare handler ctx before serverId used after ∧
        ∀ row, result = .ok (some row) →
          ∃ endpoint ∈ after.db.endpointsOf serverId, endpoint.id = row.id) state world := by
  generalize shape : cardColumns serverId takenNames card = columns
  have hangs : columns.serverId = serverId := by rw [← shape]; rfl
  have present : ∃ server ∈ world.db.servers.rows, server.id = columns.serverId := by
    rw [hangs]
    exact spare.present
  have around : ∀ after : World,
      (after.db = world.db ∨ after.db = world.db.insertEndpoint columns) →
      Spare handler ctx before serverId used after := by
    rintro after (same | took)
    · apply spare.frame
      · rw [same]
        exact fun _ => .refl _
      · rw [same]
      · rw [same]
        exact fun server stored => ⟨server, stored, rfl⟩
    · apply spare.frame
      · rw [took]
        exact ipTypes_effect world.db (.endpointInsertOne columns) rfl
      · rw [took]
        exact world.db.effect_reference (.endpointInsertOne columns)
      · rw [took, world.db.insertEndpoint_servers]
        exact fun server stored => ⟨server, stored, rfl⟩
  apply insertCard_ensures world.db (fun _ => True) rfl spare.present
    fun op outcome permitted => writeFaults_any op outcome (within op outcome permitted)
  · intro current outcome same
    refine ⟨(around _ ?_).bounded, trivial⟩
    rw [World.next_db, ← same, ← shape]
    exact current.db.answer_db _ outcome
  · intro current outcome either _
    refine ⟨(around _ ?_).bounded, trivial⟩
    rw [World.next_db, current.db.answer_read _ rfl, ← shape]
    exact either
  · rw [shape]
    intro after took
    refine ⟨around after (Or.inr took), ?_⟩
    rintro _ ⟨⟩
    have added := world.db.endpointsOf_insertEndpoint columns present
    rw [hangs] at added
    rw [took, added]
    exact ⟨_, List.mem_append_right _ (List.mem_singleton.mpr rfl), rfl⟩
  · rw [shape]
    intro after row either selected
    refine ⟨around after either, ?_⟩
    rintro _ ⟨⟩
    exact probe_found selected
  · exact fun after exc same _ => ⟨around after (Or.inl same), by simp⟩
  · rw [shape]
    exact fun after exc either _ => ⟨around after either, by simp⟩

/-- The cards keep the bound, by induction on them: the types used by now are
passed on, and the next card's addresses are among those of the create. -/
theorem persistCards_spare (cards : List HostNetwork) (takenNames : List String)
    (within : ∀ op outcome, permits op outcome → writeFaults op outcome)
    (listed : ∀ card ∈ cards, ∀ addr ∈ card.addresses, addr ∈ ctx.addresses)
    (spare : Spare handler ctx before serverId used world) :
    (handler.persistCards ctx serverId takenNames used cards).Ensures (faulty permits) Bounded
      (fun _ _ after => Bounded after) state world := by
  induction cards generalizing takenNames used state world with
  | nil => exact spare.bounded
  | cons card rest ih =>
    have further : ∀ other ∈ rest, ∀ addr ∈ other.addresses, addr ∈ ctx.addresses :=
      fun other member => listed other (List.mem_cons_of_mem card member)
    rw [persistCards]
    refine (insertCard_spare within spare).bind ?_ fun _ _ _ held => held.1.bounded
    rintro endpoint final after ⟨held, hangs⟩
    cases endpoint with
    | none => exact ih _ further held
    | some row =>
      refine (persistAddresses_spare card.addresses within (listed card List.mem_cons_self) held
        (hangs row rfl)).bind ?_ fun _ _ _ held => held.1
      exact fun types _ _ held => ih _ further (held.2 types rfl)

end Cards

/-! ## One message -/

/-- No address on the row has a type that an address of the message's cards may
get. A create whose content or list of writes cannot be read never comes to its
cards. -/
def typesSpare (handler : InstanceHandler) (message : Message) (db : Cmdb) (id : Nat) : Prop :=
  ∀ content writes, readCreate handler message = .ok (some content) →
    handler.createWrites (content.context handler message db) = .ok writes →
    ∀ type ∈ ["be", "fe"],
      some type ∈ addressTypes handler (content.context handler message db) db →
      some type ∉ db.ipTypes id

section Message

variable {permits : Faults} {handler : InstanceHandler} {message : Message} {ctx : CreateContext}
  {before : Cmdb} {state : FieldErrors} {world : World} {newServerId : Nat}

/-- The rest of a create keeps the bound. Without its list of writes it ends
before the cards; with it the field updates change no address, and the cards
come after them. -/
theorem completeCreate_bounded (within : ∀ op outcome, permits op outcome → writeFaults op outcome)
    (bounded : Bounded world)
    (spare : ∀ writes, handler.createWrites ctx = .ok writes →
      Spare handler ctx before newServerId [] world) :
    (completeCreate handler ctx newServerId).Ensures (faulty permits) Bounded
      (fun _ _ after => Bounded after) state world := by
  rw [completeCreate]
  cases returned : handler.createWrites ctx with
  | error exc =>
    rw [writeCreateFields, returned]
    exact bounded
  | ok writes =>
    have updates : (handler.writeCreateFields ctx).Only (calls fun op =>
        ∃ allOf mutation, op = .serverUpdate allOf mutation) :=
      writeCreateFields_only fun _ _ => ⟨⟨_, _, rfl⟩, fun _ _ => ⟨_, _, rfl⟩⟩
    refine (calls_ensures updates (Spare handler ctx before newServerId []) ?_
      (fun _ held => held.bounded) (spare writes returned)).bind ?_ fun _ _ _ held => held.bounded
    · rintro current held op ⟨allOf, mutation, rfl⟩ outcome _
      exact held.next _ rfl outcome (next_update_servers current allOf mutation outcome)
    · intro _ middle after held
      have listed : ∀ card ∈ ctx.hostNetworks, ∀ addr ∈ card.addresses, addr ∈ ctx.addresses :=
        fun card member addr own => List.mem_flatMap.mpr ⟨card, member, own⟩
      refine (persistCards_spare _ _ within listed held).bind ?_ fun _ _ _ held => held
      exact fun _ _ _ held => bounded_ensures (setFinalState_only fun _ => rfl) held

/-- The row a create goes on with has its types to spare: a fresh row has no
addresses, and of an adopted one the environment promises it. -/
theorem createInstances_bounded
    (within : ∀ op outcome, permits op outcome → writeFaults op outcome)
    (underway : world.underway = some message) (bounded : Bounded world) :
    (handler.createInstances message).Ensures (adopting permits (typesSpare handler)) Bounded
      (fun _ _ after => Bounded after) state world := by
  apply createInstances_adopting underway fun after reads => bounded.reads reads
  · intro ctx errors built reads
    have rows : (handler.recreateServerRow ctx).Ensures (faulty permits) (fun _ => True)
        (fun result final after => final = errors ∧
          recreatedExit handler ctx built.db result after.db) errors built :=
      recreateServerRow_ensures
        (fun op outcome permitted => writeFaults_any op outcome (within op outcome permitted))
        (fun _ _ => trivial) fun _ _ _ _ => trivial
    have only : (handler.recreateServerRow ctx).Only (calls fun op => op.insertsIp = false) :=
      recreateServerRow_only (fun _ => rfl) (fun _ => rfl) (fun _ => rfl) rfl rfl
    exact ((rows.and (bounded_ensures only (bounded.reads reads))).env_mono
      (fun _ _ _ _ step => step) fun _ kept => kept.2).mono fun _ _ _ exit => ⟨exit.1.2, exit.2⟩
  · intro content read id errors after now reference stored free
    apply completeCreate_bounded within now
    intro writes returned
    refine ⟨now, reference, stored, fun type single may _ member => ?_⟩
    rcases free with none | apart
    · obtain ⟨_, _, endpoint, hangs, _⟩ := (after.db.mem_ipTypes _ _).mp member
      rw [none] at hangs
      cases hangs
    · have same : content.context handler message after.db =
          content.context handler message world.db := (context_congr content reference).1
      rw [← same] at returned
      apply apart content writes read returned type single _ member
      rw [same]
      simpa only [addressTypes, Cmdb.rows, reference] using may

/-- Every message keeps the bound where a create that adopts a row finds its
types spare. By cases on the action. -/
theorem dispatch_bounded (within : ∀ op outcome, permits op outcome → writeFaults op outcome)
    (underway : world.underway = some message) (bounded : Bounded world) :
    (handler.dispatch message).Ensures (adopting permits (typesSpare handler)) Bounded
      (fun _ _ after => Bounded after) state world := by
  by_cases create : message.actionType = some "create"
  · rw [dispatch_create handler create]
    exact createInstances_bounded within underway bounded
  · have others : (handler.dispatch message).Ensures (faulty permits) Bounded
        (fun _ _ after => Bounded after) state world := by
      rw [dispatch]
      split
      · contradiction
      · exact bounded_ensures
          (deleteInstances_only (fun _ => rfl) (fun _ => rfl) fun _ => rfl) bounded
      · exact bounded_ensures (resizeInstances_only fun _ _ _ _ => rfl) bounded
      · exact attachToInstances_bounded message within bounded
      · exact bounded_ensures (detachFromInstances_only (fun _ _ => rfl) fun _ => rfl) bounded
      · exact bounded
    exact others.env_mono (fun _ _ _ _ step => step.2) fun _ held => held

end Message

/-! ## All messages -/

/-- The runs under transport failures and rejected writes in which no address on
a row that a create adopts has a type one of its own may get. -/
def spareEnv (handler : InstanceHandler) : Env service World :=
  adopting writeFaults (typesSpare handler)

/-- A delivery keeps the bound, also one that could not be parsed, which calls
nothing; the record that a message has started is no call. -/
theorem processDelivery_bounded (worker : MessageHandlerService) (delivery : Delivery)
    {state : FieldErrors} {world : World} (bounded : Bounded world) :
    (worker.processDelivery delivery).Ensures (spareEnv worker.handler) Bounded
      (fun _ _ after => Bounded after) state world := by
  rw [MessageHandlerService.processDelivery, Action.ensures_bind, Action.ensures_lift]
  cases delivery with
  | error exc => exact bounded
  | ok message =>
    simp only
    rw [processMessage, Action.ensures_bind, logStarted, Action.ensures_request]
    rintro ⟨⟩ after ⟨-, step⟩
    obtain rfl := faulty_recorded rfl step
    exact ⟨bounded, dispatch_bounded (fun _ _ permitted => permitted)
      (world.underway_started message) bounded⟩

/-- Over any messages, under any transport failures and rejected writes, every
server has at most one `be` and at most one `fe` address in every state, if no
address on a row that a nameless create adopts has a type that one of its own may
get. Creates that name their host need no condition. -/
theorem one_address_of_each_type (worker : MessageHandlerService) (deliveries : List Delivery)
    (db : Cmdb) (single : OneOfEach db) (state : FieldErrors) (last : World)
    (rest : Prog service (Except Exn Unit × FieldErrors))
    (run : Prog.Steps (spareEnv worker.handler) ⟨db, []⟩ (worker.handleAll deliveries state) last
      rest) : OneOfEach last.db := by
  have start : Bounded ⟨db, []⟩ := single
  have within : Within (spareEnv worker.handler) writeFaults := fun _ _ _ _ step => step.2
  have ensured : (worker.handleAll deliveries).Ensures (spareEnv worker.handler) Bounded
      (fun _ _ after => Bounded after) state ⟨db, []⟩ := by
    apply MessageHandlerService.handleAll_ensures Bounded deliveries _ start
    intro delivery _ state world held
    apply MessageHandlerService.handleMessage_keeps within.records Bounded _ _ held
    · exact fun _ _ now => processDelivery_bounded worker delivery now
    · exact fun _ _ _ now => ⟨now, now⟩
  exact ensured.always start run

/-- The replies of five inserts are lost. -/
def lostInserts : List (Nat × Outcome) :=
  [5, 8, 16, 21, 31].map (fun position => (position, .fail (.transport "lost") true))

/-- The world after two creates of a host and an attach to it. -/
def typedEnd : World :=
  ((AsciiRuntime.service.handleAll namedDeliveries {}).run (World.scripted lostInserts)
    ⟨Cmdb.empty AsciiRuntime.reference, []⟩).2

/-- Named creates and an attach, with those replies lost, keep the bound. -/
theorem one_address_of_each_type_named : OneOfEach typedEnd.db := by
  have possible : ∀ (op : service.Op) (before : World), (!adoptsNameless op) = true →
      spareEnv AsciiRuntime.handler op before (before.scripted lostInserts op).1
        (before.scripted lostInserts op).2 := by
    intro op before named
    refine ⟨adopts_other (adoptsNameless_false named) before _, ?_⟩
    refine scripted_possible _ (fun _ => trivial) ?_ op before
    simp [lostInserts, writeFaults, CallError.isTransport]
  exact one_address_of_each_type AsciiRuntime.service namedDeliveries
    (Cmdb.empty AsciiRuntime.reference) (fun _ _ _ => Nat.zero_le _) {} _ _
    (Prog.run_ends_where possible _ _ (by decide +kernel))

/-- A backend prefix in the datacenter of a host without a name. -/
def namelessReference : Reference :=
  { AsciiRuntime.reference with networkPrefixes := [⟨1, .str "10.0.0.0/24", some "be", ""⟩] }

/-- The request of the second insert of a server is lost. -/
def lostServerInsert : List (Nat × Outcome) := [(13, .fail (.transport "lost") false)]

/-- The world after two creates without a name, the second of which adopts the
row of the first. -/
def sharedEnd : World :=
  ((AsciiRuntime.service.handleAll namelessDeliveries {}).run (World.scripted lostServerInsert)
    ⟨Cmdb.empty namelessReference, []⟩).2

/-- The second create is handed the row of the first and repeats the type of its address. -/
theorem nameless_create_repeats_type :
    OneOfEach (Cmdb.empty namelessReference) ∧
      (∃ ended, Prog.Ends (faulty transportFaults) ⟨Cmdb.empty namelessReference, []⟩
        (AsciiRuntime.service.handleAll namelessDeliveries {}) ended sharedEnd) ∧
      sharedEnd.db.servers.rows.map Row.id = [0] ∧
      sharedEnd.db.ipTypes 0 = [some "be", some "be"] ∧
      ¬ OneOfEach sharedEnd.db := by
  have repeated : sharedEnd.db.ipTypes 0 = [some "be", some "be"] := by
    decide +kernel
  have one : sharedEnd.db.servers.rows.map Row.id = [0] := by
    decide +kernel
  refine ⟨fun _ _ _ => Nat.zero_le _, ⟨_, Prog.run_ends ?_ _ _⟩, one, repeated, ?_⟩
  · apply scripted_possible _ (fun _ => trivial)
    simp [lostServerInsert, transportFaults, CallError.isTransport]
  · intro single
    have types := single 0 "be" (by decide)
    rw [repeated] at types
    exact absurd types (by decide)

end InstanceLifecycle
