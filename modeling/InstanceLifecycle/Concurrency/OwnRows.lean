import InstanceLifecycle.Concurrency.Shared
import InstanceLifecycle.Create.TagColumns

/-!
# Two creates of one hostname

A create goes on with the row its insert answers with, or with the one its re-select finds
under the hostname. Nothing but that re-select can hand it the row of another machine: the
ids of the store are never given again, and no update of a create names the uuid. So the
endpoints and IPs of a create hang on rows with its own uuid in every interleaving in which
its re-selects find none but its own row.
-/

namespace InstanceLifecycle

open Interaction Store InstanceHandler

/-! ## Rows of a machine -/

/-- A call that leaves the uuid of every stored server alone: all calls but an
update that writes the column. -/
def CmdbOp.leavesUuid : CmdbOp → Prop
  | .serverUpdate _ mutation => "uuid" ∉ mutation.keys
  | _ => True

namespace Cmdb

variable {db : Cmdb} {uuid : String} {id : Nat}

/-- A server id that was given, whose row carries the uuid for as long as it is stored. -/
def OwnServer (db : Cmdb) (uuid : String) (id : Nat) : Prop :=
  id < db.servers.next ∧ ∀ server ∈ db.servers.rows, server.id = id →
    hasUuid server (some uuid) = true

/-- An endpoint id that was given, whose row hangs on such a server while it is stored. -/
def OwnEndpoint (db : Cmdb) (uuid : String) (id : Nat) : Prop :=
  id < db.endpoints.next ∧ ∀ endpoint ∈ db.endpoints.rows, endpoint.id = id →
    db.OwnServer uuid endpoint.data.serverId

/-- A call that leaves the uuids alone leaves a server of the machine its own.
The id was given already, so no insert reuses it. -/
theorem OwnServer.effect (own : db.OwnServer uuid id) (op : CmdbOp) (leaves : op.leavesUuid) :
    (db.effect op).OwnServer uuid id := by
  constructor
  · exact Nat.lt_of_lt_of_le own.1 (db.effect_next op).1
  · intro server stored same
    rcases db.effect_server op stored with ⟨columns, rfl, rfl⟩ | ⟨old, there, sameId, change⟩
    · exact absurd same (Nat.ne_of_gt own.1)
    · have before := own.2 old there (sameId.trans same)
      rcases change with rfl | ⟨allOf, mutation, rfl, written⟩
      · exact before
      · rw [hasUuid, written, Columns.write_of_absent _ mutation "uuid" leaves]
        exact before

/-- Likewise for an endpoint of the machine: its row may be deleted, but no call
moves it to another server. -/
theorem OwnEndpoint.effect (own : db.OwnEndpoint uuid id) (op : CmdbOp)
    (leaves : op.leavesUuid) : (db.effect op).OwnEndpoint uuid id := by
  constructor
  · exact Nat.lt_of_lt_of_le own.1 (db.effect_next op).2
  · intro endpoint stored same
    rcases db.effect_endpoint op stored with ⟨columns, rfl, rfl⟩ | ⟨old, there, sameId, change⟩
    · exact absurd same (Nat.ne_of_gt own.1)
    · have before := (own.2 old there (sameId.trans same)).effect op leaves
      rcases change with rfl | ⟨updates, rfl, written⟩
      · exact before
      · rw [written]
        exact before

/-- A server stays the machine's under every outcome of such a call. -/
theorem OwnServer.answer (own : db.OwnServer uuid id) {op : CmdbOp} (leaves : op.leavesUuid)
    (outcome : Outcome) : (db.answer op outcome).2.OwnServer uuid id :=
  answer_keeps (fun db => db.OwnServer uuid id) own (own.effect op leaves) outcome

/-- So does an endpoint. -/
theorem OwnEndpoint.answer (own : db.OwnEndpoint uuid id) {op : CmdbOp} (leaves : op.leavesUuid)
    (outcome : Outcome) : (db.answer op outcome).2.OwnEndpoint uuid id :=
  answer_keeps (fun db => db.OwnEndpoint uuid id) own (own.effect op leaves) outcome

end Cmdb

/-! ## What a create calls -/

/-- The event hands out this id as the server row: inserted or re-selected. -/
def Event.handsServer (event : Event) (id : Nat) : Prop :=
  (∃ columns, event = ⟨.cmdb (.serverInsertOne columns), .ok id⟩) ∨
    ∃ hostname, event = ⟨.cmdb (.serverSelectOneByHostname hostname), .ok (some id)⟩

/-- The event hands out this id as the endpoint of a card. -/
def Event.handsEndpoint (event : Event) (id : Nat) : Prop :=
  (∃ columns name, event = ⟨.cmdb (.endpointInsertOne columns), .ok ⟨id, name⟩⟩) ∨
    ∃ serverId key name,
      event = ⟨.cmdb (.endpointSelectOne serverId key), .ok (some ⟨id, name⟩)⟩

/-- An event of the history handed the create this server id. -/
def HandedServer (history : List Event) (id : Nat) : Prop :=
  ∃ event ∈ history, event.handsServer id

/-- An event of the history handed the create this endpoint id. -/
def HandedEndpoint (history : List Event) (id : Nat) : Prop :=
  ∃ event ∈ history, event.handsEndpoint id

/-- One event more hands over its own server, if any. -/
theorem handedServer_append {history : List Event} {event : Event} {id : Nat} :
    HandedServer (history ++ [event]) id ↔ HandedServer history id ∨ event.handsServer id := by
  simp [HandedServer, or_and_right, exists_or]

/-- One event more hands over its own endpoint, if any. -/
theorem handedEndpoint_append {history : List Event} {event : Event} {id : Nat} :
    HandedEndpoint (history ++ [event]) id ↔
      HandedEndpoint history id ∨ event.handsEndpoint id := by
  simp [HandedEndpoint, or_and_right, exists_or]

/-- Where the rows come from that the calls of a create name. -/
def createRule (uuid : String) (earlier : List Event) (event : Event) : Prop :=
  match event.op with
  | .cmdb (.serverInsertOne columns) => columns.get? "uuid" = some (.str uuid)
  | .cmdb (.serverUpdate _ mutation) => "uuid" ∉ mutation.keys
  | .cmdb (.endpointInsertOne columns) => HandedServer earlier columns.serverId
  | .cmdb (.endpointSelectOne serverId _) => HandedServer earlier serverId
  | .cmdb (.ipInsertOne columns) => HandedEndpoint earlier columns.networkEndpointId
  | _ => True

/-- The calls so far name own rows only: each was justified by what the create
had been handed by then. -/
def Ruled (uuid : String) (world : World) : Prop := Justified (createRule uuid) world.history

/-- A justified call may be recorded. -/
theorem Ruled.record {uuid : String} {world : World} (ruled : Ruled uuid world) {event : Event}
    (justified : createRule uuid world.history event) : Ruled uuid (world.record event) :=
  justified_append.mpr ⟨ruled, justified⟩

section Create

variable {permits : Faults} {handler : InstanceHandler} {message : Message} {ctx : CreateContext}
  {uuid : String} {state : FieldErrors} {world : World}

/-- What is known of the calls so far justifies the next one. -/
def Justifies (uuid : String) (known : List Event → Prop) (op : CmdbOp) : Prop :=
  ∀ history, known history → ∀ reply : Except CallError op.Rows,
    createRule uuid history ⟨.cmdb op, reply⟩

/-- A part of the create whose calls are justified by a monotone fact about the
history keeps both the rule and the fact. -/
theorem ruled_calls {α : Type} {action : Run α} (known : List Event → Prop)
    (only : action.Only (calls (Justifies uuid known)))
    (monotone : ∀ history event, known history → known (history ++ [event]))
    (ruled : Ruled uuid world) (start : known world.history) :
    action.Ensures (unsteady permits) (Ruled uuid)
      (fun _ _ after => Ruled uuid after ∧ known after.history) state world := by
  apply unsteady_calls only (fun after => Ruled uuid after ∧ known after.history) _
    (fun _ held => held.1) ⟨ruled, start⟩
  intro before held op justified reply
  constructor
  · exact held.1.record (justified before.history held.2 reply)
  · exact monotone before.history ⟨.cmdb op, reply⟩ held.2

/-- The row a create goes on with was handed to it, by the insert or by the
re-select. The row inserted carries the uuid of the create. -/
theorem recreateServerRow_handed (identified : ctx.instanceId = uuid) (ruled : Ruled uuid world) :
    (handler.recreateServerRow ctx).Ensures (unsteady permits) (Ruled uuid)
      (fun result _ after => Ruled uuid after ∧
        ∀ id, result = .ok (some id) → HandedServer after.history id) state world := by
  have removal : (handler.removeServer (some ctx.instanceId) (some ctx.hostname)).Only
      (calls (Justifies uuid fun _ => True)) :=
    removeServer_only (fun _ _ _ => trivial) (fun _ _ _ _ => trivial) fun _ _ _ _ => trivial
  have own : (handler.serverColumns ctx).get? "uuid" = some (.str uuid) := by
    rw [← identified]
    rfl
  rw [recreateServerRow]
  refine (ruled_calls _ removal (fun _ _ _ => trivial) ruled trivial).bind ?_
    fun _ _ _ held => ⟨held.1, by simp⟩
  rintro _ middle removed ⟨before, -⟩
  apply cmdbCall_found (Ruled uuid) (fun id after => HandedServer after.history id) before
  · intro current held
    apply unsteady_reply
    intro reply
    have now : Ruled uuid
        (current.record ⟨.cmdb (.serverInsertOne (handler.serverColumns ctx)), reply⟩) :=
      held.record own
    refine ⟨now, rfl, now, ?_⟩
    intro id answered
    cases reply with
    | error error => cases answered
    | ok inserted =>
      cases answered
      exact handedServer_append.mpr (Or.inr (Or.inl ⟨_, rfl⟩))
  · rintro _ ⟨⟩ current held
    apply unsteady_reply
    intro reply
    have now : Ruled uuid
        (current.record ⟨.cmdb (.serverSelectOneByHostname ctx.hostname), reply⟩) :=
      held.record trivial
    refine ⟨now, rfl, now, ?_⟩
    intro id answered
    cases reply with
    | error error => cases answered
    | ok found =>
      cases answered
      exact handedServer_append.mpr (Or.inr (Or.inr ⟨_, rfl⟩))

/-- The row of a card was handed to the create, and it was asked for on its own server. -/
theorem insertCard_handed {serverId : Nat} {takenNames : List String} {card : HostNetwork}
    (ruled : Ruled uuid world) (own : HandedServer world.history serverId) :
    (handler.insertCard serverId takenNames card).Ensures (unsteady permits) (Ruled uuid)
      (fun result _ after => (Ruled uuid after ∧ HandedServer after.history serverId) ∧
        ∀ row, result = .ok (some row) → HandedEndpoint after.history row.id) state world := by
  rw [insertCard]
  apply cmdbCall_found (fun after => Ruled uuid after ∧ HandedServer after.history serverId)
    (fun (row : EndpointRef) after => HandedEndpoint after.history row.id) ⟨ruled, own⟩
  · intro current held
    apply unsteady_reply
    intro reply
    have now : Ruled uuid (current.record
        ⟨.cmdb (.endpointInsertOne (cardColumns serverId takenNames card)), reply⟩) :=
      held.1.record held.2
    refine ⟨now, rfl, ⟨now, handedServer_append.mpr (Or.inl held.2)⟩, ?_⟩
    intro row answered
    cases reply with
    | error error => cases answered
    | ok inserted =>
      cases answered
      exact handedEndpoint_append.mpr (Or.inr (Or.inl ⟨_, row.name, rfl⟩))
  · rintro _ ⟨⟩ current held
    apply unsteady_reply
    intro reply
    have now : Ruled uuid (current.record
        ⟨.cmdb (.endpointSelectOne serverId (endpointKey takenNames card)), reply⟩) :=
      held.1.record held.2
    refine ⟨now, rfl, ⟨now, handedServer_append.mpr (Or.inl held.2)⟩, ?_⟩
    intro row answered
    cases reply with
    | error error => cases answered
    | ok found =>
      cases answered
      exact handedEndpoint_append.mpr (Or.inr (Or.inr ⟨_, _, row.name, rfl⟩))

/-- The loop over the cards follows the rule, by induction on the cards. The
server id stays handed, and the endpoint id is handed before its addresses are
written. -/
theorem persistCards_ruled {serverId : Nat} (cards : List HostNetwork) (takenNames : List String)
    (used : List (Option String)) (ruled : Ruled uuid world)
    (own : HandedServer world.history serverId) :
    (handler.persistCards ctx serverId takenNames used cards).Ensures (unsteady permits)
      (Ruled uuid) (fun _ _ after => Ruled uuid after) state world := by
  induction cards generalizing takenNames used state world with
  | nil => exact ruled
  | cons card rest ih =>
    rw [persistCards]
    refine (insertCard_handed ruled own).bind ?_ fun _ _ _ held => held.1.1
    rintro endpoint middle inserted ⟨⟨held, still⟩, handed⟩
    cases endpoint with
    | none => exact ih _ _ held still
    | some row =>
      have addresses : (handler.persistAddresses ctx row.id used card.addresses).Only
          (calls (Justifies uuid fun history =>
            HandedServer history serverId ∧ HandedEndpoint history row.id)) := by
        apply persistAddresses_only
        · exact fun _ _ _ => trivial
        · intro columns hangs history known reply
          change HandedEndpoint history columns.networkEndpointId
          rw [hangs]
          exact known.2
        · exact fun _ _ _ _ _ => trivial
      have monotone : ∀ history event,
          HandedServer history serverId ∧ HandedEndpoint history row.id →
            HandedServer (history ++ [event]) serverId ∧
              HandedEndpoint (history ++ [event]) row.id := by
        rintro history event ⟨server, endpoint⟩
        exact ⟨handedServer_append.mpr (Or.inl server), handedEndpoint_append.mpr (Or.inl endpoint)⟩
      refine (ruled_calls _ addresses monotone held ⟨still, handed row rfl⟩).bind ?_
        fun _ _ _ held => held.1
      exact fun _ _ _ held => ih _ _ held.1 held.2.1

/-- No tag that counts names the uuid. Where the whitelist applies it removes
such a tag, so the condition is only on the other creates. -/
def TagsKeepUuid (content : CreateContent) (db : Cmdb) : Prop :=
  content.unrestricted db = true → ∀ key ∈ (cmdbTagsOf content.tags).keys,
    splitHead '.' key ≠ "uuid"

/-- Then no update of the fields writes the uuid, neither the batch nor the
replay. -/
theorem writeCreateFields_ruled {content : CreateContent} {db : Cmdb}
    (tags : TagsKeepUuid content db) (known : List Event → Prop) :
    (handler.writeCreateFields (content.context handler message db)).Only
      (calls (Justifies uuid known)) := by
  apply writeCreateFields_only
  intro writes returned
  have avoids := (writes_avoid_iff returned (Or.inr rfl)).mpr tags
  constructor
  · intro history _ reply written
    obtain ⟨write, member, named⟩ := (mem_keys_mergeWrites writes _).mp written
    exact avoids write member named
  · exact fun write member _ _ _ => avoids write member

/-- What a create does after its row is back follows the rule, phase by phase.
The final update writes the state alone. -/
theorem completeCreate_ruled {content : CreateContent} {db : Cmdb} {serverId : Nat}
    (tags : TagsKeepUuid content db) (ruled : Ruled uuid world)
    (own : HandedServer world.history serverId) :
    (completeCreate handler (content.context handler message db) serverId).Ensures
      (unsteady permits) (Ruled uuid) (fun _ _ after => Ruled uuid after) state world := by
  have monotone : ∀ history event, HandedServer history serverId →
      HandedServer (history ++ [event]) serverId :=
    fun _ _ handed => handedServer_append.mpr (Or.inl handed)
  have last : ∀ ctx, (handler.setFinalState ctx).Only (calls (Justifies uuid fun _ => True)) :=
    fun ctx => setFinalState_only fun errors _ _ _ => (finalState_keeps errors).2
  rw [completeCreate]
  refine (ruled_calls _ (writeCreateFields_ruled tags _) monotone ruled own).bind ?_
    fun _ _ _ held => held.1
  rintro _ middle filled ⟨held, still⟩
  refine (persistCards_ruled _ _ _ held still).bind ?_ fun _ _ _ held => held
  intro _ carded persisted held
  exact (ruled_calls _ (last _) (fun _ _ _ => trivial) held trivial).mono fun _ _ _ held => held.1

/-- A create with the uuid follows the rule in every state, even if the replies
come from a store that others change meanwhile. -/
theorem createInstances_ruled
    (own : ∀ content, readCreate handler message = .ok (some content) →
      content.instanceId = uuid ∧ TagsKeepUuid content world.db) (ruled : Ruled uuid world) :
    (handler.createInstances message).Ensures (unsteady permits) (Ruled uuid)
      (fun _ _ after => Ruled uuid after) state world := by
  have context : ∀ state, (handler.buildCreateContext message).Ensures (unsteady permits)
      (Ruled uuid) (fun result final after => contextExit permits handler message state world result
        final after ∧ Ruled uuid after) state world := by
    intro state
    have built : (handler.buildCreateContext message).Ensures (faulty permits) (fun _ => True)
        (contextExit permits handler message state world) state world :=
      buildCreateContext_ensures fun _ _ => trivial
    have steady := unsteady_reference (buildCreateContext_only (fun _ => rfl) fun _ => rfl) built
    have reads : (handler.buildCreateContext message).Only (calls (Justifies uuid fun _ => True)) :=
      buildCreateContext_only (fun _ _ _ _ => trivial) fun _ _ _ _ => trivial
    refine ((steady.and (ruled_calls _ reads (fun _ _ _ => trivial) ruled trivial)).env_mono
      (fun _ _ _ _ step => step) fun _ held => held.2).mono ?_
    exact fun _ _ _ held => ⟨held.1, held.2.1⟩
  rw [createInstances, Action.ensures_bind, Action.ensures_modify]
  simp only
  refine (context _).bind ?_ fun _ _ _ held => held.2
  rintro found middle built ⟨⟨reads, exit⟩, held⟩
  cases found with
  | none => exact held
  | some ctx =>
    obtain ⟨content, read, rfl, rfl⟩ := exit
    obtain ⟨identified, tags⟩ := own content read
    simp only
    rw [Action.ensures_bind, Action.ensures_attempt]
    refine (recreateServerRow_handed identified held).mono ?_
    rintro (exc | id) final after ⟨now, handed⟩
    · simp only
      split
      · exact now
      · exact now
    · cases id with
      | none => exact now
      | some newServerId => exact completeCreate_ruled tags now (handed newServerId rfl)

end Create

/-- Every call of a create is justified by the calls before it, whatever the replies. -/
theorem create_ruled {permits : Faults} {uuid : String} {db : Cmdb} {state : FieldErrors}
    (worker : MessageHandlerService) (message : Message)
    (create : message.actionType = some "create")
    (own : ∀ content, readCreate worker.handler message = .ok (some content) →
      content.instanceId = uuid ∧ TagsKeepUuid content db) :
    (worker.handleMessage (.ok message)).Ensures (unsteady permits) (Ruled uuid)
      (fun _ _ after => Ruled uuid after) state ⟨db, []⟩ := by
  apply handleMessage_justified
  · rintro history ⟨op, reply⟩ noCall
    cases op with
    | cmdb op => cases noCall
    | started message => trivial
    | ack => trivial
    | nack => trivial
  · rintro state world rfl ruled
    rw [worker.handler.dispatch_create create]
    exact createInstances_ruled own ruled

/-! ## Both creates -/

/-- The rows a create was handed are rows of its machine, and what it wrote hangs on them. -/
structure BuildsOwn (uuid : String) (history : List Event) (db : Cmdb) : Prop where
  handed : ∀ id, HandedServer history id → db.OwnServer uuid id
  endpoints : ∀ columns reply,
    (⟨.cmdb (.endpointInsertOne columns), reply⟩ : Event) ∈ history →
      db.OwnServer uuid columns.serverId
  ips : ∀ columns reply, (⟨.cmdb (.ipInsertOne columns), reply⟩ : Event) ∈ history →
    db.OwnEndpoint uuid columns.networkEndpointId

/-- The re-select of a create finds no row but its own, when it finds one. The
hostname is all it asks for. -/
def Cmdb.reselectsOwn (db : Cmdb) (uuid : String) : CmdbOp → Bool
  | .serverSelectOneByHostname hostname =>
      (db.servers.rows.find? (ServerKey.hostname hostname).holds).all
        (fun server => hasUuid server (some uuid))
  | _ => true

/-- The same for a call of the service on the shared store. -/
def reselectsOwn (uuid : String) (op : service.Op) (shared : Shared) : Bool :=
  match op with
  | .cmdb call => shared.db.reselectsOwn uuid call
  | _ => true

/-- All runs, under any failures, in which the re-selects are so: each one that
reaches the store finds a row of the side's own uuid or none. -/
def reselecting (uuid : Side → String) (side : Side) : Env service Shared :=
  (racing everyFault side).meeting (fun op shared => reselectsOwn (uuid side) op shared = true)

/-- What both sides were handed is their own. This is the invariant of the
interleaving. -/
structure HandedOwn (uuid : Side → String) (shared : Shared) : Prop where
  servers : ∀ side id, HandedServer (shared.heard side) id → shared.db.OwnServer (uuid side) id
  endpoints : ∀ side id, HandedEndpoint (shared.heard side) id →
    shared.db.OwnEndpoint (uuid side) id

/-! ### One call -/

section Answer

variable {db : Cmdb} {op : CmdbOp} {outcome : Outcome} {uuid : String} {id : Nat}

/-- An inserted row carries the uuid of its columns, and a re-selected one is own. -/
theorem handsServer_own {earlier : List Event}
    (hands : Event.handsServer ⟨.cmdb op, (db.answer op outcome).1⟩ id)
    (ruled : createRule uuid earlier ⟨.cmdb op, (db.answer op outcome).1⟩)
    (reselects : db.reselectsOwn uuid op = true) : (db.answer op outcome).2.OwnServer uuid id := by
  rcases hands with ⟨columns, handed⟩ | ⟨hostname, handed⟩
  · obtain ⟨ops, replies⟩ := Event.mk.inj handed
    cases ops
    have answered := eq_of_heq replies
    cases outcome with
    | fail error landed => cases answered
    | ok =>
      obtain rfl : db.servers.next = id := Except.ok.inj answered
      constructor
      · exact Nat.lt_succ_self _
      · intro server stored same
        rcases (db.servers.mem_insert _ server).mp stored with there | rfl
        · exact absurd same (db.servers.next_absent server there)
        · have written : columns.get? "uuid" = some (.str uuid) := ruled
          simp [hasUuid, Columns.write, written, Value.isStr_iff]
  · obtain ⟨ops, replies⟩ := Event.mk.inj handed
    cases ops
    have answered := eq_of_heq replies
    cases outcome with
    | fail error landed => cases answered
    | ok =>
      have found : (db.servers.rows.find? (ServerKey.hostname hostname).holds).map Row.id =
          some id := Except.ok.inj answered
      obtain ⟨server, located, rfl⟩ := Option.map_eq_some_iff.mp found
      have there := List.mem_of_find?_eq_some located
      constructor
      · exact db.servers.serial server there
      · intro other stored same
        rw [db.servers.row_unique stored there same]
        rw [Cmdb.reselectsOwn, located] at reselects
        exact reselects

/-- An insert that was answered has stored its endpoint, under the id it was
answered with and on a server that is there; a refused insert is answered by an
error. -/
theorem inserted_endpoint {columns : Endpoint} {name : Option String}
    (answered : (db.answer (.endpointInsertOne columns) outcome).1 = .ok ⟨id, name⟩) :
    (∃ server ∈ db.servers.rows, server.id = columns.serverId) ∧ id = db.endpoints.next ∧
      (db.answer (.endpointInsertOne columns) outcome).2 = db.insertEndpoint columns := by
  cases outcome with
  | fail error landed => cases answered
  | ok =>
    have admitted : ∃ server ∈ db.servers.rows, server.id = columns.serverId := by
      by_contra refused
      have rejects : db.admits (.endpointInsertOne columns) = false := by
        simpa [Cmdb.admits] using refused
      simp [Cmdb.answer, rejects] at answered
    simp only [Cmdb.answer, admits_endpoint admitted, if_true] at answered
    exact ⟨admitted, (congrArg EndpointRef.id (Except.ok.inj answered)).symm, rfl⟩

/-- The endpoint of a card hangs on the server it was asked for on. -/
theorem handsEndpoint_own {earlier : List Event}
    (hands : Event.handsEndpoint ⟨.cmdb op, (db.answer op outcome).1⟩ id)
    (ruled : createRule uuid earlier ⟨.cmdb op, (db.answer op outcome).1⟩)
    (servers : ∀ id, HandedServer earlier id → db.OwnServer uuid id) :
    (db.answer op outcome).2.OwnEndpoint uuid id := by
  rcases hands with ⟨columns, name, handed⟩ | ⟨serverId, key, name, handed⟩
  · obtain ⟨ops, replies⟩ := Event.mk.inj handed
    cases ops
    have answered := eq_of_heq replies
    have own : db.OwnServer uuid columns.serverId := servers _ ruled
    obtain ⟨admitted, rfl, took⟩ := inserted_endpoint answered
    rw [took]
    constructor
    · rw [db.insertEndpoint_endpoints columns admitted]
      exact Nat.lt_succ_self _
    · intro endpoint stored same
      have server := own.effect (.endpointInsertOne columns) trivial
      rw [db.insertEndpoint_endpoints columns admitted] at stored
      rcases (db.endpoints.mem_insert _ endpoint).mp stored with there | rfl
      · exact absurd same (db.endpoints.next_absent endpoint there)
      · exact server
  · obtain ⟨ops, replies⟩ := Event.mk.inj handed
    cases ops
    have answered := eq_of_heq replies
    have own : db.OwnServer uuid serverId := servers _ ruled
    cases outcome with
    | fail error landed => cases answered
    | ok =>
      have found := Except.ok.inj answered
      obtain ⟨endpoint, located, shown⟩ := Option.map_eq_some_iff.mp found
      have same : endpoint.id = id := congrArg EndpointRef.id shown
      have there := List.mem_of_find?_eq_some located
      have asked := List.find?_some located
      simp only [Bool.and_eq_true, decide_eq_true_eq] at asked
      constructor
      · rw [← same]
        exact db.endpoints.serial endpoint there
      · intro other stored named
        rw [db.endpoints.row_unique stored there (named.trans same.symm), asked.1]
        exact own

end Answer

/-! ### One move -/

section Step

variable {uuid : Side → String} {before after : Shared} {side : Side}

/-- The calls of a create leave every uuid alone, as the rule says of its
updates. By cases on the call. -/
theorem createRule_leavesUuid {uuid : String} {earlier : List Event} {op : CmdbOp}
    {reply : Except CallError op.Rows} (ruled : createRule uuid earlier ⟨.cmdb op, reply⟩) :
    op.leavesUuid := by
  cases op <;> trivial

/-- Old ids stay own, and a new one is own from its call on. -/
theorem HandedOwn.call (own : HandedOwn uuid before) {op : CmdbOp} {outcome : Outcome}
    (ruled : createRule (uuid side) (before.heard side)
      ⟨.cmdb op, (before.db.answer op outcome).1⟩)
    (reselects : before.db.reselectsOwn (uuid side) op = true) :
    HandedOwn uuid (before.move side ⟨.cmdb op, (before.db.answer op outcome).1⟩
      (before.db.answer op outcome).2) := by
  have leaves := createRule_leavesUuid ruled
  constructor
  · intro other id handed
    by_cases same : other = side
    · subst same
      rw [Shared.heard_move, handedServer_append] at handed
      rcases handed with old | new
      · exact (own.servers other id old).answer leaves outcome
      · exact handsServer_own new ruled reselects
    · rw [Shared.heard_move_other _ _ _ _ same] at handed
      exact (own.servers other id handed).answer leaves outcome
  · intro other id handed
    by_cases same : other = side
    · subst same
      rw [Shared.heard_move, handedEndpoint_append] at handed
      rcases handed with old | new
      · exact (own.endpoints other id old).answer leaves outcome
      · exact handsEndpoint_own new ruled (own.servers other)
    · rw [Shared.heard_move_other _ _ _ _ same] at handed
      exact (own.endpoints other id handed).answer leaves outcome

/-- An event that is no call hands out no row and changes nothing, so what was
handed to each side is still its own. -/
theorem HandedOwn.recorded (own : HandedOwn uuid before) {event : Event}
    (noCall : event.isCall = false) : HandedOwn uuid (before.move side event before.db) := by
  have noServer : ∀ id, ¬ event.handsServer id := by
    rintro id (⟨columns, rfl⟩ | ⟨hostname, rfl⟩) <;> cases noCall
  have noEndpoint : ∀ id, ¬ event.handsEndpoint id := by
    rintro id (⟨columns, name, rfl⟩ | ⟨serverId, key, name, rfl⟩) <;> cases noCall
  constructor
  · intro other id handed
    by_cases same : other = side
    · subst same
      rw [Shared.heard_move, handedServer_append] at handed
      exact own.servers other id (handed.resolve_right (noServer id))
    · rw [Shared.heard_move_other _ _ _ _ same] at handed
      exact own.servers other id handed
  · intro other id handed
    by_cases same : other = side
    · subst same
      rw [Shared.heard_move, handedEndpoint_append] at handed
      exact own.endpoints other id (handed.resolve_right (noEndpoint id))
    · rw [Shared.heard_move_other _ _ _ _ same] at handed
      exact own.endpoints other id handed

/-- One move of either side keeps the invariant. What the side was handed by it
is its own, by the rule for the insert and by the condition for the re-select;
what the other side holds survives the call. -/
theorem HandedOwn.step (own : HandedOwn uuid before) {op : ServiceOp} {reply : op.Reply}
    (step : reselecting uuid side op before reply after)
    (ruled : Justified (createRule (uuid side)) (after.heard side)) : HandedOwn uuid after := by
  obtain ⟨reselects, moved⟩ := step
  revert ruled
  apply racing_keeps (fun _ after => Justified (createRule (uuid side)) (after.heard side) →
    HandedOwn uuid after) ?_ ?_ moved
  · rintro call outcome rfl - ruled
    rw [Shared.called, Shared.heard_move] at ruled
    exact own.call (justified_append.mp ruled).2 reselects
  · exact fun event _ noCall _ => own.recorded noCall

end Step

/-- What a create wrote hangs on rows it was handed, and those are its own. -/
theorem HandedOwn.builds {uuid : Side → String} {shared : Shared} {side : Side}
    (own : HandedOwn uuid shared)
    (ruled : Justified (createRule (uuid side)) (shared.heard side)) :
    BuildsOwn (uuid side) (shared.heard side) shared.db := by
  have more : ∀ (earlier later : List Event) (event : Event),
      shared.heard side = earlier ++ event :: later → earlier ⊆ shared.heard side := by
    intro earlier later event parts
    rw [parts]
    exact List.subset_append_left _ _
  refine ⟨own.servers side, ?_, ?_⟩
  · intro columns reply member
    obtain ⟨earlier, later, parts⟩ := List.append_of_mem member
    obtain ⟨event, old, hands⟩ := ruled earlier _ later parts
    exact own.servers side _ ⟨event, more _ _ _ parts old, hands⟩
  · intro columns reply member
    obtain ⟨earlier, later, parts⟩ := List.append_of_mem member
    obtain ⟨event, old, hands⟩ := ruled earlier _ later parts
    exact own.endpoints side _ ⟨event, more _ _ _ parts old, hands⟩

/-- In every state of every interleaving of two creates in which no re-select finds the row
of another machine: the row a create was handed carries its uuid, and every endpoint and IP
it wrote hangs on such a row. -/
theorem creates_build_own (worker : MessageHandlerService) (messages : Side → Message)
    (uuid : Side → String) (db : Cmdb)
    (creates : ∀ side, (messages side).actionType = some "create")
    (own : ∀ side content, readCreate worker.handler (messages side) = .ok (some content) →
      content.instanceId = uuid side ∧ TagsKeepUuid content db)
    (state : FieldErrors) (last : Shared)
    (rests : Side → Prog service (Except Exn Unit × FieldErrors))
    (interleaved : Interleaved (reselecting uuid) (Shared.start db)
      (tasks worker (fun side => .ok (messages side)) state) last rests) (side : Side) :
    BuildsOwn (uuid side) (last.heard side) last.db := by
  have nothing : HandedOwn uuid (Shared.start db) := by
    constructor
    · rintro other id ⟨event, member, _⟩
      cases member
    · rintro other id ⟨event, member, _⟩
      cases member
  have joined := tasks_justified (fun side => createRule (uuid side)) (HandedOwn uuid)
    (fun _ _ _ _ _ step => step.2)
    (fun side op before reply after kept step _ ruled => kept.step step ruled) nothing
    (fun side => create_ruled worker (messages side) (creates side) (own side)) interleaved
  exact joined.1.builds (joined.2 side)

/-- A create of the sample host under a uuid, with one card. -/
def rivalCreate (uuid address mac : String) (order : Int) : Message :=
  { AsciiRuntime.createMessage "dc1-b1" [] [] with
    resources := some [{
      resourceType := some "instance"
      resourceBody := .value {
        name := .value "dc1-b1"
        id := .value uuid
        metadata := .value .empty
        addresses := .value [("net", [AsciiRuntime.fixedAddress address mac order])]
        flavor := .value ⟨.value "small"⟩ } }] }

/-- Two machines of one hostname. -/
def rivalUuid : Side → String
  | .left => "u0"
  | .right => "u1"

/-- Their creates, with different addresses and macs. -/
def rivalCreates : Side → Message
  | .left => rivalCreate "u0" "10.0.0.7" "m1" 1
  | .right => rivalCreate "u1" "10.0.0.8" "m2" 2

/-- The first insert of a server by the left create, with this outcome. -/
def rivalScript (outcome : Outcome) : Side → List (Nat × Outcome)
  | .left => [(3, outcome)]
  | .right => []

/-- Both creates on an empty store; the left one waits at such a call for the right one. -/
def rivalEnd (outcome : Outcome) (stop : service.Op → Bool) : Shared :=
  race (rivalScript outcome) stop
    (tasks AsciiRuntime.service (fun side => .ok (rivalCreates side)) {})
    (Shared.start (Cmdb.empty AsciiRuntime.reference))

/-- The re-select of the left create after its lost insert. -/
def reselectsServer : service.Op → Bool
  | .cmdb (.serverSelectOneByHostname _) => true
  | _ => false

/-- The insert of its card, after it was handed its row. -/
def insertsEndpoint : service.Op → Bool
  | .cmdb (.endpointInsertOne _) => true
  | _ => false

/-- The reply of the left insert is lost and its own row found again; the right create then
takes the row away before the left one inserts its card. -/
theorem creates_build_own_rivals :
    BuildsOwn "u0" ((rivalEnd lostReply insertsEndpoint).heard .left)
        (rivalEnd lostReply insertsEndpoint).db ∧
      BuildsOwn "u1" ((rivalEnd lostReply insertsEndpoint).heard .right)
        (rivalEnd lostReply insertsEndpoint).db := by
  have read : ∀ side content,
      readCreate AsciiRuntime.handler (rivalCreates side) = .ok (some content) →
        content.instanceId = rivalUuid side ∧
          TagsKeepUuid content (Cmdb.empty AsciiRuntime.reference) := by
    intro side content read
    cases side <;> cases read <;> exact ⟨rfl, fun every => nomatch every⟩
  have possible : ∀ side (op : service.Op) (before : Shared),
      reselectsOwn (rivalUuid side) op before = true →
        reselecting rivalUuid side op before
          (Shared.scripted (rivalScript lostReply) side op before).1
          (Shared.scripted (rivalScript lostReply) side op before).2 := by
    intro side op before own
    exact ⟨own, scripted_racing (fun _ => trivial) (fun _ _ _ _ => trivial) side op before⟩
  obtain ⟨values, interleaved⟩ := race_interleaved possible insertsEndpoint
    (tasks AsciiRuntime.service (fun side => .ok (rivalCreates side)) {})
    (Shared.start (Cmdb.empty AsciiRuntime.reference)) (by decide +kernel)
  have own := creates_build_own AsciiRuntime.service rivalCreates rivalUuid
    (Cmdb.empty AsciiRuntime.reference) (fun side => by cases side <;> rfl) read {} _ _ interleaved
  exact ⟨own .left, own .right⟩

/-- The request of the left insert is lost, and the right create is done before the left one
looks for its row: the left create is handed the row of `u1`, the only server ever inserted,
and hangs its card on it. -/
theorem lost_insert_adopts_row :
    (∃ values : Side → Except Exn Unit × FieldErrors,
      Interleaved (racing transportFaults) (Shared.start (Cmdb.empty AsciiRuntime.reference))
        (tasks AsciiRuntime.service (fun side => .ok (rivalCreates side)) {})
        (rivalEnd lostRequest reselectsServer)
        (fun side => .done (values side))) ∧
      (rivalEnd lostRequest reselectsServer).db.servers.next = 1 ∧
      (rivalEnd lostRequest reselectsServer).db.servers.rows.map
        (fun server => (server.id, server.data "hostname", server.data "uuid")) =
          [(0, .str "dc1-b1", .str "u1")] ∧
      (rivalEnd lostRequest reselectsServer).db.endpoints.rows.map
        (fun endpoint => (endpoint.data.serverId, endpoint.data.mac)) =
          [(0, some "m2"), (0, some "m1")] ∧
      ¬ BuildsOwn "u0" ((rivalEnd lostRequest reselectsServer).heard .left)
        (rivalEnd lostRequest reselectsServer).db := by
  have lost : ∀ side, ∀ entry ∈ rivalScript lostRequest side, ∀ call,
      transportFaults call entry.2 := by
    intro side entry member call
    cases side with
    | left =>
      rw [List.mem_singleton.mp member]
      exact rfl
    | right => cases member
  have ran : raceMeets (rivalScript lostRequest) (fun _ _ _ => true)
      reselectsServer (tasks AsciiRuntime.service (fun side => .ok (rivalCreates side)) {})
      (Shared.start (Cmdb.empty AsciiRuntime.reference)) = true := by decide +kernel
  have rows : (rivalEnd lostRequest reselectsServer).db.servers.rows.map
      (fun server => (server.id, server.data "hostname", server.data "uuid")) =
        [(0, .str "dc1-b1", .str "u1")] := by rfl
  have handed : ((rivalEnd lostRequest reselectsServer).heard .left)[4]? =
      some ⟨.cmdb (.serverSelectOneByHostname "dc1-b1"), .ok (some 0)⟩ := by rfl
  refine ⟨?_, by decide +kernel, rows, by decide +kernel, ?_⟩
  · exact race_interleaved
      (fun side op before _ => scripted_racing (fun _ => trivial) lost side op before) _ _ _ ran
  · intro builds
    obtain ⟨server, stored, shown⟩ : ∃ server ∈
        (rivalEnd lostRequest reselectsServer).db.servers.rows,
        (server.id, server.data "hostname", server.data "uuid") =
          (0, .str "dc1-b1", .str "u1") := by
      rw [← List.mem_map, rows]
      exact List.mem_singleton_self _
    simp only [Prod.mk.injEq] at shown
    have own := (builds.handed 0 ⟨_, List.mem_of_getElem? handed, Or.inr ⟨_, rfl⟩⟩).2 server stored
      shown.1
    rw [hasUuid, shown.2.2] at own
    exact absurd own (by decide)

end InstanceLifecycle
