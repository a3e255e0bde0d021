import InstanceLifecycle.Addresses.Types
import InstanceLifecycle.Attach.Plan
import InstanceLifecycle.Concurrency.Reach

/-!
# Where addresses come from

An IP is inserted by a create or an attach, for an address that the message asks for. Its prefix
is the first row of the datacenter whose network holds the address; a create inserts no IP without
a prefix. Whatever the others do to the store meanwhile, this is so of every insert, since nobody
writes the reference rows.
-/

namespace InstanceLifecycle

open Interaction Store InstanceHandler

namespace InstanceHandler

variable (handler : InstanceHandler) (message : Message)

/-- The addresses on the cards of a create, and the address of an attach. -/
def askedAddresses : List String :=
  match message.actionType with
  | some "create" =>
      match readCreate handler message with
      | .ok (some content) => content.hostNetworks.flatMap fun card => card.addresses
      | _ => []
  | some "attach" =>
      match handler.readAttach message with
      | .ok (some request) => [request.ipAddr]
      | _ => []
  | _ => []

/-- The prefixes of the datacenter that a create names by its hostname and an attach by its
region. -/
def offeredPrefixes (db : Cmdb) : List NetworkPrefix :=
  match message.actionType with
  | some "create" =>
      match readCreate handler message with
      | .ok (some content) =>
          db.rows (.networkPrefixSelect (getDcName handler.runtime content.hostname))
      | _ => []
  | some "attach" =>
      match handler.readAttach message with
      | .ok (some request) =>
          match db.rows (.datacenterSelectOne request.regionCode) with
          | some dc => db.rows (.networkPrefixSelect dc.name)
          | none => []
      | _ => []
  | _ => []

end InstanceHandler

/-- The message asks for the address, and the IP has the prefix and a type as the reference rows
say. -/
structure Ip.Asked (handler : InstanceHandler) (message : Message) (db : Cmdb) (columns : Ip) :
    Prop where
  address : columns.ip ∈ handler.askedAddresses message
  importer : columns.importer = some importerName
  provider : columns.provider = some providerName
  located : (∃ row, ipInNetPrefixes handler.runtime columns.ip
      (handler.offeredPrefixes message db) = some row ∧ columns.prefixId = some row.id ∧
        ∃ used, columns.type = some (resolveIpType row.type used)) ∨
    message.actionType = some "attach" ∧ columns.prefixId = none ∧ columns.type = none

/-! ## The inserts of a message -/

/-- An insert of an IP has an origin; other calls are free. -/
def CmdbOp.HasOrigin (origin : Ip → Prop) (op : CmdbOp) : Prop :=
  ∀ columns, op = .ipInsertOne columns → origin columns

/-- A call that inserts no IP needs none. -/
theorem CmdbOp.HasOrigin.other {origin : Ip → Prop} {op : CmdbOp} (other : op.insertsIp = false) :
    op.HasOrigin origin := by
  rintro columns rfl
  cases other

/-- Every IP inserted so far has an origin. -/
abbrev Original (origin : Ip → Prop) : World → Prop := Calling fun op => op.HasOrigin origin

/-- The inserts so far have origins, and these are the reference rows. -/
structure Held (origin : Ip → Prop) (db : Cmdb) (world : World) : Prop where
  original : Original origin world
  frozen : world.db = db

section Calls

variable {permits : Faults} {handler : InstanceHandler} {origin : Ip → Prop} {db : Cmdb}
  {state : FieldErrors} {world : World}

/-- A call with an origin keeps what is held. -/
theorem Held.record (held : Held origin db world) {op : CmdbOp} (sourced : op.HasOrigin origin)
    (reply : Except CallError op.Rows) : Held origin db (world.record ⟨.cmdb op, reply⟩) :=
  ⟨held.original.record sourced reply, held.frozen⟩

/-- A part of an action whose calls have an origin keeps it. -/
theorem origin_calls {α : Type} {action : Run α}
    (only : action.Only (calls fun op => op.HasOrigin origin)) (held : Held origin db world) :
    action.Ensures (unsteady permits) (Original origin) (fun _ _ after => Held origin db after)
      state world :=
  unsteady_calls only (Held origin db) (fun _ before _ sourced reply => before.record sourced reply)
    (fun _ after => after.original) held

/-- A read of a reference class answers with its rows, whoever else is at work,
since nobody writes them. -/
theorem referenceCall_found {options : CallOptions} {op : CmdbOp} (reads : op.ofReference = true)
    (held : Held origin db world) :
    (handler.cmdbCall options (cmdb op)).Ensures (unsteady permits) (Original origin)
      (fun result _ after => Held origin db after ∧
        ∀ rows, result = .ok (some rows) → rows = db.rows op) state world := by
  have sourced : op.HasOrigin origin := by
    rintro columns rfl
    cases reads
  apply cmdbCall_found (Held origin db) (fun rows _ => rows = db.rows op) held
  · intro current still
    apply unsteady_cmdb
    intro answering outcome reference _
    have now := still.record sourced (answering.answer op outcome).1
    refine ⟨now.original, rfl, now, ?_⟩
    have same : answering.rows op = db.rows op := by
      rw [still.frozen] at reference
      cases op <;> first | (cases reads; done) | simp only [Cmdb.rows, reference]
    have admitted : answering.admits op = true := by
      cases op <;> first | rfl | cases reads
    intro rows answered
    cases outcome with
    | fail error landed => cases answered
    | ok =>
      simp only [Cmdb.answer, admitted, if_true] at answered
      cases answered
      exact same
  · intro _ absent
    cases absent

/-- The prefix that a look-up hands back is the one of the reference rows. -/
theorem getNetPrefixByIp_found {ipAddr dcName : String} {errors : Bool}
    (held : Held origin db world) :
    (handler.getNetPrefixByIp ipAddr dcName errors).Ensures (unsteady permits) (Original origin)
      (fun result _ after => Held origin db after ∧ ∀ row, result = .ok (some row) →
        ipInNetPrefixes handler.runtime ipAddr (db.rows (.networkPrefixSelect dcName)) = some row)
      state world := by
  rw [getNetPrefixByIp]
  refine (referenceCall_found rfl held).bind ?_ fun _ _ _ read => ⟨read.1, by simp⟩
  rintro vlans middle after ⟨still, answered⟩
  cases vlans with
  | none => exact ⟨still, by simp⟩
  | some rows =>
    refine ⟨still, ?_⟩
    intro row found
    rw [← answered rows rfl]
    exact Except.ok.inj found

/-! ## Create -/

/-- What a create inserts for an address with a prefix. -/
def addressColumns (endpointId : Nat) (used : List (Option String)) (addr : String)
    (netPrefix : NetworkPrefix) : Ip where
  name := some addr
  ip := addr
  importer := some importerName
  provider := some providerName
  networkEndpointId := endpointId
  prefixId := some netPrefix.id
  type := some (resolveIpType netPrefix.type used)

/-- The addresses of a card are inserted with the first prefix that holds them.
By induction on the addresses, with the types used generalised. -/
theorem persistAddresses_held {ctx : CreateContext} {endpointId : Nat} (addresses : List String)
    (used : List (Option String))
    (sourced : ∀ addr ∈ addresses, ∀ row, ipInNetPrefixes handler.runtime addr
      (db.rows (.networkPrefixSelect ctx.dcName)) = some row → ∀ used,
        origin (addressColumns endpointId used addr row))
    (held : Held origin db world) :
    (handler.persistAddresses ctx endpointId used addresses).Ensures (unsteady permits)
      (Original origin) (fun _ _ after => Held origin db after) state world := by
  induction addresses generalizing used state world with
  | nil => exact held
  | cons addr rest ih =>
    have later := fun other member => sourced other (List.mem_cons_of_mem addr member)
    rw [persistAddresses]
    refine (getNetPrefixByIp_found held).bind ?_ fun _ _ _ looked => looked.1
    rintro netPrefix middle after ⟨still, found⟩
    cases netPrefix with
    | none =>
      simp only
      rw [Action.ensures_bind, Action.ensures_modify]
      exact ih _ later still
    | some row =>
      have first := sourced addr List.mem_cons_self row (found row rfl) used
      refine (origin_calls (call_only ?_ ?_) still).bind (fun _ _ _ held => ih _ later held)
        fun _ _ _ held => held
      · rintro columns ⟨⟩
        exact first
      · rintro _ ⟨⟩
        exact cmdb_only _ (.other rfl)

/-- The cards of a create insert addresses with an origin only, by induction on
the cards; the prefix of each address is looked up in the reference rows, which
nobody changes. -/
theorem persistCards_held {ctx : CreateContext} {serverId : Nat} (cards : List HostNetwork)
    (takenNames : List String) (used : List (Option String))
    (sourced : ∀ card ∈ cards, ∀ addr ∈ card.addresses, ∀ row,
      ipInNetPrefixes handler.runtime addr (db.rows (.networkPrefixSelect ctx.dcName)) = some row →
        ∀ endpointId used, origin (addressColumns endpointId used addr row))
    (held : Held origin db world) :
    (handler.persistCards ctx serverId takenNames used cards).Ensures (unsteady permits)
      (Original origin) (fun _ _ after => Held origin db after) state world := by
  induction cards generalizing takenNames used state world with
  | nil => exact held
  | cons card rest ih =>
    have later := fun other member => sourced other (List.mem_cons_of_mem card member)
    have inserts : (handler.insertCard serverId takenNames card).Only
        (calls fun op => op.HasOrigin origin) := by
      refine call_only (.other rfl) ?_
      rintro _ ⟨⟩
      exact cmdb_only _ (.other rfl)
    rw [persistCards]
    refine (origin_calls inserts held).bind ?_ fun _ _ _ held => held
    intro endpoint middle after still
    cases endpoint with
    | none => exact ih _ _ later still
    | some row =>
      refine (persistAddresses_held card.addresses used ?_ still).bind
        (fun _ _ _ held => ih _ _ later held) fun _ _ _ held => held
      exact fun addr member prefixRow found =>
        sourced card List.mem_cons_self addr member prefixRow found row.id

/-- What follows the row of a create inserts the addresses of its cards, and
nothing else. -/
theorem completeCreate_held {content : CreateContent} {message : Message} {start : Cmdb}
    {serverId : Nat}
    (sourced : ∀ card ∈ content.hostNetworks, ∀ addr ∈ card.addresses, ∀ row,
      ipInNetPrefixes handler.runtime addr (db.rows (.networkPrefixSelect
        (getDcName handler.runtime content.hostname))) = some row →
      ∀ endpointId used, origin (addressColumns endpointId used addr row))
    (held : Held origin db world) :
    (completeCreate handler (content.context handler message start) serverId).Ensures
      (unsteady permits) (Original origin) (fun _ _ after => Held origin db after) state world := by
  have updates : ∀ mutation, (CmdbOp.serverUpdate
      (createWhere (content.context handler message start)) mutation).HasOrigin origin :=
    fun _ => .other rfl
  rw [completeCreate]
  refine (origin_calls (writeCreateFields_only fun _ _ => ⟨updates _, fun _ _ => updates _⟩)
    held).bind ?_ fun _ _ _ held => held
  intro _ middle filled held
  refine (persistCards_held _ _ _ sourced held).bind ?_ fun _ _ _ held => held
  exact fun _ _ _ held => origin_calls (setFinalState_only fun _ => updates _) held

/-- A create inserts addresses of its message only, each with the prefix that
the message's location has for it. The four phases are taken from the rule for
creates among other tasks. -/
theorem createInstances_held {message : Message}
    (sourced : ∀ content, readCreate handler message = .ok (some content) →
      ∀ card ∈ content.hostNetworks, ∀ addr ∈ card.addresses, ∀ row,
        ipInNetPrefixes handler.runtime addr (db.rows (.networkPrefixSelect
          (getDcName handler.runtime content.hostname))) = some row →
        ∀ endpointId used, origin (addressColumns endpointId used addr row))
    (held : Held origin db world) :
    (handler.createInstances message).Ensures (unsteady permits) (Original origin)
      (fun _ _ after => Held origin db after) state world := by
  refine createInstances_unsteady (fun _ => Held origin db) (fun state => ?_) ?_ ?_
  · exact origin_calls (buildCreateContext_only (fun _ => .other rfl) fun _ => .other rfl) held
  · intro content read state before now
    have recreates : (handler.recreateServerRow (content.context handler message world.db)).Only
        (calls fun op => op.HasOrigin origin) :=
      recreateServerRow_only (fun _ => .other rfl) (fun _ => .other rfl) (fun _ => .other rfl)
        (.other rfl) (.other rfl)
    exact (origin_calls recreates now).mono fun _ _ _ after => ⟨after, fun _ _ => after⟩
  · intro content read id state before now
    exact completeCreate_held (sourced content read) now

/-! ## Attach -/

/-- The prefix of an attach is the one of the datacenter of its region. -/
theorem attachPrefix_found {request : AttachRequest} (held : Held origin db world) :
    (handler.attachPrefix request).Ensures (unsteady permits) (Original origin)
      (fun result _ after => Held origin db after ∧ ∀ row, result = .ok (some row) →
        ∃ dc, db.rows (.datacenterSelectOne request.regionCode) = some dc ∧
          ipInNetPrefixes handler.runtime request.ipAddr
            (db.rows (.networkPrefixSelect dc.name)) = some row) state world := by
  rw [attachPrefix]
  refine (referenceCall_found rfl held).bind ?_ fun _ _ _ read => ⟨read.1, by simp⟩
  rintro dc middle after ⟨still, answered⟩
  cases dc with
  | none => exact ⟨still, by simp⟩
  | some found =>
    cases found with
    | none => exact ⟨still, by simp⟩
    | some dc =>
      refine (getNetPrefixByIp_found still).mono ?_
      rintro result final last ⟨held, located⟩
      exact ⟨held, fun row found => ⟨dc, (answered (some dc) rfl).symm, located row found⟩⟩

/-- The endpoint of an attach is no IP, so the choice of it needs no origin. -/
theorem attachEndpoint_sources {request : AttachRequest} {server : ServerView} :
    (handler.attachEndpoint request server).Only (calls fun op => op.HasOrigin origin) := by
  unfold attachEndpoint
  cases chooseEndpoint request.mac server.endpoints with
  | some endpoint =>
    have updates : (CmdbOp.endpointUpdate endpoint.id (endpointUpdates request endpoint)).HasOrigin
        origin := .other rfl
    exact Action.Only.bind (reuseEndpoint_only updates) fun _ => Action.only_pure _
  | none =>
    have inserts : (handler.insertAttachEndpoint request server).Only
        (calls fun op => op.HasOrigin origin) := by
      unfold insertAttachEndpoint
      apply cmdbCall_only
      · exact Action.Only.bind (cmdb_only _ (.other rfl)) fun _ => Action.only_pure _
      · rintro _ ⟨⟩
        exact attachEndpointSelector_only (.other rfl) (.other rfl)
    apply Action.Only.bind inserts
    intro inserted
    cases inserted with
    | none => exact Action.only_raise _
    | some found => exact Action.only_pure _

/-- An attach inserts its address, with the prefix found for it or with none. -/
theorem attachTo_held {request : AttachRequest} {server : ServerView}
    (sourced : ∀ netPrefix endpointId, (∀ row, netPrefix = some row →
      ∃ dc, db.rows (.datacenterSelectOne request.regionCode) = some dc ∧
        ipInNetPrefixes handler.runtime request.ipAddr
          (db.rows (.networkPrefixSelect dc.name)) = some row) →
      origin (attachIpColumns request server netPrefix endpointId))
    (held : Held origin db world) :
    (handler.attachTo request server).Ensures (unsteady permits) (Original origin)
      (fun _ _ after => Held origin db after) state world := by
  have looks : (handler.findAttachedIp request.ipAddr request.hostUuid).Only
      (calls fun op => op.HasOrigin origin) := findAttachedIp_only (.other rfl)
  rw [attachTo]
  refine (origin_calls looks held).bind ?_ fun _ _ _ held => held
  intro existing middle looked held
  cases existing with
  | some ip => exact held
  | none =>
    refine (attachPrefix_found held).bind ?_ fun _ _ _ held => held.1
    rintro netPrefix final located ⟨held, found⟩
    refine (origin_calls attachEndpoint_sources held).bind ?_ fun _ _ _ held => held
    intro endpointId last placed held
    cases endpointId with
    | none => exact held
    | some id =>
      refine origin_calls ?_ held
      unfold insertAttachIp
      refine Action.Only.bind (call_only ?_ ?_) fun _ => Action.only_pure _
      · rintro _ ⟨⟩
        apply sourced netPrefix id
        rintro row rfl
        exact found row rfl
      · rintro _ ⟨⟩
        exact Action.Only.bind looks fun _ => Action.only_pure _

/-- An attach inserts the address of its message only. The prefix it is given
was looked up in the reference rows, or is absent. -/
theorem attachToInstances_held {message : Message}
    (sourced : ∀ request, handler.readAttach message = .ok (some request) →
      ∀ server netPrefix endpointId, (∀ row, netPrefix = some row →
        ∃ dc, db.rows (.datacenterSelectOne request.regionCode) = some dc ∧
          ipInNetPrefixes handler.runtime request.ipAddr
            (db.rows (.networkPrefixSelect dc.name)) = some row) →
      origin (attachIpColumns request server netPrefix endpointId))
    (held : Held origin db world) :
    (handler.attachToInstances message).Ensures (unsteady permits) (Original origin)
      (fun _ _ after => Held origin db after) state world := by
  rw [attachToInstances, Action.ensures_bind, Action.ensures_lift]
  cases read : handler.readAttach message with
  | error exc => exact held
  | ok found =>
    cases found with
    | none => exact held
    | some request =>
      refine (origin_calls (plainCall_only (.other rfl)) held).bind ?_
        fun _ _ _ held => held
      intro server middle selected held
      cases server with
      | none => exact held
      | some row =>
        cases row with
        | none => exact held
        | some view => exact attachTo_held (sourced request read view) held

/-! ## The message -/

/-- Every message inserts only what it asks for. By cases on the action; the
others insert no IP. -/
theorem dispatch_held {message : Message}
    (held : Held (Ip.Asked handler message db) db world) :
    (handler.dispatch message).Ensures (unsteady permits) (Original (Ip.Asked handler message db))
      (fun _ _ after => Held (Ip.Asked handler message db) db after) state world := by
  by_cases create : message.actionType = some "create"
  · rw [dispatch_create handler create]
    refine createInstances_held ?_ held
    intro content read card member addr asked row found endpointId used
    have offered : handler.offeredPrefixes message db =
        db.rows (.networkPrefixSelect (getDcName handler.runtime content.hostname)) := by
      rw [offeredPrefixes, create]
      simp only [read]
    refine ⟨?_, rfl, rfl, Or.inl ⟨row, ?_, rfl, used, rfl⟩⟩
    · rw [askedAddresses, create]
      simp only [read]
      exact List.mem_flatMap.mpr ⟨card, member, asked⟩
    · rw [offered]
      exact found
  by_cases attach : message.actionType = some "attach"
  · rw [dispatch_attach handler attach]
    refine attachToInstances_held ?_ held
    intro request read server netPrefix endpointId located
    refine ⟨?_, rfl, rfl, ?_⟩
    · rw [askedAddresses, attach]
      simp only [read]
      exact List.mem_singleton_self _
    · cases netPrefix with
      | none => exact Or.inr ⟨attach, rfl, rfl⟩
      | some row =>
        obtain ⟨dc, there, found⟩ := located row rfl
        refine Or.inl ⟨row, ?_, rfl, usedIpTypes server, rfl⟩
        rw [offeredPrefixes, attach]
        simp only [read, there]
        exact found
  · refine origin_calls ?_ held
    rw [dispatch]
    split
    · contradiction
    · exact deleteInstances_only (fun _ => .other rfl) (fun _ => .other rfl)
        fun _ => .other rfl
    · exact resizeInstances_only fun _ _ _ _ => .other rfl
    · contradiction
    · exact detachFromInstances_only (fun _ _ => .other rfl) fun _ => .other rfl
    · exact Action.only_pure _

end Calls

/-! ## Every delivery -/

/-- What a delivery asks for; an unreadable one asks for nothing. -/
def Delivery.Asks (handler : InstanceHandler) (db : Cmdb) (delivery : Delivery) (columns : Ip) :
    Prop :=
  ∃ message, delivery = .ok message ∧ columns.Asked handler message db

namespace MessageHandlerService

/-- Whatever is answered, the inserts of a delivery have their origin in it. -/
theorem handleMessage_original (worker : MessageHandlerService) {permits : Faults}
    (delivery : Delivery) (state : FieldErrors) (db : Cmdb) :
    (worker.handleMessage delivery).Ensures (unsteady permits)
      (Original (delivery.Asks worker.handler db))
      (fun _ _ after => Original (delivery.Asks worker.handler db) after) state ⟨db, []⟩ := by
  apply worker.handleMessage_delivered callRule_free
  rintro message rfl state world same original
  have own : (Delivery.Asks worker.handler db (.ok message)) =
      Ip.Asked worker.handler message db := by
    funext columns
    simp [Delivery.Asks]
  rw [own] at original ⊢
  exact (dispatch_held ⟨original, same⟩).mono fun _ _ _ held => held.original

end MessageHandlerService

/-! ## Stored addresses -/

namespace Cmdb

/-- A stored IP is an old one or the one of this call. By the call: no call
rewrites an IP, deletes only drop them, and only one inserts. -/
theorem effect_ip {db : Cmdb} {op : CmdbOp} {ip : Row Ip} (stored : ip ∈ (db.effect op).ips.rows) :
    ip ∈ db.ips.rows ∨ op = .ipInsertOne ip.data := by
  cases op with
  | endpointInsertOne columns =>
    rw [effect, insertEndpoint_ips] at stored
    exact Or.inl stored
  | serverDelete id => exact Or.inl ((db.ips.mem_keep _ ip).mp stored).1
  | ipDelete address uuid => exact Or.inl ((db.ips.mem_keep _ ip).mp stored).1
  | ipInsertOne columns =>
    rw [effect, insertIp] at stored
    split at stored
    · rcases (db.ips.mem_insert _ ip).mp stored with old | rfl
      · exact Or.inl old
      · exact Or.inr rfl
    · exact Or.inl stored
  | _ => exact Or.inl stored

/-- Every stored IP was there at the start, or has an origin. -/
def Sourced (db start : Cmdb) (origin : Ip → Prop) : Prop :=
  ∀ ip ∈ db.ips.rows, ip ∈ start.ips.rows ∨ origin ip.data

/-- So a store in which every IP is old or has an origin stays so. -/
theorem Sourced.effect {start db : Cmdb} {origin : Ip → Prop} {op : CmdbOp}
    (sourced : db.Sourced start origin) (inserts : op.HasOrigin origin) :
    (db.effect op).Sourced start origin := by
  intro ip stored
  rcases effect_ip stored with old | inserted
  · exact sourced ip old
  · exact Or.inr (inserts ip.data inserted)

end Cmdb

/-- Every IP in a state of an interleaving was there at the start, or a delivery asks for it. -/
theorem sourced_run {ι : Type} [DecidableEq ι] {worker : MessageHandlerService}
    {permits : Faults} {deliveries : ι → Delivery} {state : FieldErrors} {db : Cmdb}
    {last : Crowd ι} {rests : ι → Prog service (Except Exn Unit × FieldErrors)}
    (interleaved : Interleaved (crowding permits) (Crowd.start db)
      (deliveryTasks worker deliveries state) last rests) :
    last.db.Sourced db fun columns =>
      ∃ task, (deliveries task).Asks worker.handler db columns := by
  refine crowd_calling (fun store => store.Sourced db fun columns =>
      ∃ task, (deliveries task).Asks worker.handler db columns) ?_ (fun ip stored => Or.inl stored)
    (fun task => worker.handleMessage_original (deliveries task) state db) interleaved
  intro task before op sourced ruled
  exact sourced.effect fun columns same => ⟨task, ruled columns same⟩

end InstanceLifecycle
