import InstanceLifecycle.Handler.Calls

/-!
# The create action

Reading the message into a context, resolving the server fields, and writing the
rows: the server row is deleted and inserted again, its fields are written in one
batch or replayed one by one, and every card becomes an endpoint with its IPs.
-/

namespace InstanceLifecycle

open Interaction Store

/-! ## Tags -/

/-- The `cmdb.*` entries of the metadata without their prefix, which is the
first five characters. -/
def cmdbTagsOf (metadata : Dict String Value) : Dict String Value :=
  Dict.ofList ((metadata.entries.filter (fun entry => startsWith entry.1 "cmdb.")).map
    (fun entry => (dropChars entry.1 5, entry.2)))

/-- The state to set at the end, which the tag `state` may replace. -/
def readyStateOf (tags : Dict String Value) : Value :=
  (tags.get? "state").getD (.str defaultReadyState)

/-- The tags without `state` and its dotted forms. The first is popped by the
handler, the others are filtered out. -/
def withoutState (tags : Dict String Value) : Dict String Value :=
  (tags.erase "state").filterKeys (fun key => !startsWith key "state.")

/-- The tags an ordinary machine may set: those whose head is on the whitelist. -/
def whitelisted (tags : Dict String Value) : Dict String Value :=
  tags.filterKeys (fun key => decide (splitHead '.' key ∈ cmdbFieldsWhitelist))

/-- The tags that belong to a field, by its exact name or a dotted form of it. -/
def tagFields (ctx : CreateContext) (name : String) : Dict String Value :=
  ctx.cmdbTags.filterKeys (fun key => decide (key = name) || startsWith key (name ++ "."))

namespace InstanceHandler

variable (handler : InstanceHandler)

/-! ## Reading the message -/

/-- The fields a create cannot do without. Both are looked at, so the message of
the error names all that are missing. -/
def validateCreateContract (instanceData : ResourceBody) (messageId : Option String) :
    Except Exn Unit :=
  let missing := (if instanceData.name.get.isNone then ["name"] else []) ++
    (if instanceData.id.get.isNone then ["id"] else [])
  if missing.isEmpty then .ok ()
  else .error (.messageContractError ("message id=" ++
    handler.runtime.repr (Value.ofOption messageId) ++
    ": the instance resource_body is missing required field(s): " ++ ", ".intercalate missing))

/-- Resolve the `cap_tenant.name` tag; the tag itself is consumed. A name that
the CMDB does not know is recorded, and the create goes on without a cap tenant. -/
def resolveCapTenant (tags : Dict String Value) : Run (Dict String Value × Option CapTenant) :=
  match tags.get? capTenantTag with
  | none => pure (tags, none)
  | some name => do
      let resp ← handler.cmdbCall
        { field := "cap_tenant", errors := true, raiseOnDataError := true }
        (cmdb (.capTenantSelectOne name))
      match resp.join with
      | some row => pure (tags.erase capTenantTag, some row)
      | none => do
          Action.modify (fun errors => errors.add "cap_tenant"
            ("Rabbit msg has tag cap_tenant.name, but cap_tenant class doesnt have record with name "
              ++ handler.runtime.repr name))
          pure (tags.erase capTenantTag, none)

/-- The cards of the message, read before any call is made. A port without body
raises here. -/
def readHostNetworks (message : Message) (instanceData : ResourceBody) :
    Except Exn (List HostNetwork) := do
  let ports ← handler.extractResources message "port"
  let bodies ← ports.mapM (fun port => port.resourceBody.item "resource_body")
  buildHostNetworks (instanceData.addresses.get.getD []) bodies

/-- `instance_data['metadata'].items()`, which raises when the key is absent and
when its value is null. -/
def readMetadata (instanceData : ResourceBody) : Except Exn (Dict String Value) := do
  match ← instanceData.metadata.item "metadata" with
  | none => noneError "items"
  | some metadata => .ok metadata

/-- `instance['resource_body']` with its required fields. The last case is
excluded by the check before it. -/
def readInstance (message : Message) (resource : Resource) :
    Except Exn (ResourceBody × String × String) := do
  match ← resource.resourceBody.item "resource_body" with
  | none => noneError "get"
  | some instanceData => do
      handler.validateCreateContract instanceData message.id
      match instanceData.name.get, instanceData.id.get with
      | some hostname, some instanceId => .ok (instanceData, hostname, instanceId)
      | _, _ => noneError "name"

/-- Parse one create message; without an instance resource there is no context.
The tags count as they are for a node of a cluster or a machine of a cap tenant,
and by the whitelist for all others. -/
def buildCreateContext (message : Message) : Run (Option CreateContext) := do
  match ← Action.lift (handler.extractResource message "instance") with
  | none => pure none
  | some resource => do
      let (instanceData, hostname, instanceId) ← Action.lift (handler.readInstance message resource)
      let hostNetworks ← Action.lift (handler.readHostNetworks message instanceData)
      let resourceCloud ← handler.cmdbCall
        { field := "resource_cloud", errors := true, raiseOnDataError := true }
        (cmdb (.resourceCloudSelectOne (message.projectId.getD "None")))
      let tags ← Action.lift (readMetadata instanceData)
      let isK8sNode := tags.contains k8sNodeTag
      let (cmdbTags, capTenant) ← handler.resolveCapTenant (withoutState (cmdbTagsOf tags))
      pure (some {
        message := message
        instanceData := instanceData
        hostNetworks := hostNetworks
        hostname := hostname
        dcName := getDcName handler.runtime hostname
        instanceId := instanceId
        regionId := message.regionId.get
        projectId := message.projectId
        cmdbTags := if capTenant.isSome || isK8sNode then cmdbTags else whitelisted cmdbTags
        resourceCloud := resourceCloud.join
        capTenant := capTenant
        readyState := readyStateOf (cmdbTagsOf tags) })

/-! ## Resolving the server fields -/

/-- Is the field a plain column rather than a reference to another class? -/
def isSimpleField (field : String) : Bool := !decide (field ∈ handler.serverRefs)

/-- One tag as a mutation entry: dotted keys and references become lookups. -/
def tagMutation (key : String) (value : Value) : String × Value :=
  if key.toList.contains '.' then
    (splitHead '.' key, .dict [(splitRest '.' key, value)])
  else if key ≠ "" && handler.isSimpleField key then (key, value)
  else (key, .dict [(cmdbDefaultClassKey key, value)])

/-- Turn tags into a mutation. Two tags for one column leave the later one. -/
def tags2cmdbField (data : Dict String Value) : Mutation :=
  Dict.ofList (data.entries.map (fun entry => handler.tagMutation entry.1 entry.2))

/-- The datacenter, by the prefix of the hostname. -/
def resolveDc (ctx : CreateContext) : Except Exn (Option Mutation) :=
  .ok (some (single "dc" (.dict [("name", .str ctx.dcName)])))

/-- `resource_cloud['id']` raises when the row lacks the column, which the
select does not ask for. -/
def resolveCloudProject (ctx : CreateContext) : Except Exn (Option Mutation) :=
  match ctx.resourceCloud with
  | none => .ok none
  | some row =>
      match row.id with
      | none => .error (.keyError "id")
      | some id => .ok (some (single "cloud_resource_project_id" id))

/-- The tenant, by the project id in the spelling of `str`. -/
def resolveTenant (ctx : CreateContext) : Except Exn (Option Mutation) :=
  .ok (some (single "tenant" (.dict [("tenant_code", .str (ctx.projectId.getD "None"))])))

/-- The owner from the cap tenant, then the tags, then a default. -/
def resolveOwner (ctx : CreateContext) : Except Exn (Option Mutation) :=
  match ctx.capTenant with
  | some row => .ok (some (single "owner_id" row.ownerId))
  | none =>
      if (tagFields ctx "owner").entries.isEmpty then
        .ok (some (single "owner" (.dict [("name", .str defaultResponsibleName)])))
      else .ok (some (handler.tags2cmdbField (tagFields ctx "owner")))

/-- The responsible person from the cap tenant, then the tags, the resource
cloud, a default. The cap-tenant rung reads `owner_id`: a cap tenant has no
responsible. -/
def resolveResponsible (ctx : CreateContext) : Except Exn (Option Mutation) :=
  match ctx.capTenant with
  | some row => .ok (some (single "responsible_id" row.ownerId))
  | none =>
      if !(tagFields ctx "responsible").entries.isEmpty then
        .ok (some (handler.tags2cmdbField (tagFields ctx "responsible")))
      else
        match ctx.resourceCloud with
        | some row =>
            if row.responsibleId.truthy then .ok (some (single "responsible_id" row.responsibleId))
            else .ok (some (single "responsible" (.dict [("name", .str defaultResponsibleName)])))
        | none => .ok (some (single "responsible" (.dict [("name", .str defaultResponsibleName)])))

/-- `ctx.instance['flavor']['original_name']`, read only when the fields are
resolved. -/
def flavorName (instanceData : ResourceBody) : Except Exn (Option String) := do
  match ← instanceData.flavor.item "flavor" with
  | none => noneError "subscript"
  | some flavor => flavor.originalName.item "original_name"

/-- The flavor by its name and region. -/
def resolveFlavor (ctx : CreateContext) : Except Exn (Option Mutation) := do
  let name ← flavorName ctx.instanceData
  .ok (some (single "flavor" (.dict [("name", Value.ofOption name),
    ("region_code", Value.ofOption ctx.regionId)])))

/-- An absent, null or empty `total_price` writes nothing. One without a monthly
price writes null. -/
def resolvePayment (ctx : CreateContext) : Except Exn (Option Mutation) :=
  match ctx.message.totalPrice.get with
  | none => .ok none
  | some totalPrice =>
      if totalPrice.entries.isEmpty then .ok none
      else .ok (some (single "server_monthly_payment"
        ((totalPrice.get? "price_per_month").getD .null)))

/-- The cost center from the cap tenant, then the tags, the account of the
resource cloud, a default. -/
def resolveCostCenter (ctx : CreateContext) : Except Exn (Option Mutation) :=
  match ctx.capTenant with
  | some row => .ok (some (single "cost_center_id" row.costCenterId))
  | none =>
      if !(tagFields ctx "cost_center").entries.isEmpty then
        .ok (some (handler.tags2cmdbField (tagFields ctx "cost_center")))
      else
        match ctx.resourceCloud.bind ResourceCloud.account with
        | some account =>
            if account.costCenterId.truthy then
              .ok (some (single "cost_center_id" account.costCenterId))
            else .ok (some (single "cost_center" (.dict [("cc", .str defaultCostCenterCc)])))
        | none => .ok (some (single "cost_center" (.dict [("cc", .str defaultCostCenterCc)])))

/-- In the order the fields are written; a name is also the tag its step consumes. -/
def createSteps : List FieldStep :=
  [ { name := "dc", resolve := fun _ ctx => resolveDc ctx },
    { name := "cloud_resource_project", resolve := fun _ ctx => resolveCloudProject ctx },
    { name := "tenant", resolve := fun _ ctx => resolveTenant ctx, markStateError := false },
    { name := "owner", resolve := resolveOwner },
    { name := "responsible", resolve := resolveResponsible },
    { name := "flavor", resolve := fun _ ctx => resolveFlavor ctx, markStateError := false,
      includeInStatusDetails := false },
    { name := "server_monthly_payment", resolve := fun _ ctx => resolvePayment ctx },
    { name := "cost_center", resolve := resolveCostCenter } ]

/-- Tags no step consumed, by the head of their key. They are written one update
per tag. -/
def leftoverTags (ctx : CreateContext) : Dict String Value :=
  ctx.cmdbTags.filterKeys (fun key =>
    !decide (splitHead '.' key ∈ createSteps.map FieldStep.name))

/-- The writes of the steps in their order. A step that resolves to nothing adds
no write, and one that raises ends the list. -/
def resolveSteps (ctx : CreateContext) : List FieldStep → Except Exn (List FieldWrite)
  | [] => .ok []
  | step :: rest => do
      let mutation ← step.resolve handler ctx
      let writes ← resolveSteps ctx rest
      match mutation with
      | none => .ok writes
      | some mutation =>
          .ok (⟨step.name, mutation, step.markStateError, step.includeInStatusDetails⟩ :: writes)

/-- Every field write of one create, in the order they are written. -/
def createWrites (ctx : CreateContext) : Except Exn (List FieldWrite) := do
  let writes ← handler.resolveSteps ctx createSteps
  .ok (writes ++ (leftoverTags ctx).entries.map (fun entry =>
    { field := entry.1, mutation := handler.tags2cmdbField (single entry.1 entry.2) }))

/-- One mutation out of many, merged shallowly; the last write of a key wins. -/
def mergeWrites (writes : List FieldWrite) : Mutation :=
  writes.foldl (fun batch write => batch.merge write.mutation) .empty

/-! ## Writing the rows -/

/-- The minimal row that a create inserts. Its type is read off the hostname,
and the message is kept without its sensitive part. -/
def serverColumns (ctx : CreateContext) : Mutation :=
  Dict.ofList [("hostname", .str ctx.hostname), ("uuid", .str ctx.instanceId),
    ("state", .str "setup"), ("importer", .str importerName),
    ("type", .str (getInstancesType handler.runtime ctx.hostname)),
    ("raw_info", .str (handler.runtime.dumps (removeSensitiveData ctx.message)))]

/-- Remove what is registered under this hostname or uuid and insert a fresh row;
an ambiguous insert is looked for by its hostname. -/
def recreateServerRow (ctx : CreateContext) : Run (Option Nat) := do
  let _ ← handler.removeServer (some ctx.instanceId) (some ctx.hostname)
  handler.cmdbCall
    { field := "server.insert", raiseOnDataError := true,
      subject := some (Mutation.subject (handler.serverColumns ctx)) }
    (cmdb (.serverInsertOne (handler.serverColumns ctx)))
    (some (cmdb (.serverSelectOneByHostname ctx.hostname)))

/-- The condition of every update of a create, by hostname and uuid together. -/
def createWhere (ctx : CreateContext) : List ServerKey :=
  [.hostname ctx.hostname, .uuid (some ctx.instanceId)]

/-- The updates one by one, each under the name and the flags of its field. A
permanent failure is recorded and the next field follows. -/
def replayWrites (ctx : CreateContext) : List FieldWrite → Run Unit
  | [] => pure ()
  | write :: rest => do
      let _ ← handler.updateServer write.mutation (createWhere ctx)
        { field := write.field, errors := true, markStateError := write.markStateError,
          includeInStatusDetails := write.includeInStatusDetails }
      replayWrites ctx rest

/-- One batched update, replayed field by field if it fails permanently. A batch
that matched no row counts as done, and so does not start the replay. -/
def writeCreateFields (ctx : CreateContext) : Run Unit := do
  let writes ← Action.lift (handler.createWrites ctx)
  if (mergeWrites writes).entries.isEmpty then
    Action.raise (.messageContractError ("message id=" ++
      handler.runtime.repr (Value.ofOption ctx.message.id) ++ ", hostname=" ++
      handler.runtime.repr (.str ctx.hostname) ++ ": unexpected anomaly —  no field resolved a " ++
      "mutation and no leftover cmdb tags remained — nothing to write for this instance"))
  else do
    match ← handler.updateServer (mergeWrites writes) (createWhere ctx) { field := "batch" } with
    | some _ => pure ()
    | none => handler.replayWrites ctx writes

/-- One IP for each address of a card, whose endpoint row is given. The types
used so far are handed on to the next card. -/
def persistAddresses (ctx : CreateContext) (endpointId : Nat) (used : List (Option String)) :
    List String → Run (List (Option String))
  | [] => pure used
  | addr :: rest => do
      match ← handler.getNetPrefixByIp addr ctx.dcName true with
      | none => do
          Action.modify (fun errors => errors.add "network_prefix" ("network_prefix for ip " ++
            handler.runtime.repr (.str addr) ++ " not found. Skipping ip creation"))
          persistAddresses ctx endpointId used rest
      | some netPrefix => do
          let ipType := resolveIpType netPrefix.type used
          let columns : Ip := {
            name := some addr, ip := addr, importer := some importerName,
            provider := some providerName, networkEndpointId := endpointId,
            prefixId := some netPrefix.id, type := some ipType }
          let _ ← handler.cmdbCall
            { field := "ip", errors := true, subject := some columns.subject }
            (cmdb (.ipInsertOne columns))
            (some (ipSelector addr endpointId netPrefix.id))
          persistAddresses ctx endpointId (used ++ [some ipType]) rest

/-- The endpoint name of a card: real cards own the number of their order, a
placeholder takes the lowest free one. -/
def endpointName (takenNames : List String) (card : HostNetwork) : String :=
  if card.placeholder then nextBondName (takenNames.map some)
  else "bond" ++ toString (card.order - 1)

/-- The key that re-selects the card's row: the mac of a placeholder, the name
of any other card. -/
def endpointKey (takenNames : List String) (card : HostNetwork) : EndpointKey :=
  if card.placeholder then .mac card.mac else .name (endpointName takenNames card)

/-- The endpoint that is inserted for a card. Name and mac of the card are left
out when they are absent. -/
def cardColumns (serverId : Nat) (takenNames : List String) (card : HostNetwork) : Endpoint where
  serverId := serverId
  importer := some importerName
  name := some (endpointName takenNames card)
  notes := card.name
  mac := card.mac

/-- The names taken after a card: only a placeholder's name is new. -/
def takeName (takenNames : List String) (card : HostNetwork) : List String :=
  if card.placeholder then takenNames ++ [endpointName takenNames card] else takenNames

/-- The names of the real cards, collected before the loop, so that no
placeholder takes a number that a later card needs. -/
def realNames (hostNetworks : List HostNetwork) : List String :=
  (hostNetworks.filter (fun card => !card.placeholder)).map
    (fun card => "bond" ++ toString (card.order - 1))

/-- Insert the endpoint of a card, or find it again after a lost reply. A
permanent failure is recorded and leaves no row. -/
def insertCard (serverId : Nat) (takenNames : List String) (card : HostNetwork) :
    Run (Option EndpointRef) :=
  handler.cmdbCall
    { field := "network_endpoint", errors := true,
      subject := some (cardColumns serverId takenNames card).subject }
    (cmdb (.endpointInsertOne (cardColumns serverId takenNames card)))
    (some (endpointSelector serverId (endpointKey takenNames card)))

/-- The loop over the cards. The names taken and the types used grow from card
to card; a card without its endpoint is skipped, but its name stays taken. -/
def persistCards (ctx : CreateContext) (serverId : Nat) (takenNames : List String)
    (used : List (Option String)) : List HostNetwork → Run Unit
  | [] => pure ()
  | card :: rest => do
      match ← handler.insertCard serverId takenNames card with
      | none => persistCards ctx serverId (takeName takenNames card) used rest
      | some endpoint => do
          let used ← handler.persistAddresses ctx endpoint.id used card.addresses
          persistCards ctx serverId (takeName takenNames card) used rest

/-- Write one endpoint per card and one IP per address, with no types used at
the start. -/
def persistNetEndpoints (ctx : CreateContext) (newServerId : Nat) : Run Unit :=
  handler.persistCards ctx newServerId (realNames ctx.hostNetworks) [] ctx.hostNetworks

/-- What the final update writes: the error state with its details, or the ready
state. -/
def finalState (ctx : CreateContext) (errors : FieldErrors) : Mutation :=
  if errors.failed then
    Dict.ofList [("state", .str errorState), ("status_details", .str errors.statusDetails)]
  else single "state" ctx.readyState

/-- The final update. A data error is recorded and not repeated; a transport
error leaves the message to be run again. -/
def setFinalState (ctx : CreateContext) : Run Unit := do
  let errors ← Action.get
  let _ ← handler.updateServer (finalState ctx errors) (createWhere ctx)
    { field := "state", errors := true }
  pure ()

/-- Handle a create. A permanent failure of the re-creation ends the action
normally; whatever else is raised leaves it. -/
def createInstances (message : Message) : Run Unit := do
  Action.modify (fun _ => {})
  match ← handler.buildCreateContext message with
  | none => pure ()
  | some ctx => do
      match ← Action.attempt (handler.recreateServerRow ctx) with
      | .error exc => if exc.isCmdbException then pure () else Action.raise exc
      | .ok none => Action.lift (noneError "subscript")
      | .ok (some newServerId) => do
          handler.writeCreateFields ctx
          handler.persistNetEndpoints ctx newServerId
          handler.setFinalState ctx

end InstanceHandler

end InstanceLifecycle
