import InstanceLifecycle.Handler.Create

/-!
# The other actions and the dispatch

Attach reads the server once and works on that snapshot: it reuses the endpoint
with the message's mac, else an endpoint without mac and without addresses, else
inserts a new one under the lowest free bond name, and then inserts the IP.
-/

namespace InstanceLifecycle

open Interaction Store

/-- `resource['search_field']`: the address of an attach, and what resize and
detach read for their log lines. Without the key all three raise. -/
def Resource.searchFieldItem (resource : Resource) : Except Exn String :=
  match resource.searchField with
  | none => .error (.keyError "search_field")
  | some text => .ok text

namespace InstanceHandler

variable (handler : InstanceHandler)

/-- Handle a delete: remove the server rows with the instance's uuid. A message
without an instance does nothing. -/
def deleteInstances (message : Message) : Run Unit := do
  match ← Action.lift (handler.extractResource message "instance") with
  | none => pure ()
  | some resource => do
      let instanceId ← Action.lift (resource.resourceId.item "resource_id")
      let _ ← handler.removeServer instanceId
      pure ()

/-- `message_body['total_price'].get('price_per_month')`, if the key is present.
A null under the key raises. -/
def resizePrice (message : Message) : Except Exn (Option Value) :=
  match message.totalPrice with
  | .absent => .ok none
  | .null => noneError "get"
  | .value totalPrice => .ok (some ((totalPrice.get? "price_per_month").getD .null))

/-- The new flavor, if `action_data` names one that is not empty. -/
def resizeFlavor (message : Message) : Option String :=
  match message.actionData.get with
  | some actionData => if truthy actionData.flavorId then actionData.flavorId else none
  | none => none

/-- Handle a resize: the monthly payment and the flavor, whichever the message
carries, each in an update of its own. -/
def resizeInstances (message : Message) : Run Unit := do
  match ← Action.lift (handler.extractResource message "instance") with
  | none => pure ()
  | some resource => do
      let _ ← Action.lift resource.searchFieldItem
      let instanceId ← Action.lift (resource.resourceId.item "resource_id")
      match ← Action.lift (resizePrice message) with
      | none => pure ()
      | some price => do
          let _ ← handler.updateServer (single "server_monthly_payment" price)
            [.uuid instanceId]
            { field := "server_monthly_payment", raiseOnDataError := true }
          pure ()
      match resizeFlavor message with
      | none => pure ()
      | some flavorName => do
          let _ ← handler.updateServer (single "flavor" (.dict [("name", .str flavorName),
              ("region_code", Value.ofOption message.regionId.get)])) [.uuid instanceId]
            { field := "flavor", raiseOnDataError := true }
          pure ()

/-! ## Attach -/

/-- What an attach takes out of its message, before it makes any call. -/
structure AttachRequest where
  regionCode : Option String
  hostUuid : Option String
  ipAddr : String
  mac : Option String
  networkName : Option String

/-- `None` means an instance or a port resource is missing. The address is the
port's `search_field`. -/
def readAttach (message : Message) : Except Exn (Option AttachRequest) := do
  let inst ← handler.extractResource message "instance"
  let port ← handler.extractResource message "port"
  let network ← handler.extractResource message "network"
  match inst, port with
  | some inst, some port => do
      let regionCode ← message.regionId.item "region_id"
      let hostUuid ← inst.resourceId.item "resource_id"
      let ipAddr ← port.searchFieldItem
      .ok (some {
        regionCode := regionCode
        hostUuid := hostUuid
        ipAddr := ipAddr
        mac := port.resourceBody.get.bind (fun body => body.macAddress.get)
        networkName := network.bind Resource.searchField })
  | _, _ => .ok none

/-- The endpoint with the message's mac, else the first without mac and addresses. -/
def chooseEndpoint (mac : Option String) (endpoints : List EndpointView) : Option EndpointView :=
  (endpoints.find? (fun endpoint => truthy mac && decide (endpoint.mac = mac))).or
    (endpoints.find? (fun endpoint => endpoint.ips.isEmpty && !truthy endpoint.mac))

/-- The columns to fill in on a reused endpoint: those the message has and the
endpoint lacks. -/
def endpointUpdates (request : AttachRequest) (endpoint : EndpointView) : EndpointUpdate where
  mac := if truthy request.mac && !truthy endpoint.mac then request.mac else none
  notes := if truthy request.networkName && !truthy endpoint.notes then request.networkName
    else none

/-- The update as it appears in an error message. -/
def EndpointUpdate.subject (updates : EndpointUpdate) : Value :=
  .dict ((updates.mac.map (fun mac => ("mac", Value.str mac))).toList ++
    (updates.notes.map (fun notes => ("notes", Value.str notes))).toList)

/-- Fill the missing columns of a reused endpoint, and make no call if there are
none. -/
def reuseEndpoint (request : AttachRequest) (endpoint : EndpointView) : Run Unit :=
  let updates := endpointUpdates request endpoint
  if updates.mac.isNone && updates.notes.isNone then pure ()
  else do
    let _ ← handler.cmdbCall { field := "network_endpoint.update", raiseOnDataError := true }
      (cmdb (.endpointUpdate endpoint.id updates))
    pure ()

/-- The endpoint an attach inserts, under the lowest free bond name of the
server it has read. -/
def attachColumns (request : AttachRequest) (server : ServerView) : Endpoint where
  serverId := server.id
  importer := some importerName
  name := some (nextBondName (server.endpoints.map EndpointView.name))
  notes := if truthy request.networkName then request.networkName else none
  mac := if truthy request.mac then request.mac else none

/-- Insert the endpoint under the lowest free bond name of the snapshot. -/
def insertAttachEndpoint (request : AttachRequest) (server : ServerView) :
    Run (Option (EndpointRef × Bool)) :=
  let columns := attachColumns request server
  handler.cmdbCall
    { field := "network_endpoint.insert", raiseOnDataError := true, subject := some columns.subject }
    (do
      let endpoint ← cmdb (.endpointInsertOne columns)
      pure (endpoint, false))
    (some (handler.attachEndpointSelector request.ipAddr request.hostUuid server.id
      (nextBondName (server.endpoints.map EndpointView.name))))

/-- The types read back from the snapshot, of all IPs of the server. -/
def usedIpTypes (server : ServerView) : List (Option String) :=
  server.endpoints.flatMap (fun endpoint => endpoint.ips.map IpView.type)

/-- The IP an attach inserts. Without a prefix it carries neither prefix nor
type. -/
def attachIpColumns (request : AttachRequest) (server : ServerView)
    (netPrefix : Option NetworkPrefix) (endpointId : Nat) : Ip where
  name := none
  ip := request.ipAddr
  importer := some importerName
  provider := some providerName
  networkEndpointId := endpointId
  prefixId := netPrefix.map NetworkPrefix.id
  type := netPrefix.map (fun netPrefix => resolveIpType netPrefix.type (usedIpTypes server))

/-- Insert the IP; the selector looks for the attached address, which needs no
prefix. -/
def insertAttachIp (request : AttachRequest) (server : ServerView)
    (netPrefix : Option NetworkPrefix) (endpointId : Nat) : Run Unit := do
  let columns := attachIpColumns request server netPrefix endpointId
  let _ ← handler.cmdbCall
    { field := "ip.insert", raiseOnDataError := true, subject := some columns.subject }
    (cmdb (.ipInsertOne columns))
    (some (handler.attachIpSelector request.ipAddr request.hostUuid))
  pure ()

/-- The prefix of the address in the datacenter of the region. A failed or empty
look-up degrades to an IP without prefix. -/
def attachPrefix (request : AttachRequest) : Run (Option NetworkPrefix) := do
  let dc ← handler.cmdbCall { field := "datacenter.select_one" }
    (cmdb (.datacenterSelectOne request.regionCode))
  match dc.join with
  | none => pure none
  | some dc => handler.getNetPrefixByIp request.ipAddr dc.name false

/-- The endpoint for the address. `none` means that the IP turned up meanwhile. -/
def attachEndpoint (request : AttachRequest) (server : ServerView) : Run (Option Nat) :=
  match chooseEndpoint request.mac server.endpoints with
  | some endpoint => do
      handler.reuseEndpoint request endpoint
      pure (some endpoint.id)
  | none => do
      match ← handler.insertAttachEndpoint request server with
      | none => Action.raise (.otherException "raise_on_data_error=True rules out None")
      | some (endpoint, recovered) => pure (if recovered then none else some endpoint.id)

/-- The attach of one address to a server that was found. -/
def attachTo (request : AttachRequest) (server : ServerView) : Run Unit := do
  match ← handler.findAttachedIp request.ipAddr request.hostUuid with
  | some _ => pure ()
  | none => do
      let netPrefix ← handler.attachPrefix request
      match ← handler.attachEndpoint request server with
      | none => pure ()
      | some endpointId => handler.insertAttachIp request server netPrefix endpointId

/-- Handle an attach. A message without an instance or a port does nothing, and
neither does one whose server is unknown. -/
def attachToInstances (message : Message) : Run Unit := do
  match ← Action.lift (handler.readAttach message) with
  | none => pure ()
  | some request => do
      let server ← handler.cmdbCall { field := "server.select_one", raiseOnDataError := true }
        (cmdb (.serverSelectOneByUuid request.hostUuid))
      match server.join with
      | none => pure ()
      | some server => handler.attachTo request server

/-! ## Detach -/

/-- The address and the uuid of the host; `None` when there is nothing to do. -/
def readDetach (message : Message) : Except Exn (Option (String × Option String)) := do
  let inst ← handler.extractResource message "instance"
  match message.actionData.get.bind ActionData.ipAddress, inst with
  | some ipAddr, some inst => do
      let hostUuid ← inst.resourceId.item "resource_id"
      let _ ← inst.searchFieldItem
      .ok (some (ipAddr, hostUuid))
  | _, _ => .ok none

/-- Handle a detach: delete the IP, then the endpoints of the server that have
no IPs. -/
def detachFromInstances (message : Message) : Run Unit := do
  match ← Action.lift (handler.readDetach message) with
  | none => pure ()
  | some (ipAddr, hostUuid) => do
      let _ ← handler.cmdbCall { field := "ip.delete", raiseOnDataError := true }
        (cmdb (.ipDelete ipAddr hostUuid))
      let _ ← handler.cmdbCall { field := "network_endpoint.delete", raiseOnDataError := true }
        (cmdb (.endpointDeleteWithoutIps hostUuid))
      pure ()

/-! ## Dispatch -/

/-- The log line that starts the processing of a message. It is an event of the
model, so that attempts can be told apart. -/
def logStarted (message : Message) : Run Unit :=
  Action.request (S := service) (.started message) (fun _ => .ok ())

/-- The action of the message; an unrecognized `action_type` is ignored. -/
def dispatch (message : Message) : Run Unit :=
  match message.actionType with
  | some "create" => handler.createInstances message
  | some "delete" => handler.deleteInstances message
  | some "resize" => handler.resizeInstances message
  | some "attach" => handler.attachToInstances message
  | some "detach" => handler.detachFromInstances message
  | _ => pure ()

/-- Route one message to its action, after logging that it starts. -/
def processMessage (message : Message) : Run Unit := do
  logStarted message
  handler.dispatch message

/-- A create is dispatched to its action. -/
theorem dispatch_create {message : Message} (create : message.actionType = some "create") :
    handler.dispatch message = handler.createInstances message := by
  simp [dispatch, create]

/-- An attach is dispatched to its action. -/
theorem dispatch_attach {message : Message} (attach : message.actionType = some "attach") :
    handler.dispatch message = handler.attachToInstances message := by
  simp [dispatch, attach]

/-- A detach is dispatched to its action. -/
theorem dispatch_detach {message : Message} (detach : message.actionType = some "detach") :
    handler.dispatch message = handler.detachFromInstances message := by
  simp [dispatch, detach]

end InstanceHandler

end InstanceLifecycle
