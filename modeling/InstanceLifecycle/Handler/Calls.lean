import InstanceLifecycle.Handler.CmdbCall

/-!
# Operations and selectors shared by the actions

The calls several actions make: the server update, the removal of a server with
its rails, the prefix look-up, and the look-up of an attached IP. A look-up that
was swallowed as a permanent failure and one that found no row are the same
`None` to their callers, hence the `join`.
-/

namespace InstanceLifecycle

open Interaction Store

/-- A dictionary with one key. -/
def single (key : String) (value : Value) : Mutation := Dict.ofList [(key, value)]

/-- The mutation as the dict that a failed write is reported with. -/
def Mutation.subject (mutation : Mutation) : Value := .dict mutation.entries

/-- The payload of an endpoint insert as the dict it is reported with; the
optional keys are there only when they are sent. -/
def Endpoint.subject (endpoint : Endpoint) : Value :=
  .dict ([("server_id", .int endpoint.serverId), ("importer", Value.ofOption endpoint.importer),
      ("name", Value.ofOption endpoint.name)] ++
    (endpoint.notes.map (fun notes => ("notes", Value.str notes))).toList ++
    (endpoint.mac.map (fun mac => ("mac", Value.str mac))).toList)

/-- The payload of an IP insert as the dict it is reported with; the optional
keys are there only when they are sent. -/
def Ip.subject (ip : Ip) : Value :=
  .dict ((ip.name.map (fun name => ("name", Value.str name))).toList ++
    [("ip", .str ip.ip), ("importer", Value.ofOption ip.importer),
      ("provider", .dict [("name", Value.ofOption ip.provider)]),
      ("network_endpoint_id", .int ip.networkEndpointId)] ++
    (ip.prefixId.map (fun id => ("prefix_id", Value.int id))).toList ++
    (ip.type.map (fun type => ("type", Value.str type))).toList)

namespace InstanceHandler

variable (handler : InstanceHandler)

/-! ## The message -/

/-- `_extract_resources`: the resources of one type, or the complaint that the
message has no list of resources. -/
def extractResources (message : Message) (resourceType : String) : Except Exn (List Resource) :=
  match message.resources with
  | none => .error (.messageContractError ("message id=" ++
      handler.runtime.repr (Value.ofOption message.id) ++
      ": 'resources' is required and must be a list, got NoneType"))
  | some resources => .ok (resources.filter (fun resource =>
      decide (resource.resourceType = some resourceType)))

/-- The first resource of the type, if any. -/
def extractResource (message : Message) (resourceType : String) :
    Except Exn (Option Resource) :=
  (handler.extractResources message resourceType).map List.head?

/-! ## Server rows -/

/-- `server.update`; an update that matches no row is only logged. -/
def updateServer (mutation : Mutation) (allOf : List ServerKey) (options : CallOptions) :
    Run (Option (List Nat)) :=
  handler.cmdbCall { options with
      operation := handler.serverUpdateName
      subject := some (Mutation.subject mutation) }
    (cmdb (.serverUpdate allOf mutation))

/-- Delete the rails one by one; an error of any of them ends the removal. -/
def deleteRails : List Nat → Run Unit
  | [] => pure ()
  | rail :: rest => do
      let _ ← handler.cmdbCall { field := "rails.delete", raiseOnDataError := true }
        (cmdb (.railsDelete rail))
      deleteRails rest

/-- Delete the found servers one by one, each after its rails. -/
def deleteServers : List ServerItem → Run Unit
  | [] => pure ()
  | server :: rest => do
      handler.deleteRails server.rails
      let _ ← handler.cmdbCall { field := "server.delete", raiseOnDataError := true }
        (cmdb (.serverDelete server.id))
      deleteServers rest

/-- The `_or` condition; an empty or missing part is left out. -/
def removalKeys (uuid hostname : Option String) : List ServerKey :=
  (match uuid with
    | some value => if value ≠ "" then [.uuid (some value)] else []
    | none => []) ++
  (match hostname with
    | some value => if value ≠ "" then [.hostname value] else []
    | none => [])

/-- Delete every server row with this uuid or hostname, and their rails. -/
def removeServer (uuid : Option String) (hostname : Option String := some "") : Run Bool := do
  let servers ← handler.cmdbCall { field := "server.select", raiseOnDataError := true }
    (cmdb (.serverSelect (removalKeys uuid hostname)))
  match servers.getD [] with
  | [] => pure false
  | found => do
      handler.deleteServers found
      pure true

/-! ## Addresses -/

/-- The prefix whose network contains the address. -/
def getNetPrefixByIp (ipAddr dcName : String) (errors : Bool) : Run (Option NetworkPrefix) := do
  let vlans ← handler.cmdbCall { field := "network_prefix", errors := errors }
    (cmdb (.networkPrefixSelect dcName))
  match vlans with
  | none => pure none
  | some vlans => pure (ipInNetPrefixes handler.runtime ipAddr vlans)

/-- The IP row attached to that server, or `none`. -/
def findAttachedIp (ipAddr : String) (hostUuid : Option String) : Run (Option AttachedIp) := do
  let row ← handler.cmdbCall { field := "ip.select_one" } (cmdb (.ipSelectAttached ipAddr hostUuid))
  pure row.join

/-! ## Selectors -/

/-- The re-select that looks for the row of an endpoint insert under one of its
keys. -/
def endpointSelector (serverId : Nat) (key : EndpointKey) : Run (Option EndpointRef) :=
  cmdb (.endpointSelectOne serverId key)

/-- The re-select that looks for the row of an IP insert under its address,
endpoint and prefix. -/
def ipSelector (ipAddr : String) (networkEndpointId prefixId : Nat) : Run (Option Nat) :=
  cmdb (.ipSelectOne ipAddr networkEndpointId prefixId)

/-- The attached IP stands for the inserted row; only its id is used. -/
def attachIpSelector (ipAddr : String) (hostUuid : Option String) : Run (Option Nat) := do
  let row ← handler.findAttachedIp ipAddr hostUuid
  pure (row.map AttachedIp.id)

/-- The endpoint to reuse after an ambiguous insert. The flag is the content of
`recovered`: the IP itself turned up, on the endpoint that is handed back. -/
def attachEndpointSelector (ipAddr : String) (hostUuid : Option String) (serverId : Nat)
    (name : String) : Run (Option (EndpointRef × Bool)) := do
  let existing ← handler.findAttachedIp ipAddr hostUuid
  match existing with
  | some row => pure (some (row.networkEndpoint, true))
  | none => do
      let endpoint ← cmdb (.endpointSelectOne serverId (.name name))
      pure (endpoint.map (fun endpoint => (endpoint, false)))

end InstanceHandler

end InstanceLifecycle
