import InstanceLifecycle.Message
import InstanceLifecycle.Interaction.Action

/-!
# The CMDB calls of the service

One constructor for each kind of call the handlers make, with the conditions and
the payload it carries, and the type of the rows it answers with. A call answers
with rows or with an exception of the client; the client never raises the
service's own exceptions, so its errors have a type of their own.

The broker side of a delivery is part of the same interface: the start of one
`process_message` (its first log line), and the `ack` and `nack` of the message.
-/

namespace InstanceLifecycle

open Interaction Store

/-- A mutation: the columns to write with their values. -/
abbrev Mutation := Dict String Value

/-- What a failing client call raises, by its kind: of transport, of the data, a
bare `KeyError`, or anything else. -/
inductive CallError where
  | transport (text : String)
  | data (text : String)
  | key (text : String)
  | other (text : String)
deriving DecidableEq

/-- The exception the handler sees. -/
def CallError.toExn : CallError → Exn
  | .transport text => .requestException text
  | .data text => .cmdbError text
  | .key text => .keyError text
  | .other text => .otherException text

/-- Is the failure one of transport, where the call may have taken effect? -/
def CallError.isTransport : CallError → Bool
  | .transport _ => true
  | _ => false

/-! ## Columns and rows -/

/-- The columns of a `network_endpoint` the service writes. -/
structure Endpoint where
  serverId : Nat
  importer : Option String
  name : Option String
  notes : Option String
  mac : Option String
deriving DecidableEq

/-- The columns of an `ip` the service writes. -/
structure Ip where
  name : Option String
  ip : String
  importer : Option String
  provider : Option String
  networkEndpointId : Nat
  prefixId : Option Nat
  type : Option String
deriving DecidableEq

/-- An account, of which the cost center is read. -/
structure Account where
  costCenterId : Value

/-- The `id` column is not among the requested ones, so it may be missing. -/
structure ResourceCloud where
  projectId : String
  id : Option Value
  responsibleId : Value
  account : Option Account

/-- A cap tenant, found by its name. -/
structure CapTenant where
  name : String
  costCenterId : Value
  ownerId : Value

/-- A datacenter with the regions it serves. -/
structure Datacenter where
  name : String
  regionCodes : List String

/-- A network prefix of a datacenter. Its network is a value of the CMDB and may
fail to parse. -/
structure NetworkPrefix where
  id : Nat
  network : Value
  type : Option String
  dcName : String

/-- A server row as `_remove_server` reads it: its id and its rails. -/
structure ServerItem where
  id : Nat
  rails : List Nat
deriving DecidableEq

/-- An IP as a nested column of an endpoint. -/
structure IpView where
  id : Nat
  ip : String
  type : Option String
deriving DecidableEq

/-- An endpoint as a nested column of a server. -/
structure EndpointView where
  id : Nat
  name : Option String
  notes : Option String
  mac : Option String
  ips : List IpView
deriving DecidableEq

/-- A server row as `attach_to_instances` reads it, with its endpoints and their
IPs. -/
structure ServerView where
  id : Nat
  endpoints : List EndpointView
deriving DecidableEq

/-- What an insert or a re-select of an endpoint returns. -/
structure EndpointRef where
  id : Nat
  name : Option String
deriving DecidableEq

/-- What the search of an attached IP returns. -/
structure AttachedIp where
  id : Nat
  ip : String
  networkEndpoint : EndpointRef
deriving DecidableEq

/-! ## Calls -/

/-- A condition on one column of a server row; a null matches no row. -/
inductive ServerKey where
  | uuid (value : Option String)
  | hostname (value : String)

/-- The natural key an endpoint of a server is re-selected by. -/
inductive EndpointKey where
  | name (value : String)
  | mac (value : Option String)

/-- Columns an attach adds to an endpoint it reuses. -/
structure EndpointUpdate where
  mac : Option String := none
  notes : Option String := none
deriving DecidableEq

/-- The calls the handler makes, with their conditions and columns as arguments. -/
inductive CmdbOp where
  | resourceCloudSelectOne (projectId : String)
  | capTenantSelectOne (name : Value)
  | datacenterSelectOne (regionCode : Option String)
  | networkPrefixSelect (dcName : String)
  | serverSelect (anyOf : List ServerKey)
  | serverSelectOneByUuid (uuid : Option String)
  | serverSelectOneByHostname (hostname : String)
  | serverInsertOne (columns : Mutation)
  | serverUpdate (allOf : List ServerKey) (mutation : Mutation)
  | serverDelete (id : Nat)
  | railsDelete (id : Nat)
  | endpointSelectOne (serverId : Nat) (key : EndpointKey)
  | endpointInsertOne (columns : Endpoint)
  | endpointUpdate (id : Nat) (updates : EndpointUpdate)
  | endpointDeleteWithoutIps (serverUuid : Option String)
  | ipSelectAttached (ip : String) (serverUuid : Option String)
  | ipSelectOne (ip : String) (networkEndpointId prefixId : Nat)
  | ipInsertOne (columns : Ip)
  | ipDelete (ip : String) (serverUuid : Option String)

/-- The rows a call answers with when it succeeds. Inserts answer with the id of
the new row, updates and deletes with the ids of the rows they touched. -/
abbrev CmdbOp.Rows : CmdbOp → Type
  | .resourceCloudSelectOne _ => Option ResourceCloud
  | .capTenantSelectOne _ => Option CapTenant
  | .datacenterSelectOne _ => Option Datacenter
  | .networkPrefixSelect _ => List NetworkPrefix
  | .serverSelect _ => List ServerItem
  | .serverSelectOneByUuid _ => Option ServerView
  | .serverSelectOneByHostname _ => Option Nat
  | .serverInsertOne _ => Nat
  | .serverUpdate _ _ => List Nat
  | .serverDelete _ => List Nat
  | .railsDelete _ => List Nat
  | .endpointSelectOne _ _ => Option EndpointRef
  | .endpointInsertOne _ => EndpointRef
  | .endpointUpdate _ _ => List Nat
  | .endpointDeleteWithoutIps _ => List Nat
  | .ipSelectAttached _ _ => Option AttachedIp
  | .ipSelectOne _ _ _ => Option Nat
  | .ipInsertOne _ => Nat
  | .ipDelete _ _ => List Nat

/-- Everything the service does to its surroundings: the calls, the start of a
processing, and the confirmations. -/
inductive ServiceOp where
  | cmdb (op : CmdbOp)
  | started (message : Message)
  | ack
  | nack

/-- What each of these returns. A confirmation may fail; logging cannot. -/
abbrev ServiceOp.Reply : ServiceOp → Type
  | .cmdb op => Except CallError op.Rows
  | .started _ => Unit
  | .ack => Except CallError Unit
  | .nack => Except CallError Unit

/-- The interface the service runs against, as a signature of interaction trees. -/
abbrev service : Signature := ⟨ServiceOp, ServiceOp.Reply⟩

/-- Does the call write? -/
def CmdbOp.writes : CmdbOp → Bool
  | .serverInsertOne _ | .serverUpdate _ _ | .serverDelete _ | .railsDelete _
  | .endpointInsertOne _ | .endpointUpdate _ _ | .endpointDeleteWithoutIps _
  | .ipInsertOne _ | .ipDelete _ _ => true
  | _ => false

end InstanceLifecycle
