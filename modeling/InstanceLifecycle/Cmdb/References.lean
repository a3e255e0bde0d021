import InstanceLifecycle.Cmdb.Interface

/-!
# What a call refers to

A call refers to servers by keys and to rows by their ids, and an answer shows the ids of rows.
-/

namespace InstanceLifecycle

/-- A stored row, by its class and its id. -/
inductive RowRef where
  | server (id : Nat)
  | endpoint (id : Nat)
  | rail (id : Nat)
deriving DecidableEq

namespace CmdbOp

/-- The keys a call selects servers by. -/
def serverKeys : CmdbOp → List ServerKey
  | .serverSelect anyOf => anyOf
  | .serverUpdate allOf _ => allOf
  | .serverSelectOneByHostname hostname => [.hostname hostname]
  | .serverSelectOneByUuid uuid => [.uuid uuid]
  | .endpointDeleteWithoutIps uuid => [.uuid uuid]
  | .ipSelectAttached _ uuid => [.uuid uuid]
  | .ipDelete _ uuid => [.uuid uuid]
  | _ => []

/-- The rows a call names by their ids. -/
def namedRows : CmdbOp → List RowRef
  | .serverDelete id => [.server id]
  | .railsDelete id => [.rail id]
  | .endpointSelectOne serverId _ => [.server serverId]
  | .endpointInsertOne columns => [.server columns.serverId]
  | .endpointUpdate id _ => [.endpoint id]
  | .ipSelectOne _ networkEndpointId _ => [.endpoint networkEndpointId]
  | .ipInsertOne columns => [.endpoint columns.networkEndpointId]
  | _ => []

/-- An update of servers has a condition. -/
def conditioned : CmdbOp → Bool
  | .serverUpdate allOf _ => !allOf.isEmpty
  | _ => true

/-- The rows whose ids an answer shows. -/
def handedRows : (op : CmdbOp) → op.Rows → List RowRef
  | .serverSelect _, items =>
      items.flatMap (fun item => .server item.id :: item.rails.map .rail)
  | .serverSelectOneByUuid _, found =>
      found.toList.flatMap (fun view =>
        .server view.id :: view.endpoints.map (fun endpoint => .endpoint endpoint.id))
  | .serverSelectOneByHostname _, found => found.toList.map .server
  | .serverInsertOne _, id => [.server id]
  | .endpointSelectOne _ _, found => found.toList.map (fun endpoint => .endpoint endpoint.id)
  | .endpointInsertOne _, endpoint => [.endpoint endpoint.id]
  | .ipSelectAttached _ _, found => found.toList.map (fun ip => .endpoint ip.networkEndpoint.id)
  | _, _ => []

end CmdbOp

end InstanceLifecycle
