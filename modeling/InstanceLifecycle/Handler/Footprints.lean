import InstanceLifecycle.Handler.Actions

/-!
# Footprints

Which CMDB calls a part of an action can issue at all, whatever the replies. The
condition on the calls stays a parameter, so one footprint serves every invariant
that only some calls can touch.
-/

namespace InstanceLifecycle

open Interaction

/-- The calls that write or re-select the addresses of a card: the look-up of a
prefix, the insert of an IP and the select that answers an insert whose reply
was lost. -/
def CmdbOp.ofAddresses : CmdbOp → Bool
  | .networkPrefixSelect _ | .ipSelectOne _ _ _ | .ipInsertOne _ => true
  | _ => false

/-- The calls that write or re-select the rows of cards: the insert of an
endpoint, its re-select, and every call for the addresses of the card. -/
def CmdbOp.ofCards : CmdbOp → Bool
  | .endpointSelectOne _ _ | .endpointInsertOne _ => true
  | op => op.ofAddresses

/-- The calls of an attach, from the select of the server to the insert of the
IP. Each footprint of a part of an attach is stated for this one predicate, so
that a caller grants the whole of it at once. -/
def CmdbOp.ofAttach : CmdbOp → Bool
  | .serverSelectOneByUuid _ | .ipSelectAttached _ _ | .datacenterSelectOne _
  | .networkPrefixSelect _ | .endpointUpdate _ _ | .endpointSelectOne _ _
  | .endpointInsertOne _ | .ipInsertOne _ => true
  | _ => false

/-- What a card's addresses may call its row may call too. By cases on the call:
the cards' own calls are none of the addresses'. -/
theorem CmdbOp.ofCards_of_ofAddresses {op : CmdbOp} (addresses : op.ofAddresses = true) :
    op.ofCards = true := by
  cases op <;> first | rfl | exact addresses

namespace InstanceHandler

variable {handler : InstanceHandler} {allowed : ServiceOp → Prop}

/-- One call to the CMDB stays inside a footprint that permits it. This is where
a permission enters every proof below. -/
theorem cmdb_only (op : CmdbOp) (permitted : allowed (.cmdb op)) : (cmdb op).Only allowed :=
  Action.only_request _ _ permitted

/-- A call with its retries stays inside the footprint of the call and of its
selector. The rule of the retry loop does the induction over the attempts. -/
theorem call_only {options : CallOptions} {op : CmdbOp} (permitted : allowed (.cmdb op))
    {selector : Option (Run (Option op.Rows))}
    (selects : ∀ reselection, selector = some reselection → reselection.Only allowed) :
    (handler.cmdbCall options (cmdb op) selector).Only allowed :=
  cmdbCall_only (cmdb_only op permitted) selects

/-- A call without a selector only ever repeats itself, so permission for that
one call is enough. -/
theorem plainCall_only {options : CallOptions} {op : CmdbOp} (permitted : allowed (.cmdb op)) :
    (handler.cmdbCall options (cmdb op)).Only allowed :=
  call_only permitted fun _ absent => nomatch absent

/-- An update of the server row is one conditioned call, and permission for that
call is permission for all its attempts. -/
theorem updateServer_only {mutation : Mutation} {allOf : List ServerKey} {options : CallOptions}
    (permitted : allowed (.cmdb (.serverUpdate allOf mutation))) :
    (handler.updateServer mutation allOf options).Only allowed :=
  plainCall_only permitted

/-! ## Create -/

/-- The tenant of a create is looked up at most once, under the name its tag
carries; without the tag nothing is called. -/
theorem resolveCapTenant_only {tags : Store.Dict String Value}
    (tenants : ∀ name, allowed (.cmdb (.capTenantSelectOne name))) :
    (handler.resolveCapTenant tags).Only allowed := by
  unfold resolveCapTenant
  cases tags.get? capTenantTag with
  | none => exact Action.only_pure _
  | some name =>
    apply Action.Only.bind (plainCall_only (tenants name))
    intro resp
    cases resp.join with
    | some row => exact Action.only_pure _
    | none => exact Action.Only.bind (Action.only_modify _) fun _ => Action.only_pure _

/-- The context of a create costs two kinds of calls, the resource cloud by the
project id and the tenant by name. Both are granted for every argument, since
the payload that supplies them is arbitrary here. -/
theorem buildCreateContext_only {message : Message}
    (clouds : ∀ projectId, allowed (.cmdb (.resourceCloudSelectOne projectId)))
    (tenants : ∀ name, allowed (.cmdb (.capTenantSelectOne name))) :
    (handler.buildCreateContext message).Only allowed := by
  unfold buildCreateContext
  apply Action.Only.bind (Action.only_lift _)
  intro found
  cases found with
  | none => exact Action.only_pure _
  | some resource =>
    apply Action.Only.bind (Action.only_lift _)
    intro read
    apply Action.Only.bind (Action.only_lift _)
    intro hostNetworks
    apply Action.Only.bind (plainCall_only (clouds _))
    intro resourceCloud
    apply Action.Only.bind (Action.only_lift _)
    intro tags
    exact Action.Only.bind (resolveCapTenant_only tenants) fun _ => Action.only_pure _

/-- The replay writes the fields one by one, so its footprint is one conditioned
update for each write of the list. By induction on the writes left. -/
theorem replayWrites_only {ctx : CreateContext} {writes : List FieldWrite}
    (updates : ∀ write ∈ writes,
      allowed (.cmdb (.serverUpdate (createWhere ctx) write.mutation))) :
    (handler.replayWrites ctx writes).Only allowed := by
  induction writes with
  | nil => exact Action.only_pure _
  | cons write rest ih =>
    apply Action.Only.bind (updateServer_only (updates write List.mem_cons_self))
    intro _
    exact ih fun other member => updates other (List.mem_cons_of_mem _ member)

/-- The fields are written as one merged update, and after its rejection one by
one. The permission is asked only for the list of writes that the create really
computes, which is what lets a caller say which columns they carry. -/
theorem writeCreateFields_only {ctx : CreateContext}
    (updates : ∀ writes, handler.createWrites ctx = .ok writes →
      allowed (.cmdb (.serverUpdate (createWhere ctx) (mergeWrites writes))) ∧
        ∀ write ∈ writes, allowed (.cmdb (.serverUpdate (createWhere ctx) write.mutation))) :
    (handler.writeCreateFields ctx).Only allowed := by
  unfold writeCreateFields
  refine Action.only_lift_bind _ fun writes returned => ?_
  obtain ⟨batch, single⟩ := updates writes returned
  split
  · exact Action.only_raise _
  · apply Action.Only.bind (updateServer_only batch)
    intro rows
    cases rows with
    | some ids => exact Action.only_pure _
    | none => exact replayWrites_only single

/-- The prefix of an address is looked up by one select in the datacenter of the
create. -/
theorem getNetPrefixByIp_only {ipAddr dcName : String} {errors : Bool}
    (prefixes : allowed (.cmdb (.networkPrefixSelect dcName))) :
    (handler.getNetPrefixByIp ipAddr dcName errors).Only allowed := by
  unfold getNetPrefixByIp
  apply Action.Only.bind (plainCall_only prefixes)
  intro vlans
  cases vlans <;> exact Action.only_pure _

/-- The addresses of one card: a prefix select, an insert into the endpoint
given and the re-select of that insert. By induction on the addresses; the set
of prefixes seen so far varies along it. -/
theorem persistAddresses_only {ctx : CreateContext} {endpointId : Nat}
    {used : List (Option String)} {addresses : List String}
    (prefixes : allowed (.cmdb (.networkPrefixSelect ctx.dcName)))
    (inserts : ∀ columns : Ip, columns.networkEndpointId = endpointId →
      allowed (.cmdb (.ipInsertOne columns)))
    (selects : ∀ address prefixId, allowed (.cmdb (.ipSelectOne address endpointId prefixId))) :
    (handler.persistAddresses ctx endpointId used addresses).Only allowed := by
  induction addresses generalizing used with
  | nil => exact Action.only_pure _
  | cons addr rest ih =>
    unfold persistAddresses
    apply Action.Only.bind (getNetPrefixByIp_only prefixes)
    intro netPrefix
    cases netPrefix with
    | none => exact Action.Only.bind (Action.only_modify _) fun _ => ih
    | some row =>
      refine Action.Only.bind (call_only (inserts _ rfl) ?_) fun _ => ih
      rintro _ ⟨⟩
      exact cmdb_only _ (selects _ _)

/-- The cards of a create stay inside the footprint of cards. By induction on
the cards, with the names taken and the prefixes seen generalised, since both
grow from one card to the next. -/
theorem persistCards_only {ctx : CreateContext} {serverId : Nat} {takenNames : List String}
    {used : List (Option String)} {hostNetworks : List HostNetwork}
    (cards : ∀ op : CmdbOp, op.ofCards = true → allowed (.cmdb op)) :
    (handler.persistCards ctx serverId takenNames used hostNetworks).Only allowed := by
  induction hostNetworks generalizing takenNames used with
  | nil => exact Action.only_pure _
  | cons card rest ih =>
    unfold persistCards
    refine Action.Only.bind (call_only (cards _ rfl) ?_) fun endpoint => ?_
    · rintro _ ⟨⟩
      exact cmdb_only _ (cards _ rfl)
    · cases endpoint with
      | none => exact ih
      | some row =>
        apply Action.Only.bind (persistAddresses_only (cards _ rfl) _ _) fun _ => ih
        · exact fun _ _ => cards _ rfl
        · exact fun _ _ => cards _ rfl

/-- The final write of a create is one conditioned update; what it writes
depends on the errors recorded, hence the permission for all of them. -/
theorem setFinalState_only {ctx : CreateContext}
    (updates : ∀ errors,
      allowed (.cmdb (.serverUpdate (createWhere ctx) (finalState ctx errors)))) :
    (handler.setFinalState ctx).Only allowed := by
  unfold setFinalState
  apply Action.Only.bind Action.only_get
  intro errors
  exact Action.Only.bind (updateServer_only (updates _)) fun _ => Action.only_pure _

/-! ## Delete and resize -/

/-- The rails of a server are deleted one call each. By induction on the rails
left. -/
theorem deleteRails_only {rails : List Nat}
    (deletes : ∀ rail, allowed (.cmdb (.railsDelete rail))) :
    (handler.deleteRails rails).Only allowed := by
  induction rails with
  | nil => exact Action.only_pure _
  | cons rail rest ih => exact Action.Only.bind (plainCall_only (deletes rail)) fun _ => ih

/-- Servers are deleted after their rails, so the footprint is that of the rails
and one delete for each server. By induction on the servers the select found. -/
theorem deleteServers_only {servers : List ServerItem}
    (rails : ∀ rail, allowed (.cmdb (.railsDelete rail)))
    (deletes : ∀ server, allowed (.cmdb (.serverDelete server))) :
    (handler.deleteServers servers).Only allowed := by
  induction servers with
  | nil => exact Action.only_pure _
  | cons server rest ih =>
    apply Action.Only.bind (deleteRails_only rails)
    intro _
    exact Action.Only.bind (plainCall_only (deletes server.id)) fun _ => ih

/-- The removal of a server selects by the keys given and deletes what it found.
The two deletes are permitted for every id, because the reply that names them is
not known here. -/
theorem removeServer_only {uuid hostname : Option String}
    (selects : allowed (.cmdb (.serverSelect (removalKeys uuid hostname))))
    (rails : ∀ rail, allowed (.cmdb (.railsDelete rail)))
    (deletes : ∀ server, allowed (.cmdb (.serverDelete server))) :
    (handler.removeServer uuid hostname).Only allowed := by
  unfold removeServer
  apply Action.Only.bind (plainCall_only selects)
  intro servers
  cases servers.getD [] with
  | nil => exact Action.only_pure _
  | cons server rest =>
    exact Action.Only.bind (deleteServers_only rails deletes) fun _ => Action.only_pure _

/-- A create replaces its row by a removal, an insert of the columns of its
context and, when the reply of the insert was lost, a re-select by hostname. All
three footprints are asked for separately, since isolation needs to know the
arguments of the last two. -/
theorem recreateServerRow_only {ctx : CreateContext}
    (selects : ∀ keys, allowed (.cmdb (.serverSelect keys)))
    (rails : ∀ rail, allowed (.cmdb (.railsDelete rail)))
    (deletes : ∀ server, allowed (.cmdb (.serverDelete server)))
    (inserts : allowed (.cmdb (.serverInsertOne (handler.serverColumns ctx))))
    (reselects : allowed (.cmdb (.serverSelectOneByHostname ctx.hostname))) :
    (handler.recreateServerRow ctx).Only allowed := by
  unfold recreateServerRow
  apply Action.Only.bind (removeServer_only (selects _) rails deletes)
  intro _
  refine call_only inserts ?_
  rintro _ ⟨⟩
  exact cmdb_only _ reselects

/-- A delete removes the servers its message names, and a message that names
none is refused before any call. -/
theorem deleteInstances_only {message : Message}
    (selects : ∀ keys, allowed (.cmdb (.serverSelect keys)))
    (rails : ∀ rail, allowed (.cmdb (.railsDelete rail)))
    (deletes : ∀ server, allowed (.cmdb (.serverDelete server))) :
    (handler.deleteInstances message).Only allowed := by
  unfold deleteInstances
  apply Action.Only.bind (Action.only_lift _)
  intro found
  cases found with
  | none => exact Action.only_pure _
  | some resource =>
    apply Action.Only.bind (Action.only_lift _)
    intro instanceId
    exact Action.Only.bind (removeServer_only (selects _) rails deletes) fun _ =>
      Action.only_pure _

/-- A resize updates one of two columns, and the permission is asked for these
two only. The two writes share one rule through `single`. -/
theorem resizeInstances_only {message : Message}
    (updates : ∀ allOf column value, column = "server_monthly_payment" ∨ column = "flavor" →
      allowed (.cmdb (.serverUpdate allOf (single column value)))) :
    (handler.resizeInstances message).Only allowed := by
  have payment : ∀ value allOf options, (handler.updateServer (single "server_monthly_payment" value)
      allOf options).Only allowed :=
    fun value allOf _ => updateServer_only (updates allOf _ value (Or.inl rfl))
  have flavor : ∀ value allOf options,
      (handler.updateServer (single "flavor" value) allOf options).Only allowed :=
    fun value allOf _ => updateServer_only (updates allOf _ value (Or.inr rfl))
  unfold resizeInstances
  apply Action.Only.bind (Action.only_lift _)
  intro found
  cases found with
  | none => exact Action.only_pure _
  | some resource =>
    apply Action.Only.bind (Action.only_lift _)
    intro _
    apply Action.Only.bind (Action.only_lift _)
    intro instanceId
    apply Action.Only.bind (Action.only_lift _)
    intro price
    cases price with
    | none =>
      cases resizeFlavor message with
      | none => exact Action.only_pure _
      | some flavorName => exact Action.Only.bind (flavor _ _ _) fun _ => Action.only_pure _
    | some price =>
      apply Action.Only.bind (payment _ _ _)
      intro _
      cases resizeFlavor message with
      | none => exact Action.only_pure _
      | some flavorName => exact Action.Only.bind (flavor _ _ _) fun _ => Action.only_pure _

/-! ## Attach and detach -/

/-- A detach deletes the IP and then the endpoints left without IPs. An
unreadable payload ends before the first of these calls. -/
theorem detachFromInstances_only {message : Message}
    (ips : ∀ address uuid, allowed (.cmdb (.ipDelete address uuid)))
    (endpoints : ∀ uuid, allowed (.cmdb (.endpointDeleteWithoutIps uuid))) :
    (handler.detachFromInstances message).Only allowed := by
  unfold detachFromInstances
  apply Action.Only.bind (Action.only_lift _)
  intro request
  cases request with
  | none => exact Action.only_pure _
  | some read =>
    apply Action.Only.bind (plainCall_only (ips _ _))
    intro _
    exact Action.Only.bind (plainCall_only (endpoints _)) fun _ => Action.only_pure _

/-- The search for the IP of an attach is a single select under the address and
the server's uuid. -/
theorem findAttachedIp_only {address : String} {uuid : Option String}
    (selects : allowed (.cmdb (.ipSelectAttached address uuid))) :
    (handler.findAttachedIp address uuid).Only allowed :=
  Action.Only.bind (plainCall_only selects) fun _ => Action.only_pure _

/-- The IP of an attach is inserted by one call, and a lost reply is resolved by
the same search that precedes the insert. -/
theorem insertAttachIp_only {request : AttachRequest} {server : ServerView}
    {netPrefix : Option NetworkPrefix} {endpointId : Nat}
    (inserts : ∀ columns, allowed (.cmdb (.ipInsertOne columns)))
    (selects : ∀ address uuid, allowed (.cmdb (.ipSelectAttached address uuid))) :
    (handler.insertAttachIp request server netPrefix endpointId).Only allowed := by
  unfold insertAttachIp
  refine Action.Only.bind (call_only (inserts _) ?_) fun _ => Action.only_pure _
  rintro _ ⟨⟩
  exact Action.Only.bind (findAttachedIp_only (selects _ _)) fun _ => Action.only_pure _

/-- The prefix of an attach costs the select of its datacenter, then the select
of the prefixes there; without a datacenter the second call is never made. -/
theorem attachPrefix_only {request : AttachRequest}
    (datacenters : allowed (.cmdb (.datacenterSelectOne request.regionCode)))
    (prefixes : ∀ dcName, allowed (.cmdb (.networkPrefixSelect dcName))) :
    (handler.attachPrefix request).Only allowed := by
  unfold attachPrefix
  apply Action.Only.bind (plainCall_only datacenters)
  intro dc
  cases dc.join with
  | none => exact Action.only_pure _
  | some row => exact getNetPrefixByIp_only (prefixes row.name)

/-- An endpoint that is taken over costs at most one update, none when its
columns already agree with the request. -/
theorem reuseEndpoint_only {request : AttachRequest} {endpoint : EndpointView}
    (updates : allowed (.cmdb (.endpointUpdate endpoint.id (endpointUpdates request endpoint)))) :
    (handler.reuseEndpoint request endpoint).Only allowed := by
  unfold reuseEndpoint
  simp only
  split
  · exact Action.only_pure _
  · exact Action.Only.bind (plainCall_only updates) fun _ => Action.only_pure _

/-- The selector of a lost endpoint insert first searches the attached IP, then
the endpoint under the name tried. Both searches are selects, so the selector
writes nothing. -/
theorem attachEndpointSelector_only {address name : String} {uuid : Option String} {serverId : Nat}
    (selects : allowed (.cmdb (.ipSelectAttached address uuid)))
    (endpoints : allowed (.cmdb (.endpointSelectOne serverId (.name name)))) :
    (handler.attachEndpointSelector address uuid serverId name).Only allowed := by
  unfold attachEndpointSelector
  apply Action.Only.bind (findAttachedIp_only selects)
  intro existing
  cases existing with
  | some row => exact Action.only_pure _
  | none => exact Action.Only.bind (cmdb_only _ endpoints) fun _ => Action.only_pure _

/-- A new endpoint of an attach stays inside the footprint of attaches: the
insert, and the two selects of its selector. -/
theorem insertAttachEndpoint_only {request : AttachRequest} {server : ServerView}
    (attach : ∀ op : CmdbOp, op.ofAttach = true → allowed (.cmdb op)) :
    (handler.insertAttachEndpoint request server).Only allowed := by
  unfold insertAttachEndpoint
  apply cmdbCall_only
  · exact Action.Only.bind (cmdb_only _ (attach _ rfl)) fun _ => Action.only_pure _
  · rintro _ ⟨⟩
    exact attachEndpointSelector_only (attach _ rfl) (attach _ rfl)

/-- An attach either takes over an endpoint of the server or inserts a new one,
and both ways stay inside its footprint. By cases on the endpoint chosen. -/
theorem attachEndpoint_only {request : AttachRequest} {server : ServerView}
    (attach : ∀ op : CmdbOp, op.ofAttach = true → allowed (.cmdb op)) :
    (handler.attachEndpoint request server).Only allowed := by
  unfold attachEndpoint
  cases chooseEndpoint request.mac server.endpoints with
  | some endpoint =>
    exact Action.Only.bind (reuseEndpoint_only (attach _ rfl)) fun _ => Action.only_pure _
  | none =>
    apply Action.Only.bind (insertAttachEndpoint_only attach)
    intro inserted
    cases inserted with
    | none => exact Action.only_raise _
    | some found => exact Action.only_pure _

/-- The part of an attach that knows its server searches the IP and, if it is
absent, finds the prefix, the endpoint and inserts the IP. Each step is one of
the footprints above. -/
theorem attachTo_only {request : AttachRequest} {server : ServerView}
    (attach : ∀ op : CmdbOp, op.ofAttach = true → allowed (.cmdb op)) :
    (handler.attachTo request server).Only allowed := by
  unfold attachTo
  apply Action.Only.bind (findAttachedIp_only (attach _ rfl))
  intro existing
  cases existing with
  | some row => exact Action.only_pure _
  | none =>
    apply Action.Only.bind (attachPrefix_only (attach _ rfl) fun _ => attach _ rfl)
    intro netPrefix
    apply Action.Only.bind (attachEndpoint_only attach)
    intro endpointId
    cases endpointId with
    | none => exact Action.only_pure _
    | some id => exact insertAttachIp_only (fun _ => attach _ rfl) fun _ _ => attach _ rfl

/-- An attach stays inside its footprint whatever its message holds: a payload
that does not parse ends before any call. -/
theorem attachToInstances_only {message : Message}
    (attach : ∀ op : CmdbOp, op.ofAttach = true → allowed (.cmdb op)) :
    (handler.attachToInstances message).Only allowed := by
  unfold attachToInstances
  apply Action.Only.bind (Action.only_lift _)
  intro read
  cases read with
  | none => exact Action.only_pure _
  | some request =>
    apply Action.Only.bind (plainCall_only (attach _ rfl))
    intro server
    cases server.join with
    | none => exact Action.only_pure _
    | some view => exact attachTo_only attach

/-! ## Every action -/

/-- A create calls the CMDB and nothing else. The phases are composed from their
own footprints, all of them granted at once. -/
theorem createInstances_only {message : Message} (every : ∀ op, allowed (.cmdb op)) :
    (handler.createInstances message).Only allowed := by
  unfold createInstances
  apply Action.Only.bind (Action.only_modify _)
  intro _
  apply Action.Only.bind (buildCreateContext_only (fun _ => every _) fun _ => every _)
  intro found
  cases found with
  | none => exact Action.only_pure _
  | some ctx =>
    apply Action.Only.bind (Action.Only.attempt (recreateServerRow_only (fun _ => every _)
      (fun _ => every _) (fun _ => every _) (every _) (every _)))
    intro recreated
    cases recreated with
    | error exc =>
      simp only
      split
      · exact Action.only_pure _
      · exact Action.only_raise _
    | ok newServerId =>
      cases newServerId with
      | none => exact Action.only_lift _
      | some id =>
        apply Action.Only.bind (writeCreateFields_only fun _ _ => ⟨every _, fun _ _ => every _⟩)
        intro _
        apply Action.Only.bind (persistCards_only fun op _ => every op)
        intro _
        exact setFinalState_only fun _ => every _

/-- An action calls the CMDB and nothing else, whatever the message says. By
cases on the action, each closed by its own footprint. -/
theorem dispatch_only {message : Message} (every : ∀ op, allowed (.cmdb op)) :
    (handler.dispatch message).Only allowed := by
  unfold dispatch
  split
  · exact createInstances_only every
  · exact deleteInstances_only (fun _ => every _) (fun _ => every _) fun _ => every _
  · exact resizeInstances_only fun _ _ _ _ => every _
  · exact attachToInstances_only fun op _ => every op
  · exact detachFromInstances_only (fun _ _ => every _) fun _ => every _
  · exact Action.only_pure _

end InstanceHandler

end InstanceLifecycle
