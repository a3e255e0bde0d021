import InstanceLifecycle.Attach.Placement
import InstanceLifecycle.Detach.Frame

/-!
# A detach takes an attach back

On a host whose endpoints all have IPs, an attach adds its IP to an endpoint with the mac of
the message or to a new one. The detach of the address deletes this IP, and then the new
endpoint as the only one without IPs, so its bond name is free again.
-/

namespace InstanceLifecycle

open Interaction Store InstanceHandler

/-- Id, name and mac of the endpoints of a server. -/
def Cmdb.endpointIdentities (db : Cmdb) (serverId : Nat) :
    List (Nat × Option String × Option String) :=
  (db.endpointsOf serverId).map (fun endpoint =>
    (endpoint.id, endpoint.data.name, endpoint.data.mac))

/-- The endpoint of the server is there after, and was not before. -/
def Cmdb.Gains (before after : Cmdb) (serverId : Nat) (endpoint : Row Endpoint) : Prop :=
  endpoint ∈ after.endpointsOf serverId ∧
    ∀ old ∈ before.endpointsOf serverId, old.id ≠ endpoint.id

/-- The endpoints of the server, up to their notes, and all IPs are there again. -/
structure Restored (host : Row Columns) (before after : Cmdb) : Prop where
  endpoints : after.endpointIdentities host.id = before.endpointIdentities host.id
  ips : after.ips.rows = before.ips.rows
  servers : after.servers = before.servers

/-- Nothing has to be restored where nothing was done. -/
theorem Restored.refl (host : Row Columns) (db : Cmdb) : Restored host db db := ⟨rfl, rfl, rfl⟩

section Undo

variable {db : Cmdb} {request : AttachRequest} {host : Row Columns}

/-! ## The attach -/

/-- On a store with a single server of this uuid, an attach gives the address to
that server, unless the server has it already. -/
theorem attach_only (handler : InstanceHandler)
    (only : db.servers.rows.filter (fun server => hasUuid server request.hostUuid) = [host]) :
    db.attach handler request =
      if (db.attached request.ipAddr request.hostUuid).isEmpty then
        db.withAddress handler request (db.serverView host)
      else db := by
  have located : db.servers.rows.find? (fun server => hasUuid server request.hostUuid) =
      some host := by
    rw [← List.head?_filter, only]
    rfl
  rw [Cmdb.attach, located]

/-- An endpoint that has IPs is chosen by its mac only. -/
theorem chooseEndpoint_inUse {mac : Option String} {endpoints : List EndpointView}
    {view : EndpointView} (inUse : view.ips.isEmpty = false)
    (chosen : chooseEndpoint mac endpoints = some view) : truthy view.mac = true := by
  rw [chooseEndpoint, Option.or_eq_some_iff] at chosen
  rcases chosen with byMac | ⟨-, free⟩
  · have same := List.find?_some byMac
    simp only [Bool.and_eq_true, decide_eq_true_eq] at same
    rw [same.2]
    exact same.1
  · have unused := List.find?_some free
    simp [inUse] at unused

/-- Inserting the IP adds no endpoint, so the server has the endpoints that
choosing one gave it. -/
theorem withAddress_endpointsOf (handler : InstanceHandler) (id : Nat) :
    (db.withAddress handler request (db.serverView host)).endpointsOf id =
      (db.withEndpoint request (db.serverView host)).endpointsOf id := by
  rw [Cmdb.endpointsOf, Cmdb.withAddress, Cmdb.insertIp_endpoints]
  rfl

/-- An endpoint that an attach adds to the host has the lowest free bond name. A
chosen endpoint keeps its identity, so an added one can only be the inserted
one. -/
theorem attach_newName (handler : InstanceHandler)
    (only : db.servers.rows.filter (fun server => hasUuid server request.hostUuid) = [host])
    {endpoint : Row Endpoint} (gained : db.Gains (db.attach handler request) host.id endpoint) :
    endpoint.data.name =
      some (nextBondName ((db.endpointIdentities host.id).map (fun identity => identity.2.1))) := by
  obtain ⟨member, new⟩ := gained
  have stored : host ∈ db.servers.rows :=
    (List.mem_filter.mp (by rw [only]; exact List.mem_singleton_self host)).1
  rw [attach_only handler only] at member
  by_cases free : (db.attached request.ipAddr request.hostUuid).isEmpty = true
  · rw [if_pos free, withAddress_endpointsOf, Cmdb.withEndpoint] at member
    cases chosen : chooseEndpoint request.mac (db.serverView host).endpoints with
    | some view =>
      rw [chosen] at member
      simp only [db.endpointsOf_updateEndpoint] at member
      obtain ⟨old, present, rfl⟩ := List.mem_map.mp member
      have same := new old present
      split at same <;> exact absurd rfl same
    | none =>
      rw [chosen] at member
      simp only [db.endpointsOf_insertEndpoint_own (attachColumns request (db.serverView host))
        stored rfl] at member
      rcases List.mem_append.mp member with old | inserted
      · exact absurd rfl (new endpoint old)
      · rw [List.mem_singleton.mp inserted]
        simp only [attachColumns, Cmdb.serverView, Cmdb.endpointIdentities, List.map_map]
        rfl
  · rw [if_neg free] at member
    exact absurd rfl (new endpoint member)

/-! ## The detach after it -/

/-- On the host a detach keeps the endpoints that have an IP left. -/
theorem detach_endpointsOf {address : String} {uuid : Option String}
    (stored : host ∈ db.servers.rows) (carries : hasUuid host uuid = true) :
    (db.detach address uuid).endpointsOf host.id =
      (db.endpointsOf host.id).filter (db.deleteIps address uuid).hasIps := by
  simp only [Cmdb.endpointsOf, Cmdb.detach, Cmdb.deleteEndpointsWithoutIps, Table.keep,
    List.filter_filter]
  apply List.filter_congr
  intro endpoint _
  by_cases own : endpoint.data.serverId = host.id
  · have onHost : (db.deleteIps address uuid).endpointOnHost uuid endpoint = true :=
      List.any_eq_true.mpr ⟨host, stored, by simp [own, carries]⟩
    simp [own, Cmdb.withoutIpsOn, onHost]
  · simp [own]

/-- After the detach the IPs are those from before the attach, since the
inserted one is the only one of that address on the host. -/
theorem undone_ips (handler : InstanceHandler) (stored : host ∈ db.servers.rows)
    (carries : hasUuid host request.hostUuid = true)
    (free : db.attached request.ipAddr request.hostUuid = []) :
    ((db.withAddress handler request (db.serverView host)).detach request.ipAddr
      request.hostUuid).ips.rows = db.ips.rows := by
  generalize named : attachIpColumns request (db.serverView host) (db.prefixFor handler request)
    (db.endpointFor request (db.serverView host)) = columns
  have rows := withAddress_ips handler request stored
  have attached : (db.withAddress handler request (db.serverView host)).attached request.ipAddr
      request.hostUuid = [⟨db.ips.next, columns⟩] := by
    have gained := (db.withEndpoint request (db.serverView host)).attached_insertIp_new columns
      request.hostUuid (by rw [← named]; exact withEndpoint_hangs stored carries)
    have address : columns.ip = request.ipAddr := by rw [← named]; rfl
    rw [address, withEndpoint_attached, free, withEndpoint_ips, ← named] at gained
    rw [← named]
    exact gained
  rw [named] at rows
  generalize db.withAddress handler request (db.serverView host) = after at rows attached
  have deleted : ∀ ip ∈ after.ips.rows,
      after.attachedTo request.ipAddr request.hostUuid ip = true ↔ ip = ⟨db.ips.next, columns⟩ := by
    intro ip present
    have member : ip ∈ after.attached request.ipAddr request.hostUuid ↔ _ := List.mem_filter
    rw [attached, List.mem_singleton] at member
    simp [member, present]
  rw [detach_ips, rows, List.filter_append]
  rw [rows] at deleted
  have new := (deleted ⟨db.ips.next, columns⟩ (by simp)).mpr rfl
  have kept : db.ips.rows.filter (fun ip =>
      !after.attachedTo request.ipAddr request.hostUuid ip) = db.ips.rows := by
    rw [List.filter_eq_self]
    intro ip old
    have below := db.ips.serial ip old
    by_contra gone
    have same := (deleted ip (by simp [old])).mp (by simpa using gone)
    rw [same] at below
    exact absurd below (Nat.lt_irrefl _)
  rw [kept]
  simp [new]

/-- After the detach the server has the endpoints it had before the attach. One
that the attach inserted is empty again and goes with the detach; any other has
an address and stays. -/
theorem undone_endpoints (handler : InstanceHandler) (stored : host ∈ db.servers.rows)
    (carries : hasUuid host request.hostUuid = true)
    (used : ∀ endpoint ∈ db.endpointsOf host.id, db.hasIps endpoint = true)
    (free : db.attached request.ipAddr request.hostUuid = []) :
    ((db.withAddress handler request (db.serverView host)).detach request.ipAddr
      request.hostUuid).endpointIdentities host.id = db.endpointIdentities host.id := by
  have ips := undone_ips handler stored carries free
  have sameIps : ((db.withAddress handler request (db.serverView host)).deleteIps request.ipAddr
      request.hostUuid).hasIps = db.hasIps := by
    funext endpoint
    rw [← detach_hasIps, Cmdb.hasIps, ips]
    rfl
  have inUse {endpoint : Row Endpoint} (member : endpoint ∈ db.endpointsOf host.id) :
      (db.endpointView endpoint).ips.isEmpty = false := by
    obtain ⟨ip, present, hangs⟩ := List.any_eq_true.mp (used endpoint member)
    have carried : ip ∈ db.ipsOf endpoint.id := List.mem_filter.mpr ⟨present, hangs⟩
    simp [Cmdb.endpointView, List.ne_nil_of_mem carried]
  have still : host ∈ (db.withAddress handler request (db.serverView host)).servers.rows := by
    rw [Cmdb.withAddress, Cmdb.insertIp_servers, withEndpoint_servers]
    exact stored
  rw [Cmdb.endpointIdentities, detach_endpointsOf still carries, sameIps, withAddress_endpointsOf,
    Cmdb.withEndpoint]
  cases chosen : chooseEndpoint request.mac (db.serverView host).endpoints with
  | some view =>
    obtain ⟨endpoint, member, rfl⟩ := chooseEndpoint_some chosen
    have named := chooseEndpoint_inUse (inUse member) chosen
    simp only [db.endpointsOf_updateEndpoint]
    rw [List.filter_eq_self.mpr, List.map_map]
    · apply List.map_congr_left
      intro old present
      by_cases same : old.id = endpoint.id
      · have one : old = endpoint := db.endpoints.row_unique (List.mem_filter.mp present).1
          (List.mem_filter.mp member).1 same
        rw [one]
        have mac := (filled_keeps request (db.endpointView endpoint) endpoint.data rfl rfl).1 named
        simp only [Function.comp, Cmdb.endpointView, if_true] at mac ⊢
        rw [mac]
        rfl
      · simp [Cmdb.endpointView, same]
    · intro after member
      obtain ⟨old, present, rfl⟩ := List.mem_map.mp member
      have has := used old present
      split <;> exact has
  | none =>
    have bare : db.hasIps ⟨db.endpoints.next, attachColumns request (db.serverView host)⟩ =
        false := by
      rw [Cmdb.hasIps, List.any_eq_false]
      exact List.filter_eq_nil_iff.mp db.ipsOf_next
    simp only [db.endpointsOf_insertEndpoint_own (attachColumns request (db.serverView host))
      stored rfl, List.filter_append]
    have all : (db.endpointsOf host.id).filter db.hasIps = db.endpointsOf host.id :=
      List.filter_eq_self.mpr used
    simp only [List.filter_cons, bare]
    change List.map _ ((db.endpointsOf host.id).filter db.hasIps ++ []) = _
    rw [all, List.append_nil]
    rfl

/-- The detach restores the host: its endpoints, their IPs and the server rows,
each by the lemma above or by the frame of the attach. -/
theorem undone_restored (handler : InstanceHandler) (stored : host ∈ db.servers.rows)
    (carries : hasUuid host request.hostUuid = true)
    (used : ∀ endpoint ∈ db.endpointsOf host.id, db.hasIps endpoint = true)
    (free : db.attached request.ipAddr request.hostUuid = []) :
    Restored host db ((db.withAddress handler request (db.serverView host)).detach request.ipAddr
      request.hostUuid) where
  endpoints := undone_endpoints handler stored carries used free
  ips := undone_ips handler stored carries free
  servers := (Cmdb.insertIp_servers _ _).trans (withEndpoint_servers db request _)

end Undo

/-- An attach of an address its host has not, and the detach of the address: the host is as
before, and both this attach and a later one, where they need a new endpoint, give it the same
name. -/
theorem detach_undoes_attach (handler : InstanceHandler) (attach detach : Message)
    (request : AttachRequest) (readAttach : handler.readAttach attach = .ok (some request))
    (readDetach : handler.readDetach detach = .ok (some (request.ipAddr, request.hostUuid)))
    (state state' : FieldErrors) (world mid last : World)
    (attached detached : Except Exn Unit × FieldErrors) (host : Row Columns)
    (only : world.db.servers.rows.filter (fun server => hasUuid server request.hostUuid) = [host])
    (used : ∀ endpoint ∈ world.db.endpointsOf host.id, world.db.hasIps endpoint = true)
    (free : world.db.attached request.ipAddr request.hostUuid = [])
    (attaches : Prog.Ends (faulty noFaults) world (handler.attachToInstances attach state) attached
      mid)
    (detaches : Prog.Ends (faulty noFaults) mid (handler.detachFromInstances detach state') detached
      last) :
    attached.1 = .ok () ∧ detached.1 = .ok () ∧ Restored host world.db last.db ∧
      ∀ (next : Message) (request' : AttachRequest),
        handler.readAttach next = .ok (some request') → request'.hostUuid = request.hostUuid →
        ∀ (state'' : FieldErrors) (result : Except Exn Unit × FieldErrors) (final : World),
          Prog.Ends (faulty noFaults) last (handler.attachToInstances next state'') result final →
          ∀ first second, world.db.Gains mid.db host.id first →
            last.db.Gains final.db host.id second → second.data.name = first.data.name := by
  have lossy : ∀ op outcome, noFaults op outcome → transportFaults op outcome := by
    rintro op outcome rfl
    trivial
  have ends : ∀ (message : Message) (request : AttachRequest) (state : FieldErrors)
      (before after : World) (result : Except Exn Unit × FieldErrors),
      handler.readAttach message = .ok (some request) →
      Prog.Ends (faulty noFaults) before (handler.attachToInstances message state) result after →
      result.1 = .ok () ∧ after.db = before.db.attach handler request := by
    intro message request state before after result read run
    obtain ⟨-, exit⟩ := (attachToInstances_normal lossy read).at_end run
    cases ended : result.1 with
    | error exc =>
      rw [ended] at exit
      exact absurd exit noFaults_infallible
    | ok value =>
      rw [ended] at exit
      exact ⟨rfl, exit⟩
  obtain ⟨done, midDb⟩ := ends attach request state world mid attached readAttach attaches
  obtain ⟨undone, -, lastDb⟩ := (detachFromInstances_faultless readDetach).at_end detaches
  have member : host ∈ world.db.servers.rows.filter (fun server =>
      hasUuid server request.hostUuid) := by
    rw [only]
    exact List.mem_singleton_self host
  obtain ⟨stored, carries⟩ := List.mem_filter.mp member
  have restored : Restored host world.db last.db := by
    rw [lastDb, midDb, attach_only handler only, if_pos (by simp [free])]
    exact undone_restored handler stored carries used free
  refine ⟨done, undone, restored, ?_⟩
  intro next request' readNext sameHost state'' result final run first second firstGained
    secondGained
  obtain ⟨-, finalDb⟩ := ends next request' state'' last final result readNext run
  rw [midDb] at firstGained
  rw [finalDb] at secondGained
  have still : last.db.servers.rows.filter (fun server => hasUuid server request'.hostUuid) =
      [host] := by
    rw [restored.servers, sameHost]
    exact only
  rw [attach_newName handler only firstGained, attach_newName handler still secondGained,
    restored.endpoints]

/-- The host has an endpoint with another address and mac: the attach adds a
second one, the detach takes it away, and a later attach gives its own the same
name. -/
theorem detach_undoes_attach_occupied :
    let mid := ((AsciiRuntime.handler.attachToInstances
      (AsciiRuntime.attachMessage "10.0.0.9" "m9") {}).run (World.answer .ok)
      ⟨AsciiRuntime.occupied "10.0.0.7" "m7", []⟩).2
    let last := ((AsciiRuntime.handler.detachFromInstances
      (AsciiRuntime.detachMessage "10.0.0.9") {}).run (World.answer .ok) mid).2
    let final := ((AsciiRuntime.handler.attachToInstances
      (AsciiRuntime.attachMessage "10.0.0.8" "m8") {}).run (World.answer .ok) last).2
    ∃ host, Restored host (AsciiRuntime.occupied "10.0.0.7" "m7") last.db ∧
      ∀ first second, (AsciiRuntime.occupied "10.0.0.7" "m7").Gains mid.db host.id first →
        last.db.Gains final.db host.id second → second.data.name = first.data.name := by
  intro mid last final
  have undone := detach_undoes_attach AsciiRuntime.handler
    (AsciiRuntime.attachMessage "10.0.0.9" "m9") (AsciiRuntime.detachMessage "10.0.0.9")
    ⟨some "r1", some "u1", "10.0.0.9", some "m9", some "net"⟩ rfl rfl {} {}
    ⟨AsciiRuntime.occupied "10.0.0.7" "m7", []⟩ mid last _ _ _ rfl (by decide) (by decide)
    (Prog.run_ends faultless_possible _ _) (Prog.run_ends faultless_possible _ _)
  exact ⟨_, undone.2.2.1, undone.2.2.2 (AsciiRuntime.attachMessage "10.0.0.8" "m8")
    ⟨some "r1", some "u1", "10.0.0.8", some "m8", some "net"⟩ rfl rfl {} _ final
    (Prog.run_ends faultless_possible _ _)⟩

end InstanceLifecycle
