import InstanceLifecycle.Attach.ExactlyOnce
import InstanceLifecycle.Attach.Plan
import InstanceLifecycle.Create.BondNames

/-!
# Where an attach puts its address

A run of an attach that ends normally leaves one of three stores: the one it found, if the
host is missing or has the address already, or that store with the chosen endpoint filled, or
a new one inserted, and the address on it. Which calls fail by transport on the way makes no
difference.
-/

namespace InstanceLifecycle

open Interaction Store InstanceHandler

/-! ## Normal ends -/

/-- Some failure is permitted. An exception is evidence of it, which is how a
run without failures is seen to raise nothing. -/
def Fallible (permits : Faults) : Prop := ∃ op error landed, permits op (.fail error landed)

/-- Without failures none is permitted. -/
theorem noFaults_infallible : ¬ Fallible noFaults := by
  rintro ⟨op, error, landed, fails⟩
  cases fails

/-- A normal end meets the condition; an exception comes from a failure. -/
def normalExit (permits : Faults) (state : FieldErrors) {α : Type} (post : α → World → Prop)
    (result : Except Exn α) (final : FieldErrors) (after : World) : Prop :=
  final = state ∧
    match result with
    | .ok value => post value after
    | .error _ => Fallible permits

section Calls

variable {permits : Faults} {handler : InstanceHandler} {state : FieldErrors} {world : World}

/-- The sequence rule for parts that end normally unless a call failed: the
second part starts where the first left off, and a failed call is recorded as
the reason for either to raise. -/
theorem normal_bind {α β : Type} {action : Run α} {next : α → Run β} {mid : α → World → Prop}
    {post : β → World → Prop}
    (first : action.Ensures (faulty permits) (fun _ => True) (normalExit permits state mid) state
      world)
    (rest : ∀ value after, mid value after →
      (next value).Ensures (faulty permits) (fun _ => True) (normalExit permits state post) state
        after) :
    (action >>= next).Ensures (faulty permits) (fun _ => True) (normalExit permits state post) state
      world := by
  refine first.bind ?_ ?_
  · rintro value middle after ⟨rfl, held⟩
    exact rest value after held
  · rintro exc middle after ⟨rfl, fails⟩
    exact ⟨rfl, fails⟩

/-- A truthful look into the store answers by it or fails, and changes nothing. -/
def truthExit (permits : Faults) (state : FieldErrors) (db : Cmdb) {α : Type} (answer : α)
    (result : Except Exn α) (final : FieldErrors) (after : World) : Prop :=
  final = state ∧ after.db = db ∧
    match result with
    | .ok value => value = answer
    | .error _ => Fallible permits

/-- The sequence rule after a truthful look: the next part goes on with that
answer, in an unchanged store. -/
theorem truth_bind {α β : Type} {action : Run α} {next : α → Run β} {answer : α}
    {post : Except Exn β → FieldErrors → World → Prop}
    (first : action.Ensures (faulty permits) (fun _ => True)
      (truthExit permits state world.db answer) state world)
    (rest : ∀ after : World, after.db = world.db →
      (next answer).Ensures (faulty permits) (fun _ => True) post state after)
    (fails : ∀ exc (after : World), after.db = world.db → Fallible permits →
      post (.error exc) state after) :
    (action >>= next).Ensures (faulty permits) (fun _ => True) post state world := by
  refine first.bind ?_ ?_
  · rintro value middle after ⟨rfl, same, rfl⟩
    exact rest after same
  · rintro exc middle after ⟨rfl, same, fallible⟩
    exact fails exc after same fallible

/-- A reading call with its retries answers by the store or fails, under
transport failures. A rejection would be answered by nothing, so it has to be
excluded. -/
theorem readCall_truth (lossy : ∀ op outcome, permits op outcome → transportFaults op outcome)
    {options : CallOptions} {op : CmdbOp} (reads : op.writes = false) :
    (handler.cmdbCall options (cmdb op)).Ensures (faulty permits) (fun _ => True)
      (truthExit permits state world.db (some (world.db.rows op))) state world := by
  apply readCall_ensures reads fun _ _ _ _ => trivial
  · exact fun after stays => ⟨rfl, stays.db, rfl⟩
  · intro after error landed _ permitted permanent
    have transport : error.isTransport = true := lossy op _ permitted
    rw [transport] at permanent
    cases permanent
  · exact fun after error landed stays permitted _ => ⟨rfl, stays.db, op, error, landed, permitted⟩

/-- The search of an attached IP tells the truth. -/
theorem findAttachedIp_truth
    (lossy : ∀ op outcome, permits op outcome → transportFaults op outcome) (address : String)
    (uuid : Option String) :
    (handler.findAttachedIp address uuid).Ensures (faulty permits) (fun _ => True)
      (truthExit permits state world.db (world.db.rows (.ipSelectAttached address uuid))) state
      world := by
  apply truth_bind (readCall_truth lossy rfl)
  · exact fun after same => ⟨rfl, same, rfl⟩
  · exact fun exc after same fallible => ⟨rfl, same, fallible⟩

/-- The prefix of the address is the one that the reference classes give, by the
datacenter of the region and the prefixes there. -/
theorem attachPrefix_truth
    (lossy : ∀ op outcome, permits op outcome → transportFaults op outcome)
    (request : AttachRequest) :
    (handler.attachPrefix request).Ensures (faulty permits) (fun _ => True)
      (truthExit permits state world.db (world.db.prefixFor handler request)) state world := by
  apply truth_bind (readCall_truth lossy rfl)
  · intro after same
    rw [Cmdb.prefixFor, Option.join_some]
    cases world.db.rows (.datacenterSelectOne request.regionCode) with
    | none => exact ⟨rfl, same, rfl⟩
    | some dc =>
      simp only
      rw [← same]
      apply truth_bind (readCall_truth lossy rfl)
      · exact fun last again => ⟨rfl, again, rfl⟩
      · exact fun exc last again fallible => ⟨rfl, again, fallible⟩
  · exact fun exc after same fallible => ⟨rfl, same, fallible⟩

/-- A selector that is a single call tells the truth or raises, as a call with a
budget does. A read is admitted by every store and changes nothing. -/
theorem probe_truth {op : CmdbOp} (reads : op.writes = false) :
    (cmdb op).Ensures (faulty permits) (fun _ => True)
      (truthExit permits state world.db (world.db.rows op)) state world := by
  apply cmdb_ensures
  intro outcome permitted
  have same := world.db.answer_read op reads outcome
  refine ⟨trivial, rfl, same, ?_⟩
  cases outcome with
  | fail error landed => exact ⟨op, error, landed, permitted⟩
  | ok =>
    have admitted : world.db.admits op = true := by
      cases op <;> first | rfl | simp [CmdbOp.writes] at reads
    simp only [Cmdb.answer, admitted, if_true, Except.mapError]

/-- The endpoint under this name, if the address is not attached; the first of
the two probes then finds nothing. -/
theorem attachEndpointSelector_truth
    (lossy : ∀ op outcome, permits op outcome → transportFaults op outcome)
    {address : String} {uuid : Option String} (free : world.db.attached address uuid = [])
    (serverId : Nat) (name : String) :
    (handler.attachEndpointSelector address uuid serverId name).Ensures (faulty permits)
      (fun _ => True) (truthExit permits state world.db
        ((world.db.rows (.endpointSelectOne serverId (.name name))).map
          (fun endpoint => (endpoint, false)))) state world := by
  have missing : world.db.rows (.ipSelectAttached address uuid) = none := by
    cases found : world.db.rows (.ipSelectAttached address uuid) with
    | none => rfl
    | some row => exact absurd free (world.db.lookUp_some _ _ row found)
  apply truth_bind (findAttachedIp_truth lossy address uuid)
  · intro after same
    rw [missing, ← same]
    simp only
    apply truth_bind (probe_truth rfl)
    · exact fun last again => ⟨rfl, again, rfl⟩
    · exact fun exc last again fallible => ⟨rfl, again, fallible⟩
  · exact fun exc after same fallible => ⟨rfl, same, fallible⟩

/-! ## The endpoint -/

/-- Overwriting the same columns twice is doing it once. -/
theorem EndpointUpdate.apply_twice (updates : EndpointUpdate) (endpoint : Endpoint) :
    updates.apply (updates.apply endpoint) = updates.apply endpoint := by
  obtain ⟨mac, notes⟩ := updates
  cases mac <;> cases notes <;> rfl

/-- So a repeated update of an endpoint changes nothing more. -/
theorem updateEndpoint_twice (db : Cmdb) (id : Nat) (updates : EndpointUpdate) :
    (db.updateEndpoint id updates).updateEndpoint id updates = db.updateEndpoint id updates := by
  have rows := db.endpoints.rewrite_twice id _ updates.apply_twice
  simp only [Cmdb.updateEndpoint, rows]

/-- An update that names no column changes nothing. -/
theorem updateEndpoint_nothing (db : Cmdb) (id : Nat) {updates : EndpointUpdate}
    (mac : updates.mac = none) (notes : updates.notes = none) :
    db.updateEndpoint id updates = db := by
  have rows : db.endpoints.rewrite (fun endpoint => decide (endpoint.id = id))
      (EndpointUpdate.apply updates) = db.endpoints := by
    apply Table.rewrite_same
    intro endpoint
    simp [EndpointUpdate.apply, mac, notes]
  simp only [Cmdb.updateEndpoint, rows]

/-- An update that was lost may be repeated, so the endpoint ends up filled
once. Where there is nothing to fill no call is made. -/
theorem reuseEndpoint_normal
    (lossy : ∀ op outcome, permits op outcome → transportFaults op outcome)
    (request : AttachRequest) (endpoint : EndpointView) :
    (handler.reuseEndpoint request endpoint).Ensures (faulty permits) (fun _ => True)
      (normalExit permits state (fun _ after => after.db =
        world.db.updateEndpoint endpoint.id (endpointUpdates request endpoint))) state world := by
  unfold reuseEndpoint
  simp only
  split
  · rename_i nothing
    rw [Bool.and_eq_true, Option.isNone_iff_eq_none, Option.isNone_iff_eq_none] at nothing
    exact ⟨rfl, (updateEndpoint_nothing world.db _ nothing.1 nothing.2).symm⟩
  · generalize endpointUpdates request endpoint = updates
    refine normal_bind (?_ : Action.Ensures _ _ _ (normalExit permits state fun _ after =>
      after.db = world.db.updateEndpoint endpoint.id updates) state world) ?_
    · apply plainCall_ensures (fun current => current.db = world.db ∨
        current.db = world.db.updateEndpoint endpoint.id updates) (Or.inl rfl)
      intro current either outcome permitted
      have written : current.db.updateEndpoint endpoint.id updates =
          world.db.updateEndpoint endpoint.id updates := by
        rcases either with same | again
        · rw [same]
        · rw [again, updateEndpoint_twice]
      refine ⟨trivial, ?_⟩
      cases outcome with
      | ok => exact ⟨rfl, written⟩
      | fail error landed =>
        have transport : error.isTransport = true := lossy _ _ permitted
        simp only [Cmdb.answer, replyExit, transport, if_true]
        constructor
        · cases landed with
          | false => exact either
          | true => exact Or.inr written
        · exact ⟨rfl, _, error, landed, permitted⟩
    · exact fun _ after written => ⟨rfl, written⟩

/-- The free name of the snapshot is found again just when the insert took effect. -/
theorem freeName_missing (db : Cmdb) (host : Row Columns) :
    db.rows (.endpointSelectOne host.id
      (.name (nextBondName ((db.serverView host).endpoints.map EndpointView.name)))) = none := by
  simp only [Cmdb.rows, Option.map_eq_none_iff, List.find?_eq_none, Bool.and_eq_true,
    decide_eq_true_eq, not_and]
  intro endpoint stored onHost named
  apply nextBondName_fresh ((db.serverView host).endpoints.map EndpointView.name)
  have member : endpoint ∈ db.endpointsOf host.id :=
    List.mem_filter.mpr ⟨stored, by simpa using onHost⟩
  have name : endpoint.data.name =
      some (nextBondName ((db.serverView host).endpoints.map EndpointView.name)) :=
    of_decide_eq_true named
  rw [← name]
  exact List.mem_map.mpr ⟨db.endpointView endpoint, List.mem_map_of_mem member, rfl⟩

/-- After the insert of an endpoint the probe for its name finds that very row,
because the name was free before. -/
theorem freeName_inserted (db : Cmdb) {host : Row Columns} (stored : host ∈ db.servers.rows)
    (request : AttachRequest) :
    (db.insertEndpoint (attachColumns request (db.serverView host))).rows
      (.endpointSelectOne host.id
        (.name (nextBondName ((db.serverView host).endpoints.map EndpointView.name)))) =
      some ⟨db.endpoints.next, (attachColumns request (db.serverView host)).name⟩ := by
  have present : ∃ server ∈ db.servers.rows,
      server.id = (attachColumns request (db.serverView host)).serverId := ⟨host, stored, rfl⟩
  have missing := freeName_missing db host
  simp only [Cmdb.rows, Option.map_eq_none_iff] at missing
  simp only [Cmdb.rows, Cmdb.insertEndpoint_endpoints db _ present, Table.insert,
    List.find?_append, missing, Option.none_or]
  simp [attachColumns, Cmdb.serverView, EndpointKey.holds, Cmdb.endpointRef]

/-- The insert of an endpoint, recovered if its reply was lost: exactly one row
is added. -/
theorem insertAttachEndpoint_normal
    (lossy : ∀ op outcome, permits op outcome → transportFaults op outcome)
    (request : AttachRequest) {host : Row Columns} (stored : host ∈ world.db.servers.rows)
    (free : world.db.attached request.ipAddr request.hostUuid = []) :
    (handler.insertAttachEndpoint request (world.db.serverView host)).Ensures (faulty permits)
      (fun _ => True) (normalExit permits state (fun found after =>
        found = some (⟨world.db.endpoints.next,
          (attachColumns request (world.db.serverView host)).name⟩, false) ∧
        after.db = world.db.insertEndpoint (attachColumns request (world.db.serverView host))))
      state world := by
  rw [insertAttachEndpoint]
  generalize begins : world.db = db at *
  have admitted : db.admits (.endpointInsertOne (attachColumns request (db.serverView host))) =
      true := admits_endpoint ⟨host, stored, rfl⟩
  apply InstanceHandler.cmdbCall_ensures (fun current => current.db = db)
    (fun current => current.db = db ∨
      current.db = db.insertEndpoint (attachColumns request (db.serverView host))) begins
  · intro current same
    rw [Action.ensures_bind]
    apply cmdb_ensures
    intro outcome permitted
    refine ⟨trivial, ?_⟩
    cases outcome with
    | ok =>
      simp only [Cmdb.answer, same, admitted, if_true, Except.mapError]
      exact ⟨rfl, rfl, rfl, by rw [World.next_db, same]; rfl⟩
    | fail error landed =>
      have transport : error.isTransport = true := lossy _ _ permitted
      refine ⟨rfl, replyExit_failure ?_⟩
      simp only [replyExit, transport, if_true]
      constructor
      · rw [World.next_db, same]
        exact db.answer_db _ (.fail error landed)
      · exact ⟨rfl, _, error, landed, permitted⟩
  · rintro _ ⟨⟩ current either
    have unattached : current.db.attached request.ipAddr request.hostUuid = [] := by
      rcases either with same | landed
      · rw [same]
        exact free
      · rw [landed, db.attached_insertEndpoint]
        exact free
    refine (attachEndpointSelector_truth lossy unattached host.id
      (nextBondName ((db.serverView host).endpoints.map EndpointView.name))).mono ?_
    rintro result final after ⟨rfl, kept, answer⟩
    refine ⟨rfl, ?_⟩
    cases result with
    | error exc =>
      rw [← kept] at either
      exact ⟨either, rfl, answer⟩
    | ok found =>
      obtain rfl : found = _ := answer
      rcases either with same | landed
      · rw [same, freeName_missing db host]
        exact kept.trans same
      · rw [landed, freeName_inserted db stored request]
        exact ⟨rfl, rfl, kept.trans landed⟩
  · intro absent
    cases absent

/-! ## The store after an attach -/

/-- The store with the endpoint for the address: filled if one is reused, else inserted. -/
def Cmdb.withEndpoint (db : Cmdb) (request : AttachRequest) (server : ServerView) : Cmdb :=
  match chooseEndpoint request.mac server.endpoints with
  | some endpoint => db.updateEndpoint endpoint.id (endpointUpdates request endpoint)
  | none => db.insertEndpoint (attachColumns request server)

/-- The id of this endpoint: that of the one chosen, or the next one. -/
def Cmdb.endpointFor (db : Cmdb) (request : AttachRequest) (server : ServerView) : Nat :=
  match chooseEndpoint request.mac server.endpoints with
  | some endpoint => endpoint.id
  | none => db.endpoints.next

/-- The store with the address on this endpoint, under the prefix and type that
the attach computes. -/
def Cmdb.withAddress (db : Cmdb) (handler : InstanceHandler) (request : AttachRequest)
    (server : ServerView) : Cmdb :=
  (db.withEndpoint request server).insertIp (attachIpColumns request server
    (db.prefixFor handler request) (db.endpointFor request server))

/-- What an attach makes of the store. Without a server of this uuid, or with
the address attached already, it makes nothing of it. -/
def Cmdb.attach (db : Cmdb) (handler : InstanceHandler) (request : AttachRequest) : Cmdb :=
  match db.servers.rows.find? (fun server => hasUuid server request.hostUuid) with
  | none => db
  | some host =>
      if (db.attached request.ipAddr request.hostUuid).isEmpty then
        db.withAddress handler request (db.serverView host)
      else db

/-- The endpoint that an attach uses is stored on the host once it has been seen
to. By cases on the choice: a chosen endpoint was there, and otherwise the
inserted one is. -/
theorem endpointFor_stored {db : Cmdb} {host : Row Columns} (stored : host ∈ db.servers.rows)
    (request : AttachRequest) :
    ∃ endpoint ∈ (db.withEndpoint request (db.serverView host)).endpointsOf host.id,
      endpoint.id = db.endpointFor request (db.serverView host) := by
  rw [Cmdb.withEndpoint, Cmdb.endpointFor]
  cases chosen : chooseEndpoint request.mac (db.serverView host).endpoints with
  | some view =>
    obtain ⟨endpoint, member, rfl⟩ := chooseEndpoint_some chosen
    simp only
    rw [db.endpointsOf_updateEndpoint]
    refine ⟨_, List.mem_map_of_mem member, ?_⟩
    split <;> rfl
  | none =>
    have hangs := db.insertEndpoint_hangs (attachColumns request (db.serverView host)) stored rfl
    exact ⟨_, hangs, rfl⟩

/-- Finding or adding the endpoint attaches no address. -/
theorem withEndpoint_attached (db : Cmdb) (request : AttachRequest) (server : ServerView)
    (address : String) (uuid : Option String) :
    (db.withEndpoint request server).attached address uuid = db.attached address uuid := by
  rw [Cmdb.withEndpoint]
  split
  · exact db.attached_updateEndpoint _ _ _ _
  · exact db.attached_insertEndpoint _ _ _

/-- It leaves the servers alone. -/
theorem withEndpoint_servers (db : Cmdb) (request : AttachRequest) (server : ServerView) :
    (db.withEndpoint request server).servers = db.servers := by
  rw [Cmdb.withEndpoint]
  split
  · rfl
  · exact db.insertEndpoint_servers _

/-- The endpoint hangs on the host by its uuid, as the condition of the look-up
has it. -/
theorem withEndpoint_hangs {db : Cmdb} {request : AttachRequest} {host : Row Columns}
    (stored : host ∈ db.servers.rows) (carries : hasUuid host request.hostUuid = true) :
    ∃ endpoint ∈ (db.withEndpoint request (db.serverView host)).endpoints.rows,
      endpoint.id = db.endpointFor request (db.serverView host) ∧
        (db.withEndpoint request (db.serverView host)).endpointOnHost request.hostUuid
          endpoint = true := by
  obtain ⟨endpoint, member, id⟩ := endpointFor_stored stored request
  obtain ⟨present, own⟩ := List.mem_filter.mp member
  refine ⟨endpoint, present, id, ?_⟩
  rw [Cmdb.endpointOnHost, withEndpoint_servers, List.any_eq_true]
  exact ⟨host, stored, by simp [of_decide_eq_true own, carries]⟩

/-- The choice of an endpoint leaves the store with it, under the id given here.
By cases on the choice. -/
theorem attachEndpoint_normal
    (lossy : ∀ op outcome, permits op outcome → transportFaults op outcome)
    (request : AttachRequest) {host : Row Columns} (stored : host ∈ world.db.servers.rows)
    (free : world.db.attached request.ipAddr request.hostUuid = []) :
    (handler.attachEndpoint request (world.db.serverView host)).Ensures (faulty permits)
      (fun _ => True) (normalExit permits state (fun found after =>
        found = some (world.db.endpointFor request (world.db.serverView host)) ∧
        after.db = world.db.withEndpoint request (world.db.serverView host))) state world := by
  unfold attachEndpoint
  rw [Cmdb.endpointFor, Cmdb.withEndpoint]
  cases chooseEndpoint request.mac (world.db.serverView host).endpoints with
  | some endpoint =>
    apply normal_bind (reuseEndpoint_normal lossy request endpoint)
    exact fun _ after written => ⟨rfl, rfl, written⟩
  | none =>
    apply normal_bind (insertAttachEndpoint_normal lossy request stored free)
    rintro found after ⟨rfl, written⟩
    exact ⟨rfl, rfl, written⟩

/-- The insert of the address, recovered if its reply was lost: exactly one row
is added, since the look-up finds it on the second attempt. -/
theorem insertAttachIp_normal
    (lossy : ∀ op outcome, permits op outcome → transportFaults op outcome)
    (request : AttachRequest) (server : ServerView) (netPrefix : Option NetworkPrefix)
    {endpointId : Nat} (hangs : ∃ endpoint ∈ world.db.endpoints.rows, endpoint.id = endpointId ∧
      world.db.endpointOnHost request.hostUuid endpoint = true)
    (free : world.db.attached request.ipAddr request.hostUuid = []) :
    (handler.insertAttachIp request server netPrefix endpointId).Ensures (faulty permits)
      (fun _ => True) (normalExit permits state (fun _ after =>
        after.db = world.db.insertIp (attachIpColumns request server netPrefix endpointId))) state
      world := by
  rw [insertAttachIp]
  generalize begins : world.db = db at *
  have admitted : db.admits (.ipInsertOne (attachIpColumns request server netPrefix endpointId)) =
      true := by
    obtain ⟨endpoint, stored, same, -⟩ := hangs
    exact admits_ip ⟨endpoint, stored, same⟩
  have attached : (db.insertIp (attachIpColumns request server netPrefix endpointId)).attached
      request.ipAddr request.hostUuid = db.attached request.ipAddr request.hostUuid ++
        [⟨db.ips.next, attachIpColumns request server netPrefix endpointId⟩] :=
    db.attached_insertIp_new _ _ hangs
  refine normal_bind (?_ : Action.Ensures _ _ _ (normalExit permits state fun _ after => after.db =
    db.insertIp (attachIpColumns request server netPrefix endpointId)) state world) ?_
  · apply call_ensures (fun current => current.db = db) (fun current => current.db = db ∨
      current.db = db.insertIp (attachIpColumns request server netPrefix endpointId)) begins
    · intro current same outcome permitted
      refine ⟨trivial, ?_⟩
      cases outcome with
      | ok =>
        have landed : (current.next (.ipInsertOne (attachIpColumns request server netPrefix
            endpointId)) .ok).db = db.effect (.ipInsertOne (attachIpColumns request server netPrefix
              endpointId)) := by
          rw [World.next_db, same]
          rfl
        simp only [Cmdb.answer, same, admitted, if_true, replyExit]
        exact ⟨rfl, landed⟩
      | fail error landed =>
        have transport : error.isTransport = true := lossy _ _ permitted
        simp only [Cmdb.answer, replyExit, transport, if_true]
        constructor
        · rw [World.next_db, same]
          exact db.answer_db _ (.fail error landed)
        · exact ⟨rfl, _, error, landed, permitted⟩
    · rintro _ ⟨⟩ current either
      rw [attachIpSelector]
      apply truth_bind (findAttachedIp_truth lossy request.ipAddr request.hostUuid)
      · intro after kept
        refine ⟨rfl, ?_⟩
        cases found : current.db.rows (.ipSelectAttached request.ipAddr request.hostUuid) with
        | none =>
          have missing := current.db.lookUp_none _ _ found
          rcases either with same | landed
          · exact kept.trans same
          · rw [landed] at missing
            rw [missing] at attached
            simp at attached
        | some row =>
          have some := current.db.lookUp_some _ _ row found
          rcases either with same | landed
          · rw [same] at some
            exact absurd free some
          · exact ⟨rfl, kept.trans landed⟩
      · intro exc after kept fallible
        rw [← kept] at either
        exact ⟨rfl, either, rfl, fallible⟩
    · intro absent
      cases absent
  · exact fun _ after written => ⟨rfl, written⟩

/-- An attach to its host leaves the store with the address, or as it was if the
address hung already. -/
theorem attachTo_normal (lossy : ∀ op outcome, permits op outcome → transportFaults op outcome)
    (request : AttachRequest) {host : Row Columns} (stored : host ∈ world.db.servers.rows)
    (carries : hasUuid host request.hostUuid = true) :
    (handler.attachTo request (world.db.serverView host)).Ensures (faulty permits) (fun _ => True)
      (normalExit permits state (fun _ after => after.db =
        if (world.db.attached request.ipAddr request.hostUuid).isEmpty then
          world.db.withAddress handler request (world.db.serverView host)
        else world.db)) state world := by
  unfold attachTo
  apply truth_bind (findAttachedIp_truth lossy request.ipAddr request.hostUuid)
  · intro after same
    cases found : world.db.rows (.ipSelectAttached request.ipAddr request.hostUuid) with
    | some row =>
      have some := world.db.lookUp_some _ _ row found
      rw [if_neg (by simpa using some)]
      exact ⟨rfl, same⟩
    | none =>
      have free := world.db.lookUp_none _ _ found
      rw [if_pos (by simp [free])]
      simp only
      rw [← same] at stored free ⊢
      apply truth_bind (attachPrefix_truth lossy request)
      · intro later again
        rw [← again] at stored free ⊢
        apply normal_bind (attachEndpoint_normal lossy request stored free)
        rintro endpointId last ⟨rfl, written⟩
        simp only
        have hangs := withEndpoint_hangs stored carries
        rw [← written] at hangs
        refine (insertAttachIp_normal lossy request (later.db.serverView host) _ hangs ?_).mono ?_
        · rw [written, withEndpoint_attached]
          exact free
        · rintro result final ended ⟨rfl, exit⟩
          refine ⟨rfl, ?_⟩
          cases result with
          | error exc => exact exit
          | ok value =>
            rw [written] at exit
            exact exit
      · exact fun exc later again fallible => ⟨rfl, fallible⟩
  · exact fun exc after same fallible => ⟨rfl, fallible⟩

/-- An attach that ends normally leaves the store that `attach` describes,
whatever was lost on the way, and one that raises had a failing call. The parts
are those of the code, each with its own lemma. -/
theorem attachToInstances_normal
    (lossy : ∀ op outcome, permits op outcome → transportFaults op outcome) {message : Message}
    {request : AttachRequest} (read : handler.readAttach message = .ok (some request)) :
    (handler.attachToInstances message).Ensures (faulty permits) (fun _ => True)
      (normalExit permits state (fun _ after => after.db = world.db.attach handler request)) state
      world := by
  unfold attachToInstances
  rw [Action.ensures_bind, Action.ensures_lift, read]
  simp only
  apply truth_bind (readCall_truth lossy rfl)
  · intro after same
    rw [Option.join_some, Cmdb.attach]
    cases located : world.db.servers.rows.find? (fun server =>
        hasUuid server request.hostUuid) with
    | none =>
      simp only [Cmdb.rows, located, Option.map_none]
      exact ⟨rfl, same⟩
    | some host =>
      have stored := List.mem_of_find?_eq_some located
      have carries := List.find?_some located
      simp only [Cmdb.rows, located, Option.map_some]
      rw [← same] at stored ⊢
      exact attachTo_normal lossy request stored carries
  · exact fun exc after same fallible => ⟨rfl, fallible⟩

end Calls

/-! ## The placement -/

/-- Without a mac in the message only an endpoint without mac and addresses is reused. -/
theorem chooseEndpoint_blank {mac : Option String} {endpoints : List EndpointView}
    {view : EndpointView} (unnamed : truthy mac = false)
    (chosen : chooseEndpoint mac endpoints = some view) :
    view.ips.isEmpty = true ∧ truthy view.mac = false := by
  rw [chooseEndpoint] at chosen
  have none : endpoints.find? (fun endpoint => truthy mac && decide (endpoint.mac = mac)) =
      none := by
    simp [unnamed]
  rw [none, Option.none_or] at chosen
  have passes := List.find?_some chosen
  simpa using passes

section Filled

variable {request : AttachRequest} {view : EndpointView} {endpoint : Endpoint}

/-- What is set stays set: an update names a column only if the endpoint lacks
it. -/
theorem filled_keeps (request : AttachRequest) (view : EndpointView) (endpoint : Endpoint)
    (mac : view.mac = endpoint.mac) (notes : view.notes = endpoint.notes) :
    (truthy endpoint.mac = true →
        ((endpointUpdates request view).apply endpoint).mac = endpoint.mac) ∧
      (truthy endpoint.notes = true →
        ((endpointUpdates request view).apply endpoint).notes = endpoint.notes) := by
  constructor
  · intro set
    simp [endpointUpdates, EndpointUpdate.apply, mac, set]
  · intro set
    simp [endpointUpdates, EndpointUpdate.apply, notes, set]

/-- A chosen endpoint carries the mac of the message afterwards. It had that
mac, or none. -/
theorem filled_mac {endpoints : List EndpointView} (mac : view.mac = endpoint.mac)
    (named : truthy request.mac = true)
    (chosen : chooseEndpoint request.mac endpoints = some view) :
    ((endpointUpdates request view).apply endpoint).mac = request.mac := by
  rcases chooseEndpoint_mac chosen with same | unset
  · have set : truthy endpoint.mac = true := by rw [← mac, same, named]
    simp [endpointUpdates, EndpointUpdate.apply, mac, set, ← same]
  · obtain ⟨value, is⟩ : ∃ value, request.mac = some value := by
      cases given : request.mac with
      | none =>
        rw [given] at named
        cases named
      | some value => exact ⟨value, rfl⟩
    rw [is] at named
    simp [endpointUpdates, EndpointUpdate.apply, named, unset, is]

end Filled

/-- The new IP is on the right endpoint and nothing else was touched. -/
structure Placed (request : AttachRequest) (before after : Cmdb) (ip : Row Ip) : Prop where
  endpoint : ∃ endpoint ∈ after.endpoints.rows, endpoint.id = ip.data.networkEndpointId ∧
    after.endpointOnHost request.hostUuid endpoint = true ∧
    (truthy request.mac = true → endpoint.data.mac = request.mac) ∧
    (truthy request.mac = false → (∀ old ∈ before.endpoints.rows, old.id ≠ endpoint.id) ∨
      ∃ old ∈ before.endpoints.rows, old.id = endpoint.id ∧ truthy old.data.mac = false ∧
        before.hasIps old = false)
  kept : ∀ old ∈ before.endpoints.rows, ∃ endpoint ∈ after.endpoints.rows, endpoint.id = old.id ∧
    (truthy old.data.mac = true → endpoint.data.mac = old.data.mac) ∧
    (truthy old.data.notes = true → endpoint.data.notes = old.data.notes) ∧
    (old.id ≠ ip.data.networkEndpointId → endpoint = old)
  others : ∀ endpoint ∈ after.endpoints.rows, endpoint.id ≠ ip.data.networkEndpointId →
    endpoint ∈ before.endpoints.rows
  ips : after.ips.rows = before.ips.rows ++ [ip]

section Placement

variable {db : Cmdb} {request : AttachRequest} {host : Row Columns}

/-- Finding or adding the endpoint leaves the IPs alone. -/
theorem withEndpoint_ips (db : Cmdb) (request : AttachRequest) (server : ServerView) :
    (db.withEndpoint request server).ips = db.ips := by
  rw [Cmdb.withEndpoint]
  split
  · rfl
  · exact db.insertEndpoint_ips _

/-- The address is the last of the IPs, and the only one added. -/
theorem withAddress_ips (handler : InstanceHandler) (request : AttachRequest)
    (stored : host ∈ db.servers.rows) :
    (db.withAddress handler request (db.serverView host)).ips.rows = db.ips.rows ++
      [⟨db.ips.next, attachIpColumns request (db.serverView host) (db.prefixFor handler request)
        (db.endpointFor request (db.serverView host))⟩] := by
  obtain ⟨endpoint, member, same⟩ := endpointFor_stored stored request
  have present : ∃ endpoint ∈ (db.withEndpoint request (db.serverView host)).endpoints.rows,
      endpoint.id = (attachIpColumns request (db.serverView host) (db.prefixFor handler request)
        (db.endpointFor request (db.serverView host))).networkEndpointId :=
    ⟨endpoint, (List.mem_filter.mp member).1, same⟩
  rw [Cmdb.withAddress, Cmdb.insertIp, dif_pos present]
  simp only [withEndpoint_ips]
  rfl

/-- An endpoint of the stored host is on it by the uuid. -/
theorem onHost_stored (stored : host ∈ db.servers.rows)
    (carries : hasUuid host request.hostUuid = true) {endpoint : Row Endpoint}
    (hangs : endpoint.data.serverId = host.id) :
    db.endpointOnHost request.hostUuid endpoint = true :=
  List.any_eq_true.mpr ⟨host, stored, by simp [hangs, carries]⟩

/-- An endpoint of the host was reused: the IP is placed on it, its own columns
were kept, and all other endpoints are as before. -/
theorem placed_reused {after : Cmdb} {ip : Row Ip} {endpoint : Row Endpoint}
    (member : endpoint ∈ db.endpointsOf host.id)
    (chosen : chooseEndpoint request.mac (db.serverView host).endpoints =
      some (db.endpointView endpoint))
    (endpoints : after.endpoints = (db.updateEndpoint endpoint.id
      (endpointUpdates request (db.endpointView endpoint))).endpoints)
    (onHost : ∀ row : Row Endpoint, row.data.serverId = host.id →
      after.endpointOnHost request.hostUuid row = true)
    (hangs : ip.data.networkEndpointId = endpoint.id) (ips : after.ips.rows = db.ips.rows ++ [ip]) :
    Placed request db after ip := by
  obtain ⟨stored, own⟩ := List.mem_filter.mp member
  have filled : ∀ old ∈ db.endpoints.rows, (if old.id = endpoint.id then
      (⟨old.id, (endpointUpdates request (db.endpointView endpoint)).apply old.data⟩ : Row Endpoint)
      else old) ∈ after.endpoints.rows := by
    intro old present
    rw [endpoints]
    exact (db.endpoints.mem_rewrite _ _ _).mpr ⟨old, present, by simp⟩
  constructor
  · have reused := filled endpoint stored
    rw [if_pos rfl] at reused
    refine ⟨_, reused, hangs.symm, onHost _ (of_decide_eq_true own), ?_, ?_⟩
    · exact fun named => filled_mac rfl named chosen
    · intro unnamed
      obtain ⟨noIps, unset⟩ := chooseEndpoint_blank unnamed chosen
      refine Or.inr ⟨endpoint, stored, rfl, unset, ?_⟩
      simpa [Cmdb.endpointView, Cmdb.ipsOf, Cmdb.hasIps, List.filter_eq_nil_iff] using noIps
  · intro old present
    refine ⟨_, filled old present, ?_⟩
    by_cases same : old.id = endpoint.id
    · obtain rfl := db.endpoints.row_unique present stored same
      rw [if_pos rfl, hangs]
      have keeps := filled_keeps request (db.endpointView old) old.data rfl rfl
      exact ⟨rfl, keeps.1, keeps.2, fun other => absurd rfl other⟩
    · rw [if_neg same]
      exact ⟨rfl, fun _ => rfl, fun _ => rfl, fun _ => rfl⟩
  · intro row present other
    rw [endpoints] at present
    obtain ⟨old, before, rfl⟩ := (db.endpoints.mem_rewrite _ _ _).mp present
    by_cases same : old.id = endpoint.id
    · simp only [same, decide_true, if_true] at other
      exact absurd hangs.symm other
    · simpa [same] using before
  · exact ips

/-- The conditions of `Placed` where the endpoint is new: its id was not in use,
so no row is overwritten at all, and the address hangs on it. -/
theorem placed_inserted {after : Cmdb} {ip : Row Ip} {columns : Endpoint}
    (endpoints : after.endpoints = db.endpoints.insert columns)
    (onHost : after.endpointOnHost request.hostUuid ⟨db.endpoints.next, columns⟩ = true)
    (mac : truthy request.mac = true → columns.mac = request.mac)
    (hangs : ip.data.networkEndpointId = db.endpoints.next)
    (ips : after.ips.rows = db.ips.rows ++ [ip]) : Placed request db after ip := by
  have stored : ∀ row, row ∈ after.endpoints.rows ↔
      row ∈ db.endpoints.rows ∨ row = ⟨db.endpoints.next, columns⟩ := by
    rw [endpoints]
    exact db.endpoints.mem_insert columns
  constructor
  · exact ⟨_, (stored _).mpr (Or.inr rfl), hangs.symm, onHost, mac,
      fun _ => Or.inl db.endpoints.next_absent⟩
  · exact fun old present => ⟨old, (stored old).mpr (Or.inl present), rfl, fun _ => rfl,
      fun _ => rfl, fun _ => rfl⟩
  · intro row present other
    rcases (stored row).mp present with old | rfl
    · exact old
    · exact absurd hangs.symm other
  · exact ips

/-- The address is placed in either case, by the choice of the endpoint. -/
theorem withAddress_placed (handler : InstanceHandler) (stored : host ∈ db.servers.rows)
    (carries : hasUuid host request.hostUuid = true) :
    Placed request db (db.withAddress handler request (db.serverView host))
      ⟨db.ips.next, attachIpColumns request (db.serverView host) (db.prefixFor handler request)
        (db.endpointFor request (db.serverView host))⟩ := by
  have endpoints : (db.withAddress handler request (db.serverView host)).endpoints =
      (db.withEndpoint request (db.serverView host)).endpoints := Cmdb.insertIp_endpoints _ _
  have servers : (db.withAddress handler request (db.serverView host)).servers = db.servers :=
    (Cmdb.insertIp_servers _ _).trans (withEndpoint_servers db request (db.serverView host))
  have onHost : ∀ endpoint : Row Endpoint, endpoint.data.serverId = host.id →
      (db.withAddress handler request (db.serverView host)).endpointOnHost request.hostUuid
        endpoint = true := by
    intro endpoint hangs
    rw [← servers] at stored
    exact onHost_stored stored carries hangs
  have ips := withAddress_ips handler request stored
  cases chosen : chooseEndpoint request.mac (db.serverView host).endpoints with
  | some view =>
    obtain ⟨endpoint, member, rfl⟩ := chooseEndpoint_some chosen
    refine placed_reused member chosen ?_ onHost ?_ ips
    · rw [endpoints, Cmdb.withEndpoint, chosen]
      rfl
    · simp only [attachIpColumns, Cmdb.endpointFor, chosen]
      rfl
  | none =>
    refine placed_inserted ?_ (onHost ⟨_, attachColumns request (db.serverView host)⟩ rfl) ?_ ?_ ips
    · rw [endpoints, Cmdb.withEndpoint, chosen]
      exact db.insertEndpoint_endpoints _ ⟨host, stored, rfl⟩
    · exact fun named => if_pos named
    · simp only [attachIpColumns, Cmdb.endpointFor, chosen]

end Placement

/-- In every run of an attach under transport failures that ends normally with a new IP: that
IP is the only one, on the right endpoint of the host, and no other row was touched. -/
theorem attach_places (handler : InstanceHandler) (message : Message) (request : AttachRequest)
    (read : handler.readAttach message = .ok (some request)) (state errors : FieldErrors)
    (world last : World)
    (run : Prog.Ends (faulty transportFaults) world (handler.attachToInstances message state)
      (.ok (), errors) last)
    (ip : Row Ip) (stored : ip ∈ last.db.ips.rows) (new : ip ∉ world.db.ips.rows) :
    Placed request world.db last.db ip := by
  obtain ⟨-, done⟩ := (attachToInstances_normal (fun _ _ permitted => permitted) read).at_end run
  have same : last.db = world.db.attach handler request := done
  rw [same, Cmdb.attach] at stored
  rw [same, Cmdb.attach]
  cases located : world.db.servers.rows.find? (fun server => hasUuid server request.hostUuid) with
  | none =>
    rw [located] at stored
    exact absurd stored new
  | some host =>
    have present := List.mem_of_find?_eq_some located
    have carries := List.find?_some located
    rw [located] at stored
    simp only at stored ⊢
    by_cases free : (world.db.attached request.ipAddr request.hostUuid).isEmpty = true
    · rw [if_pos free] at stored ⊢
      rw [withAddress_ips handler request present] at stored
      rcases List.mem_append.mp stored with old | inserted
      · exact absurd old new
      · rw [List.mem_singleton.mp inserted]
        exact withAddress_placed handler present carries
    · rw [if_neg free] at stored
      exact absurd stored new

/-- The replies of the endpoint insert and of the IP insert are lost. -/
theorem attach_places_lost :
    let last := ((AsciiRuntime.handler.attachToInstances
      (AsciiRuntime.attachMessage "10.0.0.9" "m9") {}).run
      (World.scripted [(4, .fail (.transport "lost") true), (7, .fail (.transport "lost") true)])
      ⟨AsciiRuntime.registered, []⟩).2
    ∃ ip ∈ last.db.ips.rows, Placed ⟨some "r1", some "u1", "10.0.0.9", some "m9", some "net"⟩
      AsciiRuntime.registered last.db ip :=
  ⟨⟨0, none, "10.0.0.9", some importerName, some providerName, 0, some 1, some "be"⟩, by decide,
    attach_places AsciiRuntime.handler (AsciiRuntime.attachMessage "10.0.0.9" "m9")
      ⟨some "r1", some "u1", "10.0.0.9", some "m9", some "net"⟩ rfl {} {}
      ⟨AsciiRuntime.registered, []⟩ _
      (Prog.run_ends (scripted_possible _ (fun _ => trivial)
        (by simp [transportFaults, CallError.isTransport])) _ _) _ (by decide) (by decide)⟩

end InstanceLifecycle
