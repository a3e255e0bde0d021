import InstanceLifecycle.Cmdb.Rows
import InstanceLifecycle.Create.BondNames
import InstanceLifecycle.Handler.CallRules
import InstanceLifecycle.Handler.Footprints

/-!
# The names of a server's endpoints

Only the insert of an endpoint can break the distinctness of the names: every other call
leaves each server a part of the names it had. An insert keeps it when its name is free
on its server. An attach inserts under a name that is free in the rows it has just read,
and its selector finds the row of a lost reply by that name.
-/

namespace InstanceLifecycle

open Interaction Store InstanceHandler

/-- The names of the endpoints of a server, with repetitions. -/
def Cmdb.endpointNames (db : Cmdb) (serverId : Nat) : List (Option String) :=
  (db.endpointsOf serverId).map (fun endpoint => endpoint.data.name)

/-- On each server the names of the endpoints are pairwise distinct. -/
def NamesDistinct (db : Cmdb) : Prop := ∀ serverId, (db.endpointNames serverId).Nodup

/-- The call that adds an endpoint, the only one that can make two names equal. -/
def CmdbOp.insertsEndpoint : CmdbOp → Bool
  | .endpointInsertOne _ => true
  | _ => false

/-! ## The store -/

/-- Fewer endpoints have fewer names, in the same order. -/
theorem endpointNames_sublist {before after : Cmdb}
    (fewer : after.endpoints.rows.Sublist before.endpoints.rows) (serverId : Nat) :
    (after.endpointNames serverId).Sublist (before.endpointNames serverId) :=
  (fewer.filter _).map _

/-- An update writes no name. -/
theorem endpointNames_updateEndpoint (db : Cmdb) (id : Nat) (updates : EndpointUpdate)
    (serverId : Nat) :
    (db.updateEndpoint id updates).endpointNames serverId = db.endpointNames serverId := by
  rw [Cmdb.endpointNames, db.endpointsOf_updateEndpoint, List.map_map]
  apply List.map_congr_left
  intro endpoint _
  simp only [Function.comp]
  split <;> rfl

/-- An admitted endpoint adds its name to its own server. -/
theorem endpointNames_insertEndpoint (db : Cmdb) (columns : Endpoint)
    (present : ∃ server ∈ db.servers.rows, server.id = columns.serverId) (serverId : Nat) :
    (db.insertEndpoint columns).endpointNames serverId =
      db.endpointNames serverId ++ if columns.serverId = serverId then [columns.name] else [] := by
  rw [Cmdb.endpointNames]
  by_cases own : columns.serverId = serverId
  · subst own
    rw [db.endpointsOf_insertEndpoint columns present, List.map_append, if_pos rfl]
    rfl
  · rw [db.endpointsOf_insertEndpoint_other columns serverId own, if_neg own, List.append_nil]
    rfl

/-- Distinct names stay distinct when endpoints are deleted. -/
theorem NamesDistinct.fewer {before after : Cmdb} (distinct : NamesDistinct before)
    (fewer : after.endpoints.rows.Sublist before.endpoints.rows) : NamesDistinct after :=
  fun serverId => (distinct serverId).sublist (endpointNames_sublist fewer serverId)

/-- An endpoint inserted under a free name keeps the names distinct: its own
server has one name more, which is new there, and the others have theirs. -/
theorem NamesDistinct.insertEndpoint {db : Cmdb} (distinct : NamesDistinct db)
    (columns : Endpoint) (present : ∃ server ∈ db.servers.rows, server.id = columns.serverId)
    (free : columns.name ∉ db.endpointNames columns.serverId) :
    NamesDistinct (db.insertEndpoint columns) := by
  intro serverId
  rw [endpointNames_insertEndpoint db columns present]
  by_cases own : columns.serverId = serverId
  · subst own
    rw [if_pos rfl, List.nodup_append]
    refine ⟨distinct _, List.nodup_singleton _, ?_⟩
    intro name old other new same
    rw [List.mem_singleton.mp new] at same
    exact free (same ▸ old)
  · rw [if_neg own, List.append_nil]
    exact distinct serverId

/-- A call that inserts no endpoint leaves every server a part of its names, in
their order. By the call: updates keep names, and deletes drop some. -/
theorem endpointNames_effect (db : Cmdb) (op : CmdbOp) (other : op.insertsEndpoint = false)
    (serverId : Nat) :
    ((db.effect op).endpointNames serverId).Sublist (db.endpointNames serverId) := by
  cases op with
  | endpointInsertOne columns => cases other
  | endpointUpdate id updates =>
    rw [Cmdb.effect, endpointNames_updateEndpoint]
  | serverDelete id => exact endpointNames_sublist List.filter_sublist serverId
  | endpointDeleteWithoutIps uuid => exact endpointNames_sublist List.filter_sublist serverId
  | ipInsertOne columns =>
    apply endpointNames_sublist
    rw [Cmdb.effect, db.insertIp_endpoints]
  | _ => exact List.Sublist.refl _

/-- Every call but the insert of an endpoint keeps them distinct, whatever its
outcome. -/
theorem NamesDistinct.next {world : World} (distinct : NamesDistinct world.db) (op : CmdbOp)
    (other : op.insertsEndpoint = false) (outcome : Outcome) :
    NamesDistinct (world.next op outcome).db := by
  rw [World.next_db]
  rcases world.db.answer_db op outcome with same | took
  · rw [same]
    exact distinct
  · rw [took]
    intro serverId
    exact (distinct serverId).sublist (endpointNames_effect world.db op other serverId)

/-! ## Actions without an insert of an endpoint -/

/-- The invariant of every state: the names are distinct in the store of the
world. -/
def Distinct (world : World) : Prop := NamesDistinct world.db

section Actions

variable {permits : Faults} {handler : InstanceHandler} {state : FieldErrors} {world : World}

/-- Reading calls keep it. -/
theorem Distinct.reads {after : World} (distinct : Distinct world) (reads : world.Reads after) :
    Distinct after := by
  rw [Distinct, reads.db]
  exact distinct

/-- Any part of an action that inserts no endpoint keeps it. -/
theorem distinct_ensures {α : Type} {action : Run α}
    (only : action.Only (calls fun op => op.insertsEndpoint = false)) (distinct : Distinct world) :
    action.Ensures (faulty permits) Distinct (fun _ _ after => Distinct after) state world := by
  apply calls_ensures only Distinct ?_ (fun _ held => held) distinct
  intro before held op other outcome permitted
  exact NamesDistinct.next held op other outcome

/-! ## Attach -/

/-- The look-up of an attached IP records nothing, whatever it answers. -/
theorem findAttachedIp_reads (address : String) (uuid : Option String) {inv : World → Prop}
    (kept : ∀ after, world.Reads after → inv after) :
    (handler.findAttachedIp address uuid).Ensures (faulty permits) inv
      (fun _ final after => final = state ∧ world.Reads after) state world := by
  rw [findAttachedIp, Action.ensures_bind]
  apply readCall_ensures rfl
  · intro current outcome sinceStart _
    exact kept _ (sinceStart.trans (next_reads current _ rfl outcome))
  · exact fun after reads => ⟨rfl, reads⟩
  · exact fun after error landed reads _ _ => ⟨rfl, reads⟩
  · exact fun after error landed reads _ _ => ⟨rfl, reads⟩

/-- What an attach has read of its server is what is stored: the row is there
and its names are those of the view. -/
structure Snapshot (db : Cmdb) (server : ServerView) : Prop where
  present : ∃ row ∈ db.servers.rows, row.id = server.id
  names : server.endpoints.map EndpointView.name = db.endpointNames server.id

/-- A view that was just taken is one. -/
theorem snapshot_view (db : Cmdb) (row : Row Columns) (stored : row ∈ db.servers.rows) :
    Snapshot db (db.serverView row) := by
  refine ⟨⟨row, stored, rfl⟩, ?_⟩
  simp only [Cmdb.serverView, List.map_map]
  rfl

/-- Around the insert of an endpoint: it has taken effect or not. -/
def AroundInsert (start : Cmdb) (columns : Endpoint) (world : World) : Prop :=
  world.db = start ∨ world.db = start.insertEndpoint columns

/-- Reading calls stay around the insert. -/
theorem AroundInsert.reads {start : Cmdb} {columns : Endpoint} {after : World}
    (around : AroundInsert start columns world) (reads : world.Reads after) :
    AroundInsert start columns after := by
  rw [AroundInsert, reads.db]
  exact around

/-- Around the insert the names are distinct, if they are so without and with
the new row. -/
theorem AroundInsert.distinct {start : Cmdb} {columns : Endpoint}
    (around : AroundInsert start columns world) (before : NamesDistinct start)
    (inserted : NamesDistinct (start.insertEndpoint columns)) : Distinct world := by
  rw [Distinct]
  rcases around with same | took
  · rw [same]
    exact before
  · rw [took]
    exact inserted

/-- One invocation of the insert: whatever it answers, the endpoint is inserted or not. -/
theorem endpointInsert_distinct {start : Cmdb} {columns : Endpoint} (options : CallOptions)
    (unchanged : world.db = start) (before : NamesDistinct start)
    (inserted : NamesDistinct (start.insertEndpoint columns)) :
    (cmdb (.endpointInsertOne columns) >>= fun endpoint =>
        pure (endpoint, false) : Run (EndpointRef × Bool)).Ensures (faulty permits) Distinct
      (handler.opExit options (fun _ _ after => Distinct after) (AroundInsert start columns) state)
      state world := by
  rw [Action.ensures_bind]
  apply cmdb_ensures
  intro outcome _
  have after : AroundInsert start columns (world.next (.endpointInsertOne columns) outcome) := by
    change (world.db.answer _ outcome).2 = start ∨ (world.db.answer _ outcome).2 = _
    rw [← unchanged]
    exact world.db.answer_db _ outcome
  have distinct := after.distinct before inserted
  refine ⟨distinct, ?_⟩
  cases (world.db.answer (.endpointInsertOne columns) outcome).1 with
  | ok endpoint => exact ⟨rfl, distinct⟩
  | error error =>
    refine ⟨rfl, replyExit_failure ?_⟩
    simp only [replyExit]
    split
    · exact ⟨after, distinct⟩
    · exact distinct

/-- The selector of an attach's insert finds nothing only where the endpoint was
not inserted, so an insert after it starts from the store before. It looks for
the address first, then for the name, under which the inserted endpoint would be
found. -/
theorem attachEndpointSelector_distinct {start : Cmdb} {columns : Endpoint} {name : String}
    (address : String) (uuid : Option String) (around : AroundInsert start columns world)
    (named : columns.name = some name)
    (present : ∃ row ∈ start.servers.rows, row.id = columns.serverId)
    (before : NamesDistinct start) (inserted : NamesDistinct (start.insertEndpoint columns)) :
    (handler.attachEndpointSelector address uuid columns.serverId name).Ensures (faulty permits)
      Distinct
      (selectorExit (fun _ _ after => Distinct after) (fun current => current.db = start)
        (AroundInsert start columns) state) state world := by
  have own : (EndpointKey.name name).holds ⟨start.endpoints.next, columns⟩ = true :=
    decide_eq_true named
  have distinct : ∀ current, AroundInsert start columns current → Distinct current :=
    fun current held => held.distinct before inserted
  rw [attachEndpointSelector]
  refine (findAttachedIp_reads address uuid
    fun later reads => distinct later (around.reads reads)).bind ?_ ?_
  · rintro existing final after ⟨rfl, reads⟩
    have now := around.reads reads
    cases existing with
    | some row => exact ⟨rfl, distinct after now⟩
    | none =>
      simp only
      refine (probe_ensures rfl (AroundInsert start columns) ?_).bind ?_ ?_
      · intro outcome _
        have probed := now.reads
          (next_reads after (.endpointSelectOne columns.serverId (.name name)) rfl outcome)
        exact ⟨distinct _ probed, probed⟩
      · rintro found last later ⟨rfl, same, known, answer⟩
        simp only at answer
        refine ⟨rfl, ?_⟩
        cases found with
        | some endpoint => exact distinct later known
        | none =>
          refine known.resolve_right fun took => ?_
          rw [← same, took] at answer
          exact endpointSelect_detects start columns _ present own answer.symm
      · rintro exc last later ⟨rfl, -, known, -⟩
        exact ⟨rfl, known, distinct later known⟩
  · rintro exc final after ⟨rfl, reads⟩
    exact ⟨rfl, around.reads reads, distinct after (around.reads reads)⟩

/-- The endpoint of an attach is inserted at most once, under a free name. -/
theorem insertAttachEndpoint_distinct (request : AttachRequest) {server : ServerView}
    (snapshot : Snapshot world.db server) (distinct : Distinct world) :
    (handler.insertAttachEndpoint request server).Ensures (faulty permits) Distinct
      (fun _ _ after => Distinct after) state world := by
  have inserted : NamesDistinct (world.db.insertEndpoint (attachColumns request server)) := by
    apply NamesDistinct.insertEndpoint distinct _ snapshot.present
    rw [attachColumns, ← snapshot.names]
    exact nextBondName_fresh _
  rw [insertAttachEndpoint]
  apply cmdbCall_ensures (fun current => current.db = world.db)
    (AroundInsert world.db (attachColumns request server)) rfl
  · intro current same
    exact endpointInsert_distinct _ same distinct inserted
  · rintro _ ⟨⟩ current around
    exact attachEndpointSelector_distinct request.ipAddr request.hostUuid around rfl
      snapshot.present distinct inserted
  · intro absent
    cases absent

/-- An attach to the server it has read keeps the names distinct. Its name is
the lowest free one of the snapshot, which no other call has made stale. -/
theorem attachTo_distinct (request : AttachRequest) {server : ServerView}
    (snapshot : Snapshot world.db server) (distinct : Distinct world) :
    (handler.attachTo request server).Ensures (faulty permits) Distinct
      (fun _ _ after => Distinct after) state world := by
  have prefixReads : (handler.attachPrefix request).Only (calls fun op => op.writes = false) :=
    attachPrefix_only rfl fun _ => rfl
  have insertIp : ∀ netPrefix endpointId, (handler.insertAttachIp request server netPrefix
      endpointId).Only (calls fun op => op.insertsEndpoint = false) :=
    fun _ _ => insertAttachIp_only (fun _ => rfl) fun _ _ => rfl
  rw [attachTo]
  refine (findAttachedIp_reads request.ipAddr request.hostUuid
    fun after reads => distinct.reads reads).bind ?_ fun _ _ _ held => distinct.reads held.2
  rintro existing final after ⟨rfl, reads⟩
  have held := distinct.reads reads
  cases existing with
  | some row => exact held
  | none =>
    refine (reads_ensures prefixReads fun later further => held.reads further).bind ?_
      fun _ _ _ further => held.reads further
    intro netPrefix final later further
    have now := held.reads further
    have read : Snapshot later.db server := by
      rw [further.db, reads.db]
      exact snapshot
    have chosen : (handler.attachEndpoint request server).Ensures (faulty permits) Distinct
        (fun _ _ last => Distinct last) final later := by
      rw [attachEndpoint]
      cases chooseEndpoint request.mac server.endpoints with
      | some endpoint =>
        refine (distinct_ensures (reuseEndpoint_only rfl) now).bind ?_ fun _ _ _ held => held
        exact fun _ _ _ held => held
      | none =>
        refine (insertAttachEndpoint_distinct request read now).bind ?_ fun _ _ _ held => held
        intro found final last held
        cases found with
        | none => exact held
        | some found => exact held
    refine chosen.bind ?_ fun _ _ _ held => held
    intro endpointId final last held
    cases endpointId with
    | none => exact held
    | some id => exact distinct_ensures (insertIp netPrefix id) held

/-- An attach keeps the names distinct in every state. Its look-ups change
nothing, and an endpoint it inserts has a name that is free on the server as it
was read. -/
theorem attachToInstances_distinct (message : Message) (distinct : Distinct world) :
    (handler.attachToInstances message).Ensures (faulty permits) Distinct
      (fun _ _ after => Distinct after) state world := by
  rw [attachToInstances, Action.ensures_bind, Action.ensures_lift]
  cases handler.readAttach message with
  | error exc => exact distinct
  | ok read =>
    cases read with
    | none => exact distinct
    | some request =>
      simp only
      rw [Action.ensures_bind]
      apply readCall_ensures rfl
      · intro current outcome sinceStart _
        exact distinct.reads (sinceStart.trans (next_reads current _ rfl outcome))
      · intro after reads
        simp only [Cmdb.rows, Option.join_some]
        cases found : world.db.servers.rows.find? (fun server =>
            hasUuid server request.hostUuid) with
        | none => exact distinct.reads reads
        | some row =>
          have snapshot := snapshot_view world.db row (List.mem_of_find?_eq_some found)
          rw [← reads.db] at snapshot
          rw [Option.map_some, ← reads.db]
          exact attachTo_distinct request snapshot (distinct.reads reads)
      · exact fun after error landed reads _ _ => distinct.reads reads
      · exact fun after error landed reads _ _ => distinct.reads reads

end Actions

end InstanceLifecycle
