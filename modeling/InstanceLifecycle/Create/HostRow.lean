import InstanceLifecycle.Create.Plan
import InstanceLifecycle.Create.Recreation
import InstanceLifecycle.Create.TagColumns

/-!
# The rows of a host

What is registered under a hostname or a uuid, without row ids. Over a cleared store a
create leaves one row there, and its updates rewrite that row and nothing else of the
host.
-/

namespace InstanceLifecycle

open Interaction Store InstanceHandler

/-! ## The rows of a host -/

/-- What the store says of one host without its ids: the columns of the row and
its endpoints with their addresses. -/
structure HostImage where
  columns : Columns
  endpoints : List EndpointImage

/-- Does the row carry the hostname or the uuid? -/
def onHost (hostname instanceId : String) (server : Row Columns) : Bool :=
  (ServerKey.hostname hostname).holds server || (ServerKey.uuid (some instanceId)).holds server

/-- The server rows stored under the host name or under the instance id. -/
def Cmdb.hostRows (db : Cmdb) (hostname instanceId : String) : List (Row Columns) :=
  db.servers.rows.filter (onHost hostname instanceId)

/-- The rows of a host with their endpoints and addresses, without ids. -/
def Cmdb.hostImages (db : Cmdb) (hostname instanceId : String) : List HostImage :=
  (db.hostRows hostname instanceId).map (fun server => ⟨server.data, db.endpointImages server.id⟩)

/-- What a create makes of its host. -/
def plannedHost (handler : InstanceHandler) (ctx : CreateContext) (errors : FieldErrors)
    (writes : List FieldWrite) (db : Cmdb) : HostImage :=
  let cards := plannedCards handler (db.rows (.networkPrefixSelect ctx.dcName))
    (realNames ctx.hostNetworks) [] errors ctx.hostNetworks
  { columns := ((insertedColumns handler ctx).write (mergeWrites writes)).write
      (finalState ctx cards.errors)
    endpoints := cards.endpoints }

section Rows

variable {ctx : CreateContext} {db : Cmdb} {id : Nat} {columns : Columns}

/-- Writing a mutation a second time changes nothing, since it sets each of its
columns to the same value again. -/
theorem Columns.write_write (columns : Columns) (mutation : Mutation) :
    (columns.write mutation).write mutation = columns.write mutation := by
  funext column
  simp only [Columns.write]
  cases mutation.get? column <;> rfl

/-- A row registered for a create carries its host name, so it is one of the
host's rows. -/
theorem onHost_registered {row : Row Columns} (registered : Registered ctx row.data) :
    onHost ctx.hostname ctx.instanceId row = true := by
  simp [onHost, ServerKey.holds, Value.isStr_iff, registered.1]

/-- An update of the host's rows leaves its only row, with the mutation written
over its columns. Since the keys are not written, the row is the host's after
the update exactly if it was before. -/
theorem hostRows_update (sole : db.hostRows ctx.hostname ctx.instanceId = [⟨id, columns⟩])
    (registered : Registered ctx columns) {mutation : Mutation} (keeps : KeepsKeys mutation) :
    (db.updateServers (createWhere ctx) mutation).hostRows ctx.hostname ctx.instanceId =
      [⟨id, columns.write mutation⟩] := by
  have unmoved : ∀ row : Row Columns, onHost ctx.hostname ctx.instanceId
      (if (createWhere ctx).all (ServerKey.holds row) = true then
        ⟨row.id, row.data.write mutation⟩ else row) = onHost ctx.hostname ctx.instanceId row := by
    intro row
    split
    · simp only [onHost, ServerKey.holds, hasUuid]
      rw [row.data.write_of_absent mutation "hostname" keeps.1,
        row.data.write_of_absent mutation "uuid" keeps.2]
    · rfl
  have selected := (createWhere_holds ⟨id, columns⟩).mpr registered
  simp only [Cmdb.hostRows, Cmdb.updateServers, Table.rewrite, List.filter_map]
  have same : onHost ctx.hostname ctx.instanceId ∘ (fun row : Row Columns =>
      if (createWhere ctx).all (ServerKey.holds row) = true then
        (⟨row.id, row.data.write mutation⟩ : Row Columns) else row) =
      onHost ctx.hostname ctx.instanceId := funext unmoved
  rw [same]
  change (db.hostRows ctx.hostname ctx.instanceId).map _ = _
  rw [sole, List.map_singleton, if_pos selected]

/-- Over a cleared store the inserted row is the only one of its host. -/
theorem hostRows_insert {handler : InstanceHandler} {before base : Cmdb}
    (cleared : Cleared before base (creationKeys ctx)) (named : ctx.hostname ≠ "")
    (identified : ctx.instanceId ≠ "") :
    (base.insertServer (handler.serverColumns ctx)).hostRows ctx.hostname ctx.instanceId =
      [⟨base.servers.next, insertedColumns handler ctx⟩] := by
  have none : base.servers.rows.filter (onHost ctx.hostname ctx.instanceId) = [] := by
    rw [List.filter_eq_nil_iff]
    intro row stored
    have free := cleared.2 row stored
    simp only [creationKeys, removalKeys, ne_eq, named, identified, not_false_eq_true, if_true,
      List.cons_append, List.nil_append, List.any_cons, List.any_nil, Bool.or_false] at free
    rw [onHost, Bool.or_comm, free]
    exact Bool.false_ne_true
  have passes : onHost ctx.hostname ctx.instanceId
      ⟨base.servers.next, insertedColumns handler ctx⟩ = true :=
    onHost_registered registered_inserted
  simp only [Cmdb.hostRows, Cmdb.insertServer, Table.insert, List.filter_append, none]
  exact List.filter_cons_of_pos passes

/-- The images of a server's endpoints depend on the endpoint and IP tables
only. -/
theorem endpointImages_congr {before after : Cmdb} {serverId : Nat}
    (endpoints : after.endpoints = before.endpoints) (ips : after.ips = before.ips) :
    after.endpointImages serverId = before.endpointImages serverId := by
  simp only [Cmdb.endpointImages, Cmdb.endpointsOf, endpoints]
  apply endpointImages_frame
  intro endpoint _
  rw [Cmdb.ipsOf, Cmdb.ipsOf, ips]

/-- A fresh server row has no endpoints. -/
theorem endpointsOf_inserted (base : Cmdb) (columns : Mutation) :
    (base.insertServer columns).endpointsOf base.servers.next = [] := by
  rw [Cmdb.endpointsOf, List.filter_eq_nil_iff]
  intro endpoint stored
  obtain ⟨server, present, same⟩ := base.endpoint_server endpoint stored
  have below := base.servers.serial server present
  simp only [decide_eq_true_eq]
  omega

/-- An update of the servers keeps every row under its id, whether it took
effect or not. -/
theorem next_update_servers (world : World) (allOf : List ServerKey) (mutation : Mutation)
    (outcome : Outcome) : ∀ server ∈ world.db.servers.rows,
      ∃ kept ∈ (world.next (.serverUpdate allOf mutation) outcome).db.servers.rows,
        kept.id = server.id := by
  intro server stored
  rw [World.next_db]
  rcases world.db.answer_db (.serverUpdate allOf mutation) outcome with same | took
  · rw [same]
    exact ⟨server, stored, rfl⟩
  · rw [took]
    refine ⟨_, (world.db.servers.mem_rewrite _ _ _).mpr ⟨server, stored, rfl⟩, ?_⟩
    split <;> rfl

end Rows

/-! ## The updates -/

/-- The host has one row with these columns; endpoints and addresses are as before. -/
structure OnlyRow (ctx : CreateContext) (id : Nat) (columns : Columns) (before after : Cmdb) :
    Prop where
  sole : after.hostRows ctx.hostname ctx.instanceId = [⟨id, columns⟩]
  endpoints : after.endpoints = before.endpoints
  ips : after.ips = before.ips
  reference : after.reference = before.reference

section Updates

variable {handler : InstanceHandler} {ctx : CreateContext} {id : Nat} {columns : Columns}
  {state : FieldErrors} {world : World} {before : Cmdb}

/-- The create's row holds no cards yet, if no endpoint had its id before the
create. The endpoints are as they were, and an id that is new names none of
them. -/
theorem OnlyRow.holding {after : Cmdb} (only : OnlyRow ctx id columns before after)
    (fresh : before.endpointsOf id = []) : Holding after id [] [] := by
  have stored : (⟨id, columns⟩ : Row Columns) ∈ after.hostRows ctx.hostname ctx.instanceId := by
    rw [only.sole]
    exact List.mem_singleton.mpr rfl
  have none : after.endpointsOf id = [] := by
    rw [Cmdb.endpointsOf, only.endpoints]
    exact fresh
  refine ⟨⟨_, (List.mem_filter.mp stored).1, rfl⟩, ?_, ?_⟩
  · rw [none]
    rfl
  · rw [Cmdb.endpointImages, none]
    rfl

/-- An update of the create's row keeps it the only one of its host, with the
mutation written over its columns. The mutation may not write the host name or
the uuid, or the row would no longer be found. -/
theorem OnlyRow.update {after : Cmdb} (only : OnlyRow ctx id columns before after)
    (registered : Registered ctx columns) {mutation : Mutation} (keeps : KeepsKeys mutation) :
    OnlyRow ctx id (columns.write mutation) before
      (after.updateServers (createWhere ctx) mutation) :=
  ⟨hostRows_update only.sole registered keeps, only.endpoints, only.ips, only.reference⟩

/-- An update that ends normally has taken effect, once or more often, which
comes to the same. Both the store before it and the one after it are led to the
latter by another attempt. -/
theorem updateServer_lands {mutation : Mutation} {options : CallOptions}
    (only : OnlyRow ctx id columns before world.db) (registered : Registered ctx columns)
    (keeps : KeepsKeys mutation) :
    (handler.updateServer mutation (createWhere ctx) options).Ensures (faulty transportFaults)
      (fun _ => True)
      (fun result final after => ∀ rows, result = .ok rows → rows ≠ none ∧ final = state ∧
        OnlyRow ctx id (columns.write mutation) before after.db) state world := by
  have written : ∀ after : Cmdb, OnlyRow ctx id columns before after ∨
      OnlyRow ctx id (columns.write mutation) before after →
      OnlyRow ctx id (columns.write mutation) before
        (after.updateServers (createWhere ctx) mutation) := by
    rintro after (first | again)
    · exact first.update registered keeps
    · have repeated := again.update (registered_write registered keeps) keeps
      rw [columns.write_write] at repeated
      exact repeated
  apply plainCall_ensures (fun current => OnlyRow ctx id columns before current.db ∨
    OnlyRow ctx id (columns.write mutation) before current.db) (Or.inl only)
  intro current either outcome permitted
  refine ⟨trivial, ?_⟩
  cases outcome with
  | ok =>
    simp only [Cmdb.answer, Cmdb.admits, if_true, replyExit]
    rintro rows ⟨⟩
    exact ⟨by simp, trivial, written current.db either⟩
  | fail error landed =>
    have transport : error.isTransport = true := permitted
    simp only [Cmdb.answer, replyExit, transport, if_true]
    constructor
    · cases landed with
      | false => exact either
      | true => exact Or.inr (written current.db either)
    · exact fun rows impossible => by cases impossible

/-- A field batch that returns has landed: the row carries the merged mutation
of every write, and no other row of the host has come. -/
theorem writeCreateFields_lands (only : OnlyRow ctx id columns before world.db)
    (registered : Registered ctx columns)
    (keeps : ∀ writes, handler.createWrites ctx = .ok writes →
      ∀ write ∈ writes, KeepsKeys write.mutation) :
    (handler.writeCreateFields ctx).Ensures (faulty transportFaults) (fun _ => True)
      (fun result final after => ∀ value, result = .ok value →
        ∃ writes, handler.createWrites ctx = .ok writes ∧ final = state ∧
          OnlyRow ctx id (columns.write (mergeWrites writes)) before after.db) state world := by
  rw [writeCreateFields, Action.ensures_bind, Action.ensures_lift]
  cases returned : handler.createWrites ctx with
  | error exc => exact fun value impossible => by cases impossible
  | ok writes =>
    simp only [mergeWrites_nonempty returned, Bool.false_eq_true, if_false]
    refine (updateServer_lands only registered
      (mergeWrites_keeps (keeps writes returned))).bind ?_ ?_
    · intro rows middle after landed
      obtain ⟨answered, rfl, written⟩ := landed rows rfl
      cases rows with
      | none => exact absurd rfl answered
      | some ids => exact fun value _ => ⟨writes, rfl, rfl, written⟩
    · exact fun exc middle after _ value impossible => by cases impossible

/-- A final update that returns has landed: the row carries the state and the
details that the errors recorded by then decide. -/
theorem setFinalState_lands (only : OnlyRow ctx id columns before world.db)
    (registered : Registered ctx columns) :
    (handler.setFinalState ctx).Ensures (faulty transportFaults) (fun _ => True)
      (fun result _ after => ∀ value, result = .ok value →
        OnlyRow ctx id (columns.write (finalState ctx state)) before after.db) state world := by
  rw [setFinalState, Action.ensures_bind, Action.ensures_get]
  refine (updateServer_lands only registered (finalState_keeps state)).bind ?_ ?_
  · intro rows middle after landed value _
    exact (landed rows rfl).2.2
  · exact fun exc middle after _ value impossible => by cases impossible

end Updates

end InstanceLifecycle
