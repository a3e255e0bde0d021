import InstanceLifecycle.Cmdb.Rows
import InstanceLifecycle.Create.Fields
import InstanceLifecycle.Handler.CallRules
import InstanceLifecycle.Handler.Footprints

/-!
# The server row under its own create

Everything a create does after its insert is an update of the rows with the message's
hostname and uuid, or a call about cards. The inserted row matches that condition, and
stays matched as long as no update names one of the two columns.
-/

namespace InstanceLifecycle

open Interaction Store InstanceHandler

/-- The row with this id is stored, and its columns pass a test. -/
def Cmdb.RowHolds (db : Cmdb) (id : Nat) (test : Columns → Prop) : Prop :=
  ∃ row ∈ db.servers.rows, row.id = id ∧ test row.data

/-- The columns the updates of a create select by. -/
def Registered (ctx : CreateContext) (columns : Columns) : Prop :=
  columns "hostname" = .str ctx.hostname ∧ columns "uuid" = .str ctx.instanceId

/-- The mutation leaves the two columns alone. -/
def KeepsKeys (mutation : Mutation) : Prop :=
  "hostname" ∉ mutation.keys ∧ "uuid" ∉ mutation.keys

/-- The row as it is inserted, all other columns null. -/
def insertedColumns (handler : InstanceHandler) (ctx : CreateContext) : Columns :=
  Columns.write (fun _ => .null) (handler.serverColumns ctx)

/-- What a create does once its row is there. -/
def completeCreate (handler : InstanceHandler) (ctx : CreateContext) (newServerId : Nat) :
    Run Unit := do
  handler.writeCreateFields ctx
  handler.persistNetEndpoints ctx newServerId
  handler.setFinalState ctx

section Rows

variable {handler : InstanceHandler} {ctx : CreateContext} {db : Cmdb} {id : Nat}
  {test weaker : Columns → Prop}

/-- The row inserted is selected by the updates of its create. -/
theorem registered_inserted : Registered ctx (insertedColumns handler ctx) :=
  ⟨rfl, rfl⟩

/-- And it stays so under writes that spare the keys. -/
theorem registered_write {columns : Columns} {mutation : Mutation}
    (registered : Registered ctx columns) (keeps : KeepsKeys mutation) :
    Registered ctx (columns.write mutation) := by
  constructor
  · rw [columns.write_of_absent mutation "hostname" keeps.1]
    exact registered.1
  · rw [columns.write_of_absent mutation "uuid" keeps.2]
    exact registered.2

/-- The condition of the updates selects exactly such rows. -/
theorem createWhere_holds (row : Row Columns) :
    (createWhere ctx).all (ServerKey.holds row) = true ↔ Registered ctx row.data := by
  simp [createWhere, ServerKey.holds, hasUuid, Value.isStr_iff, Registered]

/-- The row holds what its columns imply. -/
theorem Cmdb.RowHolds.mono (held : db.RowHolds id test)
    (implied : ∀ columns, test columns → weaker columns) : db.RowHolds id weaker := by
  obtain ⟨row, stored, same, passes⟩ := held
  exact ⟨row, stored, same, implied row.data passes⟩

/-- The row inserted holds the columns of the insert. -/
theorem rowHolds_insert (db : Cmdb) (columns : Mutation) :
    (db.insertServer columns).RowHolds db.servers.next
      (fun stored => stored = Columns.write (fun _ => .null) columns) :=
  ⟨_, (db.servers.mem_insert _ _).mpr (Or.inr rfl), rfl, rfl⟩

/-- An update that selects the row rewrites it. -/
theorem Cmdb.RowHolds.update (held : db.RowHolds id test) (mutation : Mutation)
    (registered : ∀ columns, test columns → Registered ctx columns) :
    (db.updateServers (createWhere ctx) mutation).RowHolds id
      (fun columns => ∃ before, test before ∧ columns = before.write mutation) := by
  obtain ⟨row, stored, same, passes⟩ := held
  have selected := (createWhere_holds row).mpr (registered row.data passes)
  refine ⟨⟨row.id, row.data.write mutation⟩, ?_, same, row.data, passes, rfl⟩
  exact (db.servers.mem_rewrite _ _ _).mpr ⟨row, stored, if_pos selected⟩

/-- An update that selects the row answers with its id, so it is not empty. -/
theorem Cmdb.RowHolds.updated (held : db.RowHolds id (Registered ctx)) (mutation : Mutation) :
    id ∈ db.rows (.serverUpdate (createWhere ctx) mutation) := by
  obtain ⟨row, stored, same, registered⟩ := held
  have selected := (createWhere_holds row).mpr registered
  exact List.mem_map.mpr ⟨row, List.mem_filter.mpr ⟨stored, selected⟩, same⟩

/-- The calls of cards leave the servers alone. -/
theorem effect_cards_servers (db : Cmdb) (op : CmdbOp) (cards : op.ofCards = true) :
    (db.effect op).servers = db.servers := by
  cases op with
  | endpointInsertOne columns => exact db.insertEndpoint_servers columns
  | ipInsertOne columns => exact db.insertIp_servers columns
  | _ => first | rfl | simp [CmdbOp.ofCards, CmdbOp.ofAddresses] at cards

/-- Whatever their outcome. -/
theorem answer_cards_servers (db : Cmdb) (op : CmdbOp) (cards : op.ofCards = true)
    (outcome : Outcome) : (db.answer op outcome).2.servers = db.servers := by
  rcases db.answer_db op outcome with same | effect
  · rw [same]
  · rw [effect, effect_cards_servers db op cards]

/-- Calls of a create after its insert whose updates pass a test. -/
def laterCall (ctx : CreateContext) (passes : Mutation → Prop) (op : CmdbOp) : Prop :=
  op.ofCards = true ∨ ∃ mutation, op = .serverUpdate (createWhere ctx) mutation ∧ passes mutation

/-- The row keeps what every update of it keeps. By cases on the call, of cards
or an update, and on its outcome. -/
theorem rowHolds_next {world : World} {passes : Mutation → Prop}
    (held : world.db.RowHolds id test)
    (registered : ∀ columns, test columns → Registered ctx columns)
    (keeps : ∀ mutation, passes mutation → ∀ columns, test columns → test (columns.write mutation))
    {op : CmdbOp} (allowed : laterCall ctx passes op) (outcome : Outcome) :
    (world.next op outcome).db.RowHolds id test := by
  rw [World.next_db]
  rcases allowed with cards | ⟨mutation, rfl, passed⟩
  · rw [Cmdb.RowHolds, answer_cards_servers world.db op cards outcome]
    exact held
  · rcases world.db.answer_db (.serverUpdate (createWhere ctx) mutation) outcome with same | took
    · rw [same]
      exact held
    · rw [took]
      refine (held.update mutation registered).mono ?_
      rintro columns ⟨before, passes, rfl⟩
      exact keeps mutation passed before passes

/-- None of the later calls of a create brings back a row that is not stored:
those of the cards leave the servers alone, and an update keeps the ids of the
rows it finds. -/
theorem absent_next {world : World} {passes : Mutation → Prop}
    (absent : ∀ row ∈ world.db.servers.rows, row.id ≠ id) {op : CmdbOp}
    (allowed : laterCall ctx passes op) (outcome : Outcome) :
    ∀ row ∈ (world.next op outcome).db.servers.rows, row.id ≠ id := by
  rw [World.next_db]
  rcases allowed with cards | ⟨mutation, rfl, _⟩
  · rw [answer_cards_servers world.db op cards outcome]
    exact absent
  · rcases world.db.answer_db (.serverUpdate (createWhere ctx) mutation) outcome with same | took
    · rw [same]
      exact absent
    · rw [took]
      intro row stored
      obtain ⟨old, before, rfl⟩ := (world.db.servers.mem_rewrite _ _ row).mp stored
      have other := absent old before
      split <;> exact other

/-! ## The calls after the insert -/

/-- The footprint of what follows the row: updates under the keys of the create,
and the calls of cards. -/
theorem completeCreate_only {allowed : ServiceOp → Prop} {newServerId : Nat}
    (updates : ∀ writes, handler.createWrites ctx = .ok writes →
      allowed (.cmdb (.serverUpdate (createWhere ctx) (mergeWrites writes))) ∧
        ∀ write ∈ writes, allowed (.cmdb (.serverUpdate (createWhere ctx) write.mutation)))
    (final : ∀ errors, allowed (.cmdb (.serverUpdate (createWhere ctx) (finalState ctx errors))))
    (cards : ∀ op : CmdbOp, op.ofCards = true → allowed (.cmdb op)) :
    (completeCreate handler ctx newServerId).Only allowed := by
  rw [completeCreate]
  apply Action.Only.bind (writeCreateFields_only updates)
  intro _
  apply Action.Only.bind (persistCards_only cards)
  intro _
  exact setFinalState_only final

/-- The final update writes the state and its details. -/
theorem finalState_keys (errors : FieldErrors) (column : String)
    (written : column ∈ (finalState ctx errors).keys) :
    column = "state" ∨ column = "status_details" := by
  rw [finalState] at written
  split at written
  · exact (by simpa [Dict.mem_keys_ofList] using written)
  · rw [keys_single, List.mem_singleton] at written
    exact Or.inl written

/-- So it spares the keys. -/
theorem finalState_keeps (errors : FieldErrors) : KeepsKeys (finalState ctx errors) := by
  constructor
  · intro written
    rcases finalState_keys errors _ written with same | same <;>
      exact absurd same (by decide)
  · intro written
    rcases finalState_keys errors _ written with same | same <;>
      exact absurd same (by decide)

end Rows

end InstanceLifecycle
