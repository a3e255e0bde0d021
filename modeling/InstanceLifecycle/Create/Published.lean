import InstanceLifecycle.Create.FinalState
import InstanceLifecycle.Create.StatusDetails
import InstanceLifecycle.Interaction.Runs

/-!
# The state is published last

A create inserts its row in `setup` and writes another state with its last call only. Whoever
reads the row in another state therefore reads all that the create stores: its columns, its
endpoints and their addresses do not change any more, wherever the create is interrupted.
-/

namespace InstanceLifecycle

open Interaction Store InstanceHandler

/-- A call that leaves the servers of a create in `setup`. -/
def CmdbOp.KeepsSetup : CmdbOp → Prop
  | .serverInsertOne columns => columns.get? "state" = some (.str "setup")
  | .serverUpdate _ mutation => "state" ∉ mutation.keys
  | _ => True

namespace Cmdb

variable {db : Cmdb} {first : Nat}

/-- The servers inserted from this id on are in `setup`. -/
def NewInSetup (first : Nat) (db : Cmdb) : Prop :=
  ∀ server ∈ db.servers.rows, first ≤ server.id → server.data "state" = .str "setup"

/-- A call that keeps the setup state keeps every new server in it. By the call,
of which only those about servers matter: an insert says setup itself, and an
update leaves the column alone. -/
theorem NewInSetup.effect (setup : db.NewInSetup first) (op : CmdbOp) (keeps : op.KeepsSetup) :
    (db.effect op).NewInSetup first := by
  cases op with
  | serverInsertOne columns =>
    intro server stored later
    rcases (db.servers.mem_insert _ server).mp stored with old | rfl
    · exact setup server old later
    · have given : columns.get? "state" = some (.str "setup") := keeps
      simp [Columns.write, given]
  | serverUpdate allOf mutation =>
    intro server stored later
    obtain ⟨old, present, rfl⟩ := (db.servers.mem_rewrite _ _ _).mp stored
    split at later
    · rw [if_pos ‹_›]
      exact (old.data.write_of_absent mutation "state" keeps).trans (setup old present later)
    · rw [if_neg ‹_›]
      exact setup old present later
  | serverDelete id =>
    intro server stored later
    exact setup server ((db.servers.mem_keep _ server).mp stored).1 later
  | endpointInsertOne columns =>
    have same : (db.insertEndpoint columns).servers = db.servers := by
      rw [insertEndpoint]
      split <;> rfl
    rw [NewInSetup, Cmdb.effect, same]
    exact setup
  | ipInsertOne columns =>
    have same : (db.insertIp columns).servers = db.servers := by
      rw [insertIp]
      split <;> rfl
    rw [NewInSetup, Cmdb.effect, same]
    exact setup
  | _ => exact setup

/-- The same rows, up to these columns of servers. -/
structure SameBut (columns : List String) (before after : Cmdb) : Prop where
  endpoints : after.endpoints = before.endpoints
  ips : after.ips = before.ips
  rails : after.rails = before.rails
  servers : ∀ column ∉ columns, after.servers.rows.map (fun row => (row.id, row.data column)) =
    before.servers.rows.map (fun row => (row.id, row.data column))

/-- A store is the same as itself but for any columns. -/
theorem SameBut.refl (columns : List String) (db : Cmdb) : SameBut columns db db :=
  ⟨rfl, rfl, rfl, fun _ _ => rfl⟩

/-- An update that writes no other columns leaves the store the same but for
them: endpoints, IPs and rails are not read, and each other column keeps its
values in order. -/
theorem SameBut.update {columns : List String} {before : Cmdb} (same : SameBut columns before db)
    (allOf : List ServerKey) {mutation : Mutation} (within : mutation.keys ⊆ columns) :
    SameBut columns before (db.updateServers allOf mutation) := by
  refine ⟨same.endpoints, same.ips, same.rails, fun column other => ?_⟩
  rw [← same.servers column other]
  simp only [updateServers, Table.rewrite, List.map_map]
  apply List.map_congr_left
  intro row _
  have kept := row.data.write_of_absent mutation column fun written => other (within written)
  simp only [Function.comp]
  split
  · exact congrArg (Prod.mk row.id) kept
  · rfl

end Cmdb

section Create

variable {handler : InstanceHandler} {message : Message} {ctx : CreateContext} {permits : Faults}
  {first : Nat} {state : FieldErrors} {world : World}

/-- An action whose calls keep the new row in setup leaves it there, under any
faults: the footprint of the action is all that is used. -/
theorem keepsSetup_ensures {α : Type} {action : Run α}
    (only : action.Only (calls CmdbOp.KeepsSetup)) (setup : world.db.NewInSetup first) :
    action.Ensures (faulty permits) (fun after => after.db.NewInSetup first)
      (fun _ _ after => after.db.NewInSetup first) state world := by
  apply calls_ensures only (fun after => after.db.NewInSetup first) _ (fun _ held => held) setup
  intro before held op keeps outcome _
  rw [World.next_db]
  exact Cmdb.answer_keeps (Cmdb.NewInSetup first) held (held.effect op keeps) outcome

/-- Replacing the server row keeps every new row in setup, since the row it
inserts says so itself. -/
theorem recreateServerRow_keepsSetup :
    (handler.recreateServerRow ctx).Only (calls CmdbOp.KeepsSetup) :=
  recreateServerRow_only (fun _ => trivial) (fun _ => trivial) (fun _ => trivial) rfl trivial

/-- The field batch leaves the state column alone, since no tag is headed by it
and no step of the batch writes it. -/
theorem writeCreateFields_keepsSetup
    (tags : ∀ key ∈ ctx.cmdbTags.keys, splitHead '.' key ≠ "state") :
    (handler.writeCreateFields ctx).Only (calls CmdbOp.KeepsSetup) := by
  apply writeCreateFields_only
  intro writes returned
  have fields : ∀ write ∈ writes, "state" ∉ write.mutation.keys := by
    intro write member written
    rcases createWrites_columns returned member written with fixed | ⟨key, tag, head⟩
    · exact absurd fixed (by decide)
    · exact tags key tag head
  refine ⟨fun written => ?_, fields⟩
  obtain ⟨write, member, named⟩ := (mem_keys_mergeWrites writes _).mp written
  exact fields write member named

/-- The cards' endpoints and IPs are other tables, so persisting them writes no
state. -/
theorem persistNetEndpoints_keepsSetup {newServerId : Nat} :
    (handler.persistNetEndpoints ctx newServerId).Only (calls CmdbOp.KeepsSetup) := by
  apply persistCards_only
  intro op cards
  cases op <;> trivial

/-- Up to its final write a create leaves what it inserted in `setup`. -/
theorem createUntilState_setup (setup : world.db.NewInSetup first) :
    (createUntilState handler message).Ensures (faulty permits)
      (fun after => after.db.NewInSetup first) (fun _ _ after => after.db.NewInSetup first) state
      world := by
  rw [createUntilState, Action.ensures_bind, Action.ensures_modify]
  simp only
  refine (buildCreateContext_ensures fun after reads => reads.db ▸ setup).bind ?_
    fun _ _ _ built => built.1.db ▸ setup
  rintro found middle built ⟨reads, exit⟩
  rw [← reads.db] at setup
  cases found with
  | none => exact setup
  | some ctx =>
    obtain ⟨content, -, same, -⟩ := exit
    have tags := content.context_no_state handler message world.db
    rw [← same] at tags
    simp only
    rw [Action.ensures_bind, Action.ensures_attempt]
    refine (keepsSetup_ensures recreateServerRow_keepsSetup setup).mono ?_
    intro recreated errors after held
    cases recreated with
    | error exc =>
      simp only
      split
      · exact held
      · exact held
    | ok id =>
      cases id with
      | none => exact held
      | some newServerId =>
        refine (keepsSetup_ensures (writeCreateFields_keepsSetup tags) held).bind ?_
          fun _ _ _ held => held
        intro _ _ _ held
        refine (keepsSetup_ensures persistNetEndpoints_keepsSetup held).bind ?_
          fun _ _ _ held => held
        exact fun _ _ _ held => held

/-- The final update writes the state and the status details, and no other
column. -/
theorem finalState_columns (errors : FieldErrors) :
    (finalState ctx errors).keys ⊆ ["state", "status_details"] := by
  rw [finalState]
  split
  · exact List.Subset.refl _
  · exact List.cons_subset.mpr ⟨List.mem_cons_self, List.nil_subset _⟩

/-- What is left of the final write repeats it, and changes nothing else. -/
theorem finalWrite_sameBut {errors : FieldErrors}
    {rest : Prog service (Except Exn Unit × FieldErrors)}
    (only : rest.Only fun op : ServiceOp =>
      op = .cmdb (.serverUpdate (createWhere ctx) (finalState ctx errors))) :
    rest.Ensures (faulty permits)
      (fun after => Cmdb.SameBut ["state", "status_details"] world.db after.db)
      (fun _ after => Cmdb.SameBut ["state", "status_details"] world.db after.db) world := by
  refine Prog.Only.ensures only ?_ (.refl _ _)
  rintro op rfl before reply after same step
  obtain ⟨outcome, -, -, rfl⟩ := faulty_next step
  have took : Cmdb.SameBut ["state", "status_details"] world.db
      (before.db.effect (.serverUpdate (createWhere ctx) (finalState ctx errors))) :=
    same.update (createWhere ctx) (finalState_columns errors)
  rw [World.next_db]
  exact Cmdb.answer_keeps (Cmdb.SameBut _ world.db) same took outcome

end Create

/-- In every state that a create passes through, under any failures: if one of the rows it
inserted is in another state than `setup`, then from there on it changes no row but for the
columns `state` and `status_details`. -/
theorem published_last (handler : InstanceHandler) (message : Message) (permits : Faults)
    (db : Cmdb) (state : FieldErrors) (world later : World)
    (rest left : Prog service (Except Exn Unit × FieldErrors))
    (run : Prog.Steps (faulty permits) ⟨db, []⟩ (handler.createInstances message state) world rest)
    (server : Row Columns) (stored : server ∈ world.db.servers.rows)
    (inserted : db.servers.next ≤ server.id) (published : server.data "state" ≠ .str "setup")
    (onward : Prog.Steps (faulty permits) world rest later left) :
    Cmdb.SameBut ["state", "status_details"] world.db later.db := by
  have setup : (⟨db, []⟩ : World).db.NewInSetup db.servers.next := by
    intro old present later
    exact absurd (db.servers.serial old present) (Nat.not_lt.mpr later)
  have ensured : (createUntilState handler message).Ensures (faulty permits)
      (fun after => after.db.NewInSetup db.servers.next)
      (fun _ _ after => after.db.NewInSetup db.servers.next) state ⟨db, []⟩ :=
    createUntilState_setup setup
  rw [createInstances_split] at run
  rcases Prog.steps_bind run with ⟨unfinished, before⟩ | ⟨⟨result, errors⟩, middle, ended, final⟩
  · exact absurd (ensured.always setup before server stored inserted) published
  · have held := ensured.at_end ended
    cases result with
    | error exc =>
      -- The create has raised before its final write.
      cases final with
      | refl => exact absurd (held server stored inserted) published
    | ok found =>
      cases found with
      | none =>
        cases final with
        | refl => exact absurd (held server stored inserted) published
      | some ctx =>
        have only : (handler.setFinalState ctx errors).Only fun op : ServiceOp =>
            op = .cmdb (.serverUpdate (createWhere ctx) (finalState ctx errors)) :=
          setFinalState_only_iff.mpr rfl
        have finished : rest.Only _ := only.steps final
        exact (finalWrite_sameBut finished).always (.refl _ _) onward

/-- The sample create after this many calls, the reply of its final write being lost once. -/
def cardCreateAfter (count : Nat) : World × Prog service (Except Exn Unit × FieldErrors) :=
  Prog.advance (World.scripted lostUpdate) count
    (AsciiRuntime.handler.createInstances cardCreate {}) ⟨Cmdb.empty AsciiRuntime.reference, []⟩

/-- The final write has taken effect and its reply is lost: the repeated write
changes the state and the details at most. -/
theorem published_last_repeated :
    (cardCreateAfter 8).1.db.servers.rows.map (fun row => row.data "state") = [.str "ready"] ∧
      Cmdb.SameBut ["state", "status_details"] (cardCreateAfter 8).1.db
        (Prog.advance (World.scripted lostUpdate) 1 (cardCreateAfter 8).2
          (cardCreateAfter 8).1).1.db := by
  have lost : ∀ op before, faulty anyFaults op before (World.scripted lostUpdate op before).1
      (World.scripted lostUpdate op before).2 :=
    fun op before => scripted_possible _ (fun _ => trivial)
      (by simp [lostUpdate, anyFaults, CallError.isTransport]) op before
  refine ⟨rfl, ?_⟩
  refine published_last AsciiRuntime.handler cardCreate anyFaults
    (Cmdb.empty AsciiRuntime.reference) {} _ _ _ _ (Prog.advance_steps lost 8 _ _) _
    List.mem_cons_self (Nat.zero_le _) ?_ (Prog.advance_steps lost 1 _ _)
  intro same
  have texts : Value.str "ready" = .str "setup" := same
  injection texts with text
  exact absurd text (by decide)

end InstanceLifecycle
