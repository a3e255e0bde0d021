import InstanceLifecycle.Create.Context
import InstanceLifecycle.Create.Recreation
import InstanceLifecycle.Create.TagColumns
import InstanceLifecycle.Handler.AsciiRuntime

/-!
# The state a create leaves its row in

The row is inserted in `setup`, no write of a field touches the state, and the last call
of the create writes it: `error` when a failure was recorded that marks the state, the
ready state otherwise. When that last write itself is rejected for good the row keeps
what it has, and the rejection is recorded.
-/

namespace InstanceLifecycle

open Interaction Store InstanceHandler

/-- What the final update makes of the state. -/
def settledState (ctx : CreateContext) (errors : FieldErrors) : Value :=
  if errors.failed then .str errorState else ctx.readyState

/-- The row where the updates look for it, still in the state it was inserted with. -/
def InSetup (ctx : CreateContext) (columns : Columns) : Prop :=
  Registered ctx columns ∧ columns "state" = .str "setup"

/-- A write of fields: neither the keys nor the state. -/
def WritesFields (mutation : Mutation) : Prop :=
  KeepsKeys mutation ∧ "state" ∉ mutation.keys

section Settle

variable {handler : InstanceHandler} {message : Message} {ctx : CreateContext} {id : Nat}
  {state : FieldErrors} {world : World}

/-- The row is inserted in setup. -/
theorem inSetup_inserted : InSetup ctx (insertedColumns handler ctx) :=
  ⟨registered_inserted, rfl⟩

/-- And stays so while fields are written. -/
theorem inSetup_write {columns : Columns} {mutation : Mutation} (fields : WritesFields mutation)
    (setup : InSetup ctx columns) : InSetup ctx (columns.write mutation) := by
  constructor
  · exact registered_write setup.1 fields.1
  · rw [columns.write_of_absent mutation "state" fields.2]
    exact setup.2

/-- The final update writes the settled state. -/
theorem finalState_writes (errors : FieldErrors) (columns : Columns) :
    columns.write (finalState ctx errors) "state" = settledState ctx errors := by
  rw [Columns.write, finalState, settledState]
  by_cases failed : errors.failed = true
  · rw [if_pos failed, if_pos failed]
    rfl
  · rw [if_neg failed, if_neg failed]
    rfl

/-- An earlier attempt of this update was sent and its reply lost. -/
def attemptLost (ctx : CreateContext) (mutation : Mutation) (history : List Event) : Prop :=
  ∃ lost : CallError, lost.isTransport = true ∧
    (⟨.cmdb (.serverUpdate (createWhere ctx) mutation), .error lost⟩ : Event) ∈ history

/-- How the reply to the last update goes with the state of the row. An answered
update has written it. A rejected one is recorded and leaves the row in `setup`,
unless an earlier attempt of the same update took effect and its reply was lost. -/
def settledRow (ctx : CreateContext) (errors : FieldErrors) (lost : Prop) (columns : Columns) :
    Except CallError (List Nat) → Prop
  | .ok _ => columns "state" = settledState ctx errors
  | .error _ => ∃ before text, errors = before.add "state" text ∧
      (columns "state" = .str "setup" ∨ columns "state" = settledState ctx before ∧ lost)

/-- The last event is an update of the create, and the row is as its reply says. -/
def Settled (ctx : CreateContext) (errors : FieldErrors) (history : List Event)
    (columns : Columns) : Prop :=
  ∃ mutation reply,
    history.getLast? = some ⟨.cmdb (.serverUpdate (createWhere ctx) mutation), reply⟩ ∧
      settledRow ctx errors (attemptLost ctx mutation history.dropLast) columns reply

/-- A normal end settles the row with this id. -/
def settledExit (ctx : CreateContext) (id : Nat) {α : Type} (result : Except Exn α)
    (final : FieldErrors) (after : World) : Prop :=
  match result with
  | .ok _ => after.db.RowHolds id (Settled ctx final after.history)
  | .error _ => True

/-- The final update settles the row that is in setup. If it was rejected, the
state is what it was, or what an earlier attempt whose reply was lost has put
there. -/
theorem setFinalState_settles (setup : world.db.RowHolds id (InSetup ctx)) :
    (handler.setFinalState ctx).Ensures (faulty anyFaults) (fun _ => True) (settledExit ctx id)
      state world := by
  rw [setFinalState, Action.ensures_bind, Action.ensures_get]
  refine Action.Ensures.bind (?_ : Action.Ensures _ _ _ (settledExit ctx id) state world)
    (fun _ _ _ settled => settled) fun _ _ _ _ => trivial
  -- Before the answer the row is in setup, or an earlier attempt has settled it.
  apply plainCall_ensures (fun current => current.db.RowHolds id (fun columns =>
    Registered ctx columns ∧ (columns "state" = .str "setup" ∨
      columns "state" = settledState ctx state ∧
        attemptLost ctx (finalState ctx state) current.history)))
  · exact setup.mono fun columns held => ⟨held.1, Or.inl held.2⟩
  · intro current held outcome permitted
    have written : ∀ columns, Registered ctx columns →
        Registered ctx (columns.write (finalState ctx state)) :=
      fun columns registered => registered_write registered (finalState_keeps state)
    have updated := held.update (finalState ctx state) fun columns passes => passes.1
    refine ⟨trivial, ?_⟩
    cases outcome with
    | ok =>
      simp only [Cmdb.answer, Cmdb.admits, if_true, replyExit]
      refine updated.mono ?_
      rintro columns ⟨before, passes, rfl⟩
      refine ⟨finalState ctx state, _, List.getLast?_concat, ?_⟩
      exact finalState_writes state before
    | fail error landed =>
      simp only [Cmdb.answer, replyExit]
      by_cases transport : error.isTransport = true
      · rw [if_pos transport]
        refine ⟨?_, trivial⟩
        have lost : attemptLost ctx (finalState ctx state)
            (current.next (.serverUpdate (createWhere ctx) (finalState ctx state))
              (.fail error landed)).history :=
          ⟨error, transport, List.mem_append_right _ (List.mem_singleton_self _)⟩
        cases landed with
        | false => exact held.mono fun columns passes =>
            ⟨passes.1, passes.2.imp_right fun settled => ⟨settled.1, lost⟩⟩
        | true =>
          refine updated.mono ?_
          rintro columns ⟨before, passes, rfl⟩
          exact ⟨written before passes.1, Or.inr ⟨finalState_writes state before, lost⟩⟩
      · have silent : landed = false := permitted.resolve_left transport
        subst silent
        rw [if_neg transport]
        refine held.mono ?_
        rintro columns ⟨_, either⟩
        refine ⟨finalState ctx state, _, List.getLast?_concat, state, _, rfl, ?_⟩
        rw [World.next, List.dropLast_concat]
        exact either

/-! ## The whole create -/

/-- The calls for the fields are among those that keep the row in setup. -/
theorem laterCalls_fields {writes : List FieldWrite}
    (returned : handler.createWrites ctx = .ok writes)
    (fields : ∀ write ∈ writes, WritesFields write.mutation) :
    (handler.writeCreateFields ctx).Only (calls (laterCall ctx WritesFields)) := by
  apply writeCreateFields_only
  intro others again
  obtain rfl : writes = others := Except.ok.inj (returned.symm.trans again)
  have batch : "state" ∉ (mergeWrites writes).keys := by
    intro written
    obtain ⟨write, member, named⟩ := (mem_keys_mergeWrites writes _).mp written
    exact (fields write member).2 named
  have keeps := mergeWrites_keeps fun write member => (fields write member).1
  exact ⟨Or.inr ⟨_, rfl, keeps, batch⟩, fun write member => Or.inr ⟨_, rfl, fields write member⟩⟩

/-- So are the calls for the cards. -/
theorem laterCalls_cards {newServerId : Nat} :
    (handler.persistNetEndpoints ctx newServerId).Only (calls (laterCall ctx WritesFields)) :=
  persistCards_only fun _ cards => Or.inl cards

/-- What follows the row keeps it in setup until the final update settles it. -/
theorem completeCreate_settles {newServerId : Nat}
    (fields : ∀ writes, handler.createWrites ctx = .ok writes →
      ∀ write ∈ writes, WritesFields write.mutation)
    (setup : world.db.RowHolds id (InSetup ctx)) :
    (completeCreate handler ctx newServerId).Ensures (faulty anyFaults) (fun _ => True)
      (settledExit ctx id) state world := by
  have step : ∀ before : World, before.db.RowHolds id (InSetup ctx) → ∀ op,
      laterCall ctx WritesFields op → ∀ outcome, anyFaults op outcome →
      (before.next op outcome).db.RowHolds id (InSetup ctx) := by
    intro before held op allowed outcome _
    exact rowHolds_next held (fun _ setup => setup.1)
      (fun _ fields _ setup => inSetup_write fields setup) allowed outcome
  have written : (handler.writeCreateFields ctx).Only (calls (laterCall ctx WritesFields)) := by
    cases returned : handler.createWrites ctx with
    | ok writes => exact laterCalls_fields returned (fields writes returned)
    | error exc =>
      apply writeCreateFields_only
      intro writes again
      rw [returned] at again
      cases again
  rw [completeCreate]
  refine (calls_ensures written _ step (fun _ _ => trivial) setup).bind ?_ fun _ _ _ _ => trivial
  intro _ middle filled held
  refine (calls_ensures laterCalls_cards _ step (fun _ _ => trivial) held).bind ?_
    fun _ _ _ _ => trivial
  exact fun _ _ _ held => setFinalState_settles held

/-- A row that was never inserted does not turn up in the rest of a create,
whose calls are updates and those of the cards. -/
theorem completeCreate_absent {newServerId : Nat}
    (absent : ∀ row ∈ world.db.servers.rows, row.id ≠ id) :
    (completeCreate handler ctx newServerId).Ensures (faulty anyFaults) (fun _ => True)
      (fun _ _ after => ∀ row ∈ after.db.servers.rows, row.id ≠ id) state world := by
  have only : (completeCreate handler ctx newServerId).Only
      (calls (laterCall ctx fun _ => True)) := by
    apply completeCreate_only
    · exact fun writes _ => ⟨Or.inr ⟨_, rfl, trivial⟩, fun _ _ => Or.inr ⟨_, rfl, trivial⟩⟩
    · exact fun errors => Or.inr ⟨_, rfl, trivial⟩
    · exact fun _ cards => Or.inl cards
  apply calls_ensures only _ _ (fun _ _ => trivial) absent
  exact fun before held op allowed outcome _ => absent_next held allowed outcome

/-- No tag that counts names one of the columns the updates select by. -/
def CountedTagsKeepKeys (handler : InstanceHandler) (message : Message) (db : Cmdb) : Prop :=
  ∀ content, readCreate handler message = .ok (some content) →
    content.unrestricted db = true → TagsKeepKeys content

/-- How a normal end of a create leaves the row with this id. -/
def createdExit (handler : InstanceHandler) (message : Message) (db : Cmdb) (id : Nat)
    (result : Except Exn Unit) (final : FieldErrors) (after : World) : Prop :=
  match result with
  | .ok _ => (∀ row ∈ after.db.servers.rows, row.id ≠ id) ∨
      ∃ content, readCreate handler message = .ok (some content) ∧
        after.db.RowHolds id (Settled (content.context handler message db) final after.history)
  | .error _ => True

/-- A create settles the row that it inserted, if it ends normally and that row
is still the one it writes to. -/
theorem createInstances_settles (tags : CountedTagsKeepKeys handler message world.db) :
    (handler.createInstances message).Ensures (faulty anyFaults) (fun _ => True)
      (createdExit handler message world.db world.db.servers.next) state world := by
  have older : ∀ after : Cmdb, after.servers.rows.Sublist world.db.servers.rows →
      ∀ row ∈ after.servers.rows, row.id ≠ world.db.servers.next :=
    fun after fewer row stored => world.db.servers.next_absent row (fewer.subset stored)
  rw [createInstances, Action.ensures_bind, Action.ensures_modify]
  simp only
  refine (buildCreateContext_ensures fun _ _ => trivial).bind ?_ fun _ _ _ _ => trivial
  rintro found middle built ⟨reads, exit⟩
  cases found with
  | none =>
    refine Or.inl (older _ ?_)
    rw [reads.db]
  | some ctx =>
    obtain ⟨content, read, rfl, rfl⟩ := exit
    have fields : ∀ writes,
        handler.createWrites (content.context handler message world.db) = .ok writes →
        ∀ write ∈ writes, WritesFields write.mutation := by
      intro writes returned write member
      refine ⟨(writes_keep_iff returned).mpr (tags content read) write member, fun written => ?_⟩
      rcases createWrites_columns returned member written with fixed | ⟨key, tag, head⟩
      · exact absurd fixed (by decide)
      · exact content.context_no_state handler message world.db key tag head
    simp only
    rw [Action.ensures_bind, Action.ensures_attempt]
    refine (recreateServerRow_ensures (fun _ _ permitted => permitted) (fun _ _ => trivial)
      fun _ _ _ _ => trivial).mono ?_
    rw [reads.db]
    rintro (exc | id) final recreated ⟨-, exit⟩
    · simp only
      by_cases own : exc.isCmdbException = true
      · rw [if_pos own]
        exact Or.inl (older _ (exit own).servers)
      · rw [if_neg own]
        trivial
    · cases id with
      | none => exact exit.elim
      | some newServerId =>
        obtain ⟨base, ⟨shrunk, _⟩, how⟩ := exit
        have either : recreated.db = base ∨ recreated.db =
            base.insertServer (handler.serverColumns (content.context handler message world.db)) :=
          how.elim (fun inserted => Or.inr inserted.1) fun found => found.1
        simp only
        rcases either with same | took
        · have absent := older base shrunk.servers
          rw [← same] at absent
          refine (completeCreate_absent absent).mono ?_
          rintro (exc | value) last after held
          · trivial
          · exact Or.inl held
        · have setup : recreated.db.RowHolds world.db.servers.next
              (InSetup (content.context handler message world.db)) := by
            rw [took, ← shrunk.next]
            refine (rowHolds_insert base _).mono ?_
            rintro columns rfl
            exact inSetup_inserted
          refine (completeCreate_settles fields setup).mono ?_
          rintro (exc | value) last after held
          · trivial
          · exact Or.inr ⟨content, read, held⟩

end Settle

/-- The row a normally ended create inserted carries the settled state if its last update
was answered; if that was rejected, it keeps `setup`, or what an earlier attempt of the same
update wrote whose reply was lost. -/
theorem final_state_settled (handler : InstanceHandler) (message : Message) (db : Cmdb)
    (tags : CountedTagsKeepKeys handler message db) (state errors : FieldErrors) (last : World)
    (run : Prog.Ends (faulty anyFaults) ⟨db, []⟩ (handler.createInstances message state)
      (.ok (), errors) last)
    (row : Row Columns) (stored : row ∈ last.db.servers.rows)
    (inserted : row.id = db.servers.next) :
    ∃ content, readCreate handler message = .ok (some content) ∧
      Settled (content.context handler message db) errors last.history row.data := by
  have counted : CountedTagsKeepKeys handler message (⟨db, []⟩ : World).db := tags
  have exit := (createInstances_settles counted).at_end run
  rcases exit with absent | ⟨content, read, settledAs, held, same, settled⟩
  · exact absurd inserted (absent row stored)
  · obtain rfl : settledAs = row :=
      last.db.servers.row_unique held stored (same.trans inserted.symm)
    exact ⟨content, read, settled⟩

/-- A create with one card. -/
def cardCreate : Message :=
  AsciiRuntime.createMessage "dc1-b1" []
    [("net", [AsciiRuntime.fixedAddress "10.0.0.7" "m1" 1])]

/-- The run of this create on an empty store under these replies. -/
def cardCreateRun (script : List (Nat × Outcome)) : (Except Exn Unit × FieldErrors) × World :=
  (AsciiRuntime.handler.createInstances cardCreate {}).run (World.scripted script)
    ⟨Cmdb.empty AsciiRuntime.reference, []⟩

/-- The reply of the last update, the eighth call, is lost once. -/
def lostUpdate : List (Nat × Outcome) := [(7, .fail (.transport "lost") true)]

/-- The last update is rejected for good. -/
def rejectedUpdate : List (Nat × Outcome) := [(7, .fail (.data "rejected") false)]

/-- The final update is lost with its effect and repeated: the row carries the
settled state at the end. -/
theorem final_state_settled_lost :
    ∃ row ∈ (cardCreateRun lostUpdate).2.db.servers.rows,
      ∃ content, readCreate AsciiRuntime.handler cardCreate = .ok (some content) ∧
        Settled (content.context AsciiRuntime.handler cardCreate
            (Cmdb.empty AsciiRuntime.reference))
          (cardCreateRun lostUpdate).1.2 (cardCreateRun lostUpdate).2.history row.data := by
  have tags : CountedTagsKeepKeys AsciiRuntime.handler cardCreate
      (Cmdb.empty AsciiRuntime.reference) := by
    intro content read
    obtain rfl := Option.some.inj (Except.ok.inj read)
    intro _ key member
    cases member
  have run : Prog.Ends (faulty anyFaults) ⟨Cmdb.empty AsciiRuntime.reference, []⟩
      (AsciiRuntime.handler.createInstances cardCreate {})
      (.ok (), (cardCreateRun lostUpdate).1.2) (cardCreateRun lostUpdate).2 := by
    refine Prog.run_ends (scripted_possible _ (fun _ => trivial) ?_) _ _
    simp [lostUpdate, anyFaults, CallError.isTransport]
  exact ⟨_, List.mem_cons_self, final_state_settled AsciiRuntime.handler cardCreate
    (Cmdb.empty AsciiRuntime.reference) tags {} _ _ run _ List.mem_cons_self rfl⟩

/-- The last update is rejected, the create ends normally, and the row stays in `setup`. -/
theorem rejected_update_leaves_setup :
    Prog.Ends (faulty anyFaults) ⟨Cmdb.empty AsciiRuntime.reference, []⟩
        (AsciiRuntime.handler.createInstances cardCreate {})
        (.ok (), (cardCreateRun rejectedUpdate).1.2) (cardCreateRun rejectedUpdate).2 ∧
      (cardCreateRun rejectedUpdate).2.db.servers.rows.map (fun row => (row.id, row.data "state")) =
        [(0, .str "setup")] := by
  refine ⟨Prog.run_ends (scripted_possible _ (fun _ => trivial) ?_) _ _, rfl⟩
  simp [rejectedUpdate, anyFaults]

end InstanceLifecycle
