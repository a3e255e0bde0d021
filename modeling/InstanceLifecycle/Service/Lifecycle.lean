import InstanceLifecycle.Create.Convergence
import InstanceLifecycle.Service.Effects

/-!
# The life of a host

A create starts a host over: what it leaves depends on its message and the reference rows, not on
what happened before it, whether that was another create, a delivery that broke off or a stray
row. Resizes after it change two columns of its row. So the host is what its last create and the
resizes since then make it.
-/

namespace InstanceLifecycle

open Interaction Store InstanceHandler

section Reference

variable {permits : Faults} {worker : MessageHandlerService}

/-- No event changes the reference classes. -/
theorem faulty_reference {op : ServiceOp} {reply : op.Reply} {before after : World}
    (step : faulty permits op before reply after) :
    after.db.reference = before.db.reference := by
  cases op with
  | cmdb op =>
    obtain ⟨outcome, -, -, rfl⟩ := faulty_next step
    exact before.db.answer_reference op outcome
  | started message => rw [faulty_recorded rfl step, World.record_db]
  | ack => rw [faulty_recorded rfl step, World.record_db]
  | nack => rw [faulty_recorded rfl step, World.record_db]

/-- So no run does. -/
theorem steps_reference {α : Type} {program rest : Prog service α} {world last : World}
    (run : Prog.Steps (faulty permits) world program last rest) :
    last.db.reference = world.db.reference := by
  induction run with
  | refl => rfl
  | call step tail ih => exact ih.trans (faulty_reference step)

/-- Nor do redeliveries of a message. -/
theorem Redelivered.reference {message : Message} {db last : Cmdb}
    (run : Redelivered worker message db last) : last.reference = db.reference := by
  induction run with
  | acked run acked => exact steps_reference run
  | again run later ih => exact ih.trans (steps_reference run)

/-- Nor does a sequence of them. -/
theorem RedeliveredInTurn.reference {messages : List Message} {db last : Cmdb}
    (run : RedeliveredInTurn worker messages db last) : last.reference = db.reference := by
  induction run with
  | done db => rfl
  | next first later ih => exact ih.trans first.reference

/-- A run of two sequences is one of the first and then one of the second. -/
theorem RedeliveredInTurn.split {earlier messages : List Message} {db last : Cmdb}
    (run : RedeliveredInTurn worker (earlier ++ messages) db last) :
    ∃ middle, RedeliveredInTurn worker earlier db middle ∧
      RedeliveredInTurn worker messages middle last := by
  induction earlier generalizing db with
  | nil => exact ⟨db, .done db, run⟩
  | cons message rest ih =>
    cases run with
    | next first later =>
      obtain ⟨middle, before, after⟩ := ih later
      exact ⟨middle, .next first before, after⟩

end Reference

section Create

variable {worker : MessageHandlerService} {message : Message} {db before after : Cmdb}

/-- Wherever its earlier deliveries broke off, an acked create has left the planned host. -/
theorem Redelivered.converges (create : message.actionType = some "create")
    (carried : hasInstance message) (attempts : worker.maxRetries ≠ 0)
    (clean : ∀ content, readCreate worker.handler message = .ok (some content) →
      CleanContent content)
    (same : before.reference = db.reference) (run : Redelivered worker message before after) :
    Converged worker.handler message db after := by
  induction run with
  | @acked before last state exit run acked =>
    have converges : (worker.handleMessage (.ok message)).Ensures (faulty transportFaults)
        (fun _ => True)
        (fun _ _ after => Converged worker.handler message db after.db ∨ after.acked = false)
        state ⟨before, []⟩ :=
      handleMessage_converges create carried (Nat.pos_of_ne_zero attempts) clean same rfl
    rcases converges.at_end run with converged | silent
    · exact converged
    · rw [silent] at acked
      cases acked
  | again run later ih => exact ih ((steps_reference run).trans same)

end Create

/-! ## Resizes after the create -/

/-- The same host with other columns. -/
def HostImage.resized (image : HostImage) (mutation : Mutation) : HostImage :=
  { image with columns := image.columns.write mutation }

section Resized

variable {handler : InstanceHandler} {hostname instanceId : String} {db : Cmdb}

/-- An update that keeps the two keys moves no row to or from the host. -/
theorem hostRows_updateServers (allOf : List ServerKey) {mutation : Mutation}
    (keeps : KeepsKeys mutation) :
    (db.updateServers allOf mutation).hostRows hostname instanceId =
      (db.hostRows hostname instanceId).map (fun row =>
        if allOf.all (ServerKey.holds row) then ⟨row.id, row.data.write mutation⟩ else row) := by
  simp only [Cmdb.hostRows, Cmdb.updateServers, Table.rewrite, List.filter_map]
  congr 1
  apply List.filter_congr
  intro row _
  simp only [Function.comp]
  split
  · simp only [onHost, ServerKey.holds, hasUuid]
    rw [row.data.write_of_absent mutation "hostname" keeps.1,
      row.data.write_of_absent mutation "uuid" keeps.2]
  · rfl

/-- An update of the one host with this uuid changes its columns, and its
endpoints and IPs stay. -/
theorem hostImages_resized {image : HostImage} {mutation : Mutation} (keeps : KeepsKeys mutation)
    (identified : image.columns "uuid" = .str instanceId)
    (sole : db.hostImages hostname instanceId = [image]) :
    (db.updateServers [.uuid (some instanceId)] mutation).hostImages hostname instanceId =
      [image.resized mutation] := by
  obtain ⟨row, rows, rfl⟩ := List.map_eq_singleton_iff.mp sole
  have selected : [ServerKey.uuid (some instanceId)].all (ServerKey.holds row) = true := by
    simp only [List.all_cons, List.all_nil, Bool.and_true, ServerKey.holds, hasUuid]
    exact (Value.isStr_iff _ _).mpr identified
  rw [Cmdb.hostImages, hostRows_updateServers _ keeps, rows, List.map_singleton, List.map_singleton,
    if_pos selected]
  rfl

/-- The columns of a resize spare the keys. -/
theorem resizedBy_keepsKeys (message : Message) : KeepsKeys (handler.resizedBy message) := by
  rw [resizedBy]
  split
  · exact (readResize_returned ‹_›).2
  · exact ⟨List.not_mem_nil, List.not_mem_nil⟩

/-- So do those of several. -/
theorem resizedColumns_keepsKeys (messages : List Message) :
    KeepsKeys (resizedColumns handler messages) := by
  have after : ∀ columns : Mutation, KeepsKeys columns → KeepsKeys (messages.foldl
      (fun columns message => columns.merge (handler.resizedBy message)) columns) := by
    induction messages with
    | nil => exact fun _ keeps => keeps
    | cons message rest ih => exact fun _ keeps => ih _ (keeps.merge (resizedBy_keepsKeys message))
  exact after .empty ⟨List.not_mem_nil, List.not_mem_nil⟩

/-- The planned row carries the uuid of its message, for neither the tags nor
the steps write it. -/
theorem plannedHost_uuid {content : CreateContent} {message : Message} {writes : List FieldWrite}
    (clean : CleanContent content)
    (returned : handler.createWrites (content.context handler message db) = .ok writes) :
    (plannedHost handler (content.context handler message db) (content.recorded handler db {})
      writes db).columns "uuid" = .str content.instanceId := by
  have keeps := mergeWrites_keeps ((writes_keep_iff returned).mpr fun _ => clean.keepsKeys)
  have filled : Registered (content.context handler message db)
      ((insertedColumns handler (content.context handler message db)).write (mergeWrites writes)) :=
    registered_write registered_inserted keeps
  exact (registered_write filled (finalState_keeps _)).2

end Resized

/-- A host is what its last create and the resizes since then make it. Whatever messages came
before, and wherever deliveries break off and requests and replies are lost, the host has the one
row that the create plans from its message and the reference rows, with the columns of the
resizes. -/
theorem create_starts_over (worker : MessageHandlerService) (attempts : worker.maxRetries ≠ 0)
    (earlier later : List Message) (message : Message)
    (create : message.actionType = some "create") (carried : hasInstance message)
    (clean : ∀ content, readCreate worker.handler message = .ok (some content) →
      CleanContent content)
    (resizes : ∀ content, readCreate worker.handler message = .ok (some content) →
      ∀ resize ∈ later, ResizesHost worker.handler (some content.instanceId) resize)
    (db last : Cmdb) (run : RedeliveredInTurn worker (earlier ++ message :: later) db last) :
    ∃ content writes, readCreate worker.handler message = .ok (some content) ∧
      worker.handler.createWrites (content.context worker.handler message db) = .ok writes ∧
      last.hostImages content.hostname content.instanceId =
        [(plannedHost worker.handler (content.context worker.handler message db)
          (content.recorded worker.handler db {}) writes db).resized
            (resizedColumns worker.handler later)] := by
  obtain ⟨before, history, rest⟩ := run.split
  cases rest with
  | next created onward =>
    obtain ⟨content, writes, read, returned, sole⟩ :=
      created.converges create carried attempts clean history.reference
    have identified := plannedHost_uuid (clean content read) returned
    have resized := onward.resizes attempts (resizes content read)
    refine ⟨content, writes, read, returned, ?_⟩
    rw [resized]
    exact hostImages_resized (resizedColumns_keepsKeys later) identified sole

/-- The sample create is a clean one. -/
theorem sampleCreate_clean : ∀ content,
    readCreate AsciiRuntime.service.handler sampleCreate = .ok (some content) →
      CleanContent content := by
  intro content read
  obtain rfl := Option.some.inj (Except.ok.inj read)
  refine ⟨by decide, by decide, ?_, ?_, by decide⟩
  · intro key member
    cases member
  · exact List.pairwise_singleton _ _

/-- The host is registered already, an attach for it is handled, and then its create breaks off
behind the insert of its row before it is delivered again and a resize follows. -/
theorem create_starts_over_resized :
    let attach := AsciiRuntime.attachMessage "10.0.0.9" "m9"
    let resize := AsciiRuntime.resizeMessage "large" 9
    let attached := (undisturbed attach AsciiRuntime.registered).db
    let created := (undisturbed sampleCreate (brokenOff 6 sampleCreate attached)).db
    ∃ content writes, readCreate AsciiRuntime.handler sampleCreate = .ok (some content) ∧
      AsciiRuntime.handler.createWrites
        (content.context AsciiRuntime.handler sampleCreate AsciiRuntime.registered) = .ok writes ∧
      (undisturbed resize created).db.hostImages content.hostname content.instanceId =
        [(plannedHost AsciiRuntime.handler
          (content.context AsciiRuntime.handler sampleCreate AsciiRuntime.registered)
          (content.recorded AsciiRuntime.handler AsciiRuntime.registered {}) writes
          AsciiRuntime.registered).resized (resizedColumns AsciiRuntime.handler [resize])] := by
  refine create_starts_over AsciiRuntime.service (by decide)
    [AsciiRuntime.attachMessage "10.0.0.9" "m9"] [AsciiRuntime.resizeMessage "large" 9] sampleCreate
    rfl sampleCreate_instance sampleCreate_clean ?_ AsciiRuntime.registered _
    (.next (.undisturbed (by decide +kernel))
      (.next (.brokenOff 6 (.undisturbed (by decide +kernel)))
        (.next (.undisturbed (by decide +kernel)) (.done _))))
  intro content read resize member
  obtain rfl := Option.some.inj (Except.ok.inj read)
  rw [List.mem_singleton.mp member]
  exact ⟨rfl, fun other columns read => by cases read; rfl⟩

end InstanceLifecycle
