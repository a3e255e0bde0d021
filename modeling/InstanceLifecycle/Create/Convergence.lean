import InstanceLifecycle.Create.Acknowledgement
import InstanceLifecycle.Create.ContentFailure
import InstanceLifecycle.Create.HostRow

/-!
# Repeated creates converge

The rows of a host, without their ids, are a function of the message and the reference
rows. Every attempt that ends normally under transport failures leaves exactly them,
from whatever store it starts: the removal takes away what is registered, the insert
and its selector leave one fresh row, and what follows writes the planned columns,
endpoints and addresses. So the interrupted attempts before it leave no trace.
-/

namespace InstanceLifecycle

open Interaction Store InstanceHandler

/-! ## One attempt -/

/-- What the statement asks of a message: names, tags that keep the keys, placeholders
with macs of their own, and no address twice on a card. -/
structure CleanContent (content : CreateContent) : Prop where
  named : content.hostname ≠ ""
  identified : content.instanceId ≠ ""
  tags : ∀ key ∈ (cmdbTagsOf content.tags).keys,
    splitHead '.' key ∉ ["hostname", "uuid", "id"]
  macs : OwnMacs content.hostNetworks
  addresses : ∀ card ∈ content.hostNetworks, card.addresses.Nodup

/-- The tags of a clean create write no key column, since no tag that counts is
headed by one. -/
theorem CleanContent.keepsKeys {content : CreateContent} (clean : CleanContent content) :
    TagsKeepKeys content := by
  intro key member
  have heads := clean.tags key member
  constructor
  · exact fun same => heads (by simp [same])
  · exact fun same => heads (by simp [same])

/-- The store holds what the message and the reference rows determine. -/
def Converged (handler : InstanceHandler) (message : Message) (db after : Cmdb) : Prop :=
  ∃ content writes, readCreate handler message = .ok (some content) ∧
    handler.createWrites (content.context handler message db) = .ok writes ∧
    after.hostImages content.hostname content.instanceId =
      [plannedHost handler (content.context handler message db)
        (content.recorded handler db {}) writes db]

/-- No answer under transport failures rejects a call of the re-creation. -/
theorem transport_event (db : Cmdb) (op : CmdbOp) {outcome : Outcome}
    (permitted : transportFaults op outcome) :
    Event.rejectsRecreation ⟨.cmdb op, (db.answer op outcome).1⟩ = false := by
  cases outcome with
  | ok => cases op <;> rfl
  | fail error landed =>
    have transport : error.isTransport = true := permitted
    simp [Event.rejectsRecreation, Event.rejected, Cmdb.answer, transport]

section Attempt

variable {handler : InstanceHandler} {message : Message} {state : FieldErrors} {world : World}

/-- The calls about cards leave the servers alone. -/
theorem persistNetEndpoints_servers {ctx : CreateContext} {newServerId : Nat} {permits : Faults} :
    (handler.persistNetEndpoints ctx newServerId).Ensures (faulty permits) (fun _ => True)
      (fun _ _ after => after.db.servers = world.db.servers) state world := by
  have only : (handler.persistNetEndpoints ctx newServerId).Only
      (calls fun op => op.ofCards = true) :=
    persistCards_only fun _ cards => cards
  apply calls_ensures only (fun current => current.db.servers = world.db.servers) _
    (fun _ _ => trivial) rfl
  intro before held op cards outcome _
  rw [World.next_db, answer_cards_servers before.db op cards outcome]
  exact held

/-- The rest of a create leaves the planned host, over a fresh row. -/
theorem completeCreate_converges {content : CreateContent} {db : Cmdb} {id : Nat}
    (read : readCreate handler message = .ok (some content)) (clean : CleanContent content)
    (same : world.db.reference = db.reference)
    (only : OnlyRow (content.context handler message db) id
      (insertedColumns handler (content.context handler message db)) world.db world.db)
    (fresh : world.db.endpointsOf id = []) :
    (completeCreate handler (content.context handler message db) id).Ensures
      (faulty transportFaults) (fun _ => True)
      (fun result _ after => result = .ok () →
        ∃ writes, handler.createWrites (content.context handler message db) = .ok writes ∧
          after.db.hostImages content.hostname content.instanceId =
            [plannedHost handler (content.context handler message db) state writes db])
      state world := by
  generalize shape : content.context handler message db = ctx at only ⊢
  have cards : ctx.hostNetworks = content.hostNetworks := by rw [← shape]; rfl
  have hostname : ctx.hostname = content.hostname := by rw [← shape]; rfl
  have instanceId : ctx.instanceId = content.instanceId := by rw [← shape]; rfl
  have keeps : ∀ writes, handler.createWrites ctx = .ok writes →
      ∀ write ∈ writes, KeepsKeys write.mutation := by
    intro writes returned
    rw [← shape] at returned
    exact (writes_keep_iff returned).mpr fun _ => clean.keepsKeys
  rw [completeCreate]
  refine (writeCreateFields_lands only registered_inserted keeps).bind ?_
    fun _ _ _ _ impossible => by cases impossible
  intro _ middle filled landed
  obtain ⟨writes, returned, rfl, written⟩ := landed () rfl
  have named : ((cardNames (realNames ctx.hostNetworks) ctx.hostNetworks).map some).Nodup := by
    have increasing := readCreate_increasing read
    rw [← cards] at increasing
    exact (cardNames_distinct ctx.hostNetworks increasing).map (Option.some_injective String)
  have prefixes : ∀ other : Cmdb, other.reference = db.reference →
      other.rows (.networkPrefixSelect ctx.dcName) = db.rows (.networkPrefixSelect ctx.dcName) := by
    intro other known
    simp only [Cmdb.rows, known]
  have planned : (handler.persistNetEndpoints ctx id).Ensures (faulty transportFaults)
      (fun _ => True)
      (cardsPlanned id ([] ++ cardPayloads id (realNames ctx.hostNetworks) ctx.hostNetworks) []
        (plannedCards handler (db.rows (.networkPrefixSelect ctx.dcName))
          (realNames ctx.hostNetworks) [] middle ctx.hostNetworks)) middle filled :=
    persistCards_planned _ ctx.hostNetworks _ [] db.reference (written.reference.trans same)
      prefixes (written.holding fresh) named (cards ▸ clean.macs) (by simp)
      (cards ▸ clean.addresses)
  have both := planned.and persistNetEndpoints_servers
  refine (both.env_mono (fun _ _ _ _ step => step) (fun _ _ => trivial)).bind ?_
    fun _ _ _ _ impossible => by cases impossible
  rintro ⟨⟩ errors carded ⟨⟨rfl, held⟩, servers⟩
  have row : OnlyRow ctx id ((insertedColumns handler ctx).write (mergeWrites writes)) carded.db
      carded.db := by
    refine ⟨?_, rfl, rfl, rfl⟩
    rw [Cmdb.hostRows, servers]
    exact written.sole
  have registered : Registered ctx ((insertedColumns handler ctx).write (mergeWrites writes)) :=
    registered_write registered_inserted (mergeWrites_keeps (keeps writes returned))
  refine (setFinalState_lands row registered).mono ?_
  intro result final last ended normal
  have settled := ended () normal
  refine ⟨writes, returned, ?_⟩
  rw [Cmdb.hostImages, ← hostname, ← instanceId, settled.sole, List.map_singleton,
    endpointImages_congr settled.endpoints settled.ips, held.images]
  rfl

/-- A message that carries an instance is read as a create or refused; it is not
passed over. -/
theorem readCreate_carried (carried : hasInstance message) :
    readCreate handler message ≠ .ok none := by
  obtain ⟨resource, found⟩ := extractResource_instance handler message carried
  intro missing
  obtain ⟨looked, extracted, missing⟩ := bind_returned missing
  cases found.symm.trans extracted
  obtain ⟨_, _, missing⟩ := bind_returned missing
  obtain ⟨_, _, missing⟩ := bind_returned missing
  obtain ⟨_, _, missing⟩ := bind_returned missing
  cases missing

/-- While calls fail by transport only, no event of a run rejects the
recreation. It is kept by every call, the answer of which is a row or a
transport failure. -/
theorem transport_never_rejects {α : Type} (action : Run α) :
    action.Ensures (faulty transportFaults) (fun _ => True)
      (fun _ _ after => ∃ tail, after.history = world.history ++ tail ∧
        tail.any Event.rejectsRecreation = false) state world := by
  apply action_keeps (fun after => ∃ tail, after.history = world.history ++ tail ∧
    tail.any Event.rejectsRecreation = false)
  · rintro before op outcome ⟨tail, grown, none⟩ permitted
    refine ⟨tail ++ [⟨.cmdb op, (before.db.answer op outcome).1⟩], ?_, ?_⟩
    · rw [World.next_history, grown, List.append_assoc]
    · simp [none, transport_event before.db op permitted]
  · rintro before ⟨op, reply⟩ broker ⟨tail, grown, none⟩
    refine ⟨tail ++ [⟨op, reply⟩], by rw [World.record_history, grown, List.append_assoc], ?_⟩
    cases op <;> simp_all [Event.isCall, Event.rejectsRecreation]
  · exact ⟨[], by simp⟩

/-- Under transport failures a re-creation that does not raise leaves the fresh row, and
it raises none of the service's own exceptions. -/
theorem recreateServerRow_fresh {ctx : CreateContext} (named : ctx.hostname ≠ "") :
    (handler.recreateServerRow ctx).Ensures (faulty transportFaults) (fun _ => True)
      (fun result final after => final = state ∧
        match result with
        | .ok (some id) => ∃ base, Cleared world.db base (creationKeys ctx) ∧
            after.db = base.insertServer (handler.serverColumns ctx) ∧ id = base.servers.next
        | .ok none => False
        | .error exc => exc.isCmdbException = false) state world := by
  have recreated : (handler.recreateServerRow ctx).Ensures (faulty transportFaults)
      (fun _ => True) (fun result final after => final = state ∧
        recreatedExit handler ctx world.db result after.db) state world :=
    recreateServerRow_ensures transport_any (fun _ _ => trivial) fun _ _ _ _ => trivial
  have all := (recreated.and (recreateServerRow_tally handler ctx (.start world.history))).and
    (transport_never_rejects (handler.recreateServerRow ctx))
  refine (all.env_mono (fun _ _ _ _ step => step) fun _ _ => trivial).mono ?_
  rintro (exc | found) final after ⟨⟨⟨rfl, exit⟩, tally⟩, tail, grown, none⟩
  · refine ⟨rfl, ?_⟩
    obtain ⟨other, same, -, -, met⟩ := Tally.calls tally
    have one : other = tail := List.append_cancel_left (same.symm.trans grown)
    rw [one, none] at met
    exact met.symm
  · cases found with
    | none => exact exit.elim
    | some id =>
      obtain ⟨base, cleared, ⟨took, fresh⟩ | ⟨either, selected⟩⟩ := exit
      · exact ⟨rfl, base, cleared, took, fresh⟩
      · rcases lookUp_recreated cleared either selected with inserted | ⟨row, stranger, _⟩
        · exact ⟨rfl, base, cleared, inserted⟩
        · rw [stranger_named named] at stranger
          cases stranger

/-- An attempt that ends normally leaves the planned host, from whatever store
it starts. The context is the one read from the first store, because the
reference rows are the same; then the row, its fields, its cards and the final
state land one after the other. -/
theorem createInstances_converges {db : Cmdb} (carried : hasInstance message)
    (clean : ∀ content, readCreate handler message = .ok (some content) → CleanContent content)
    (same : world.db.reference = db.reference) :
    (handler.createInstances message).Ensures (faulty transportFaults) (fun _ => True)
      (fun result _ after => result = .ok () → Converged handler message db after.db) state
      world := by
  rw [createInstances, Action.ensures_bind, Action.ensures_modify]
  simp only
  refine (buildCreateContext_ensures fun _ _ => trivial).bind ?_
    fun _ _ _ _ impossible => by cases impossible
  rintro found middle after ⟨reads, built⟩
  cases found with
  | none => exact absurd built (readCreate_carried carried)
  | some ctx =>
    obtain ⟨content, read, rfl, rfl⟩ := built
    have fromDb : content.context handler message world.db = content.context handler message db ∧
        content.recorded handler world.db {} = content.recorded handler db {} :=
      context_congr content same
    rw [fromDb.1, fromDb.2]
    have wellFormed := clean content read
    simp only
    rw [Action.ensures_bind, Action.ensures_attempt]
    refine (recreateServerRow_fresh wellFormed.named).mono ?_
    rintro result final recreated ⟨rfl, exit⟩
    cases result with
    | error exc =>
      simp only at exit
      simp only [exit]
      exact fun impossible => by cases impossible
    | ok inserted =>
      cases inserted with
      | none => exact exit.elim
      | some id =>
        obtain ⟨base, cleared, took, rfl⟩ := exit
        have known : recreated.db.reference = db.reference := by
          rw [took]
          exact cleared.1.reference.trans ((congrArg Cmdb.reference reads.db).trans same)
        have only : OnlyRow (content.context handler message db) base.servers.next
            (insertedColumns handler (content.context handler message db)) recreated.db
            recreated.db := by
          refine ⟨?_, rfl, rfl, rfl⟩
          rw [took]
          exact hostRows_insert cleared wellFormed.named wellFormed.identified
        have fresh : recreated.db.endpointsOf base.servers.next = [] := by
          rw [took]
          exact endpointsOf_inserted base _
        refine (completeCreate_converges read wellFormed known only fresh).mono ?_
        intro ended errors last planned normal
        obtain ⟨writes, returned, images⟩ := planned normal
        exact ⟨content, writes, read, returned, images⟩

end Attempt

/-! ## The message -/

section Message

variable {service : MessageHandlerService} {message : Message} {db : Cmdb} {state : FieldErrors}
  {world : World}

/-- A create issues no confirmation, so a message that was not acked before it
is not acked after it. The tally of its calls has CMDB calls only. -/
theorem createInstances_unacked (carried : hasInstance message) (unacked : world.acked = false) :
    (service.handler.createInstances message).Ensures (faulty transportFaults) (fun _ => True)
      (fun _ _ after => after.acked = false) state world := by
  have silent : ∀ (hands rejects : Bool) (after : World),
      Tally world.history hands rejects after.history → after.acked = false := by
    intro hands rejects after tally
    obtain ⟨tail, grown, calls, -⟩ := tally.calls
    rw [World.acked, grown, List.any_append, (quiet_tail calls).1, Bool.or_false]
    exact unacked
  refine (createInstances_tally service.handler message carried (.start world.history)).mono ?_
  rintro (exc | value) final after ⟨hands, tally⟩
  · exact silent hands false after tally
  · exact silent hands (!hands) after tally

/-- A run of the message leaves the planned host or no ack. An attempt that
returns has converged, and after attempts that all raised the message is
rejected. -/
theorem handleMessage_converges (create : message.actionType = some "create")
    (carried : hasInstance message) (attempts : 0 < service.maxRetries)
    (clean : ∀ content, readCreate service.handler message = .ok (some content) →
      CleanContent content)
    (same : world.db.reference = db.reference) (unacked : world.acked = false) :
    (service.handleMessage (.ok message)).Ensures (faulty transportFaults) (fun _ => True)
      (fun _ _ after => Converged service.handler message db after.db ∨ after.acked = false)
      state world := by
  apply MessageHandlerService.handleMessage_ensures (faulty_within _).records
    (fun after => after.db.reference = db.reference ∧ after.acked = false)
    (fun after => Converged service.handler message db after.db)
    (fun after => after.acked = false)
    (fun after => Converged service.handler message db after.db)
    (fun after => after.acked = false)
  · intro none
    omega
  · rintro state world ⟨known, silent⟩
    apply MessageHandlerService.processDelivery_ensures (faulty_within _).records trivial
    rw [service.handler.dispatch_create create]
    have quiet : (world.record ⟨.started message, ()⟩).acked = false :=
      (world.record_acked _ rfl).trans silent
    have converges : (service.handler.createInstances message).Ensures (faulty transportFaults)
        (fun _ => True)
        (fun result _ after => result = .ok () → Converged service.handler message db after.db)
        state (world.record ⟨.started message, ()⟩) :=
      createInstances_converges carried clean known
    have all := (converges.and (createInstances_unacked carried quiet)).and
      (reference_kept (service.handler.createInstances message))
    refine (all.env_mono (fun _ _ _ _ step => step) fun _ _ => trivial).mono ?_
    rintro (exc | ⟨⟩) final after ⟨⟨converged, still⟩, kept⟩
    · exact ⟨still, fun _ => ⟨kept.trans known, still⟩⟩
    · exact converged rfl
  · exact fun reply world either => ⟨trivial, either.elim id id⟩
  · intro reply world either
    exact ⟨trivial, (world.record_acked _ rfl).trans (either.elim id id)⟩
  · exact fun _ _ => ⟨id, id⟩
  · exact ⟨same, unacked⟩

/-- Where no call fails, the first attempt leaves the planned host: the create
returns, so no other attempt is made, and what follows is a confirmation. -/
theorem handleMessage_calm (create : message.actionType = some "create")
    (carried : hasInstance message) (attempts : 0 < service.maxRetries)
    (clean : ∀ content, readCreate service.handler message = .ok (some content) →
      CleanContent content)
    {content : CreateContent} (read : readCreate service.handler message = .ok (some content))
    {writes : List FieldWrite}
    (returned : service.handler.createWrites (content.context service.handler message db) =
      .ok writes) (same : world.db.reference = db.reference) :
    (service.handleMessage (.ok message)).Ensures (faulty noFaults) (fun _ => True)
      (fun _ _ after => Converged service.handler message db after.db) state world := by
  have settles : (service.handleMessage (.ok message)).Ensures (faulty noFaults) (fun _ => True)
      (fun _ _ after => Converged service.handler message db after.db ∨ False) state world := by
    apply MessageHandlerService.handleMessage_ensures (faulty_within _).records
      (fun after => after.db.reference = db.reference)
      (fun after => Converged service.handler message db after.db) (fun _ => False)
      (fun after => Converged service.handler message db after.db) (fun _ => False)
    · intro none
      omega
    · intro state world known
      apply MessageHandlerService.processDelivery_ensures (faulty_within _).records trivial
      rw [service.handler.dispatch_create create]
      have started : (world.record ⟨.started message, ()⟩).db.reference = db.reference := known
      have converges : (service.handler.createInstances message).Ensures (faulty noFaults)
          (fun _ => True)
          (fun result _ after => result = .ok () → Converged service.handler message db after.db)
          state (world.record ⟨.started message, ()⟩) :=
        (createInstances_converges carried clean started).env_mono
          (faulty_mono noFaults_transport) fun _ _ => trivial
      have sameContext : content.context service.handler message world.db =
          content.context service.handler message db := (context_congr content known).1
      refine ((converges.and createInstances_faultless).env_mono (fun _ _ _ _ step => step)
        fun _ _ => trivial).mono ?_
      rintro result final after ⟨converged, exit⟩
      simp only [contentExit, read, World.record_db, sameContext, returned] at exit
      obtain ⟨-, rfl⟩ := exit
      exact converged rfl
    · exact fun reply world either => ⟨trivial, either.elim id id⟩
    · exact fun reply world either => (either.elim id id).elim
    · exact fun _ _ => ⟨id, id⟩
    · exact same
  exact settles.mono fun _ _ _ either => either.elim id False.elim

end Message

/-- A run of a create under transport failures that ends in an ack and a run of it in which
no call fails leave the same: one row for its host, with the same columns, endpoints and
addresses. -/
theorem create_converges (service : MessageHandlerService) (message : Message)
    (create : message.actionType = some "create") (carried : hasInstance message)
    (attempts : 0 < service.maxRetries)
    (clean : ∀ content, readCreate service.handler message = .ok (some content) →
      CleanContent content)
    (db : Cmdb) (state : FieldErrors) (ended calmEnded : Except Exn Unit × FieldErrors)
    (last calm : World)
    (run : Prog.Ends (faulty transportFaults) ⟨db, []⟩ (service.handleMessage (.ok message) state)
      ended last)
    (acked : last.acked = true)
    (calmRun : Prog.Ends (faulty noFaults) ⟨db, []⟩ (service.handleMessage (.ok message) state)
      calmEnded calm) :
    ∃ content image, readCreate service.handler message = .ok (some content) ∧
      last.db.hostImages content.hostname content.instanceId = [image] ∧
      calm.db.hostImages content.hostname content.instanceId = [image] := by
  have ensured : (service.handleMessage (.ok message)).Ensures (faulty transportFaults)
      (fun _ => True)
      (fun _ _ after => Converged service.handler message db after.db ∨ after.acked = false)
      state ⟨db, []⟩ :=
    handleMessage_converges create carried attempts clean rfl rfl
  rcases ensured.at_end run with converged | silent
  · obtain ⟨content, writes, read, returned, images⟩ := converged
    have calmly : (service.handleMessage (.ok message)).Ensures (faulty noFaults) (fun _ => True)
        (fun _ _ after => Converged service.handler message db after.db) state ⟨db, []⟩ :=
      handleMessage_calm create carried attempts clean read returned rfl
    obtain ⟨again, others, readAgain, returnedAgain, calmImages⟩ := calmly.at_end calmRun
    obtain rfl : content = again := by
      rw [read] at readAgain
      simpa using readAgain
    obtain rfl : writes = others := by
      rw [returned] at returnedAgain
      simpa using returnedAgain
    exact ⟨content, _, read, images, calmImages⟩
  · rw [silent] at acked
    cases acked

/-- The replies lost in a run of the sample create: of the insert, of every update of the
batch, so that the attempt is given up, and of the endpoint in the second attempt. -/
def lostReplies : List (Nat × Outcome) :=
  [4, 6, 7, 8, 9, 10, 17].map (fun position => (position, .fail (.transport "lost") true))

/-- The script that loses every reply once is made of transport faults, so its
answers are possible ones. -/
theorem lostReplies_possible (op : service.Op) (world : World) :
    faulty transportFaults op world (world.scripted lostReplies op).1
      (world.scripted lostReplies op).2 :=
  scripted_possible _ (fun _ => trivial)
    (by simp [lostReplies, transportFaults, CallError.isTransport]) op world

/-- The world after the sample create of a registered host under these replies. -/
def resampledEnd (answer : (op : service.Op) → World → service.Reply op × World) : World :=
  ((AsciiRuntime.service.handleMessage (.ok sampleCreate) {}).run answer
    ⟨AsciiRuntime.registered, []⟩).2

/-- A create whose replies get lost, and one without faults: both leave a single
host, and the two are alike. -/
theorem create_converges_lost :
    ∃ content image, readCreate AsciiRuntime.handler sampleCreate = .ok (some content) ∧
      (resampledEnd (World.scripted lostReplies)).db.hostImages content.hostname
        content.instanceId = [image] ∧
      (resampledEnd (World.answer .ok)).db.hostImages content.hostname content.instanceId =
        [image] := by
  have clean : ∀ content, readCreate AsciiRuntime.handler sampleCreate = .ok (some content) →
      CleanContent content := by
    intro content read
    obtain rfl := Option.some.inj (Except.ok.inj read)
    refine ⟨by decide, by decide, ?_, ?_, by decide⟩
    · intro key member
      cases member
    · exact List.pairwise_singleton _ _
  have acked : (resampledEnd (World.scripted lostReplies)).acked = true := by
    decide +kernel
  exact create_converges AsciiRuntime.service sampleCreate rfl sampleCreate_instance (by decide)
    clean AsciiRuntime.registered {} _ _ _ _ (Prog.run_ends lostReplies_possible _ _) acked
    (Prog.run_ends faultless_possible _ _)

end InstanceLifecycle
