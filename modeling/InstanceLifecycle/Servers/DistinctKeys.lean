import InstanceLifecycle.Create.Recreation
import InstanceLifecycle.Create.TagColumns
import InstanceLifecycle.Create.WhitelistedTags
import InstanceLifecycle.Service.Rules

/-!
# Hostnames and uuids stay distinct

Neither column is protected by the store, so an insert must find both keys free and no
update may name them. The removal in front of the insert deletes by both keys, and when
one of its calls fails the create ends before the insert. The insert is repeated only
after its selector found no row with the hostname, which it would find if the insert had
taken effect. Nothing else writes the two columns as long as the tags of a create are
held to the whitelist.
-/

namespace InstanceLifecycle

open Interaction Store InstanceHandler

/-- One column of all servers, with repetitions. -/
def Cmdb.serverColumn (db : Cmdb) (column : String) : List Value :=
  db.servers.rows.map (fun server => server.data column)

/-- The uuids of the servers are pairwise distinct, and so are the hostnames. -/
structure KeysDistinct (db : Cmdb) : Prop where
  uuids : (db.serverColumn "uuid").Nodup
  hostnames : (db.serverColumn "hostname").Nodup

/-- A call that neither inserts a server nor writes one of the two columns. -/
def CmdbOp.sparesKeys : CmdbOp → Prop
  | .serverInsertOne _ => False
  | .serverUpdate _ mutation => KeepsKeys mutation
  | _ => True

/-! ## The store -/

/-- Distinct keys stay distinct when servers are deleted. -/
theorem KeysDistinct.fewer {before after : Cmdb} (distinct : KeysDistinct before)
    (fewer : after.servers.rows.Sublist before.servers.rows) : KeysDistinct after :=
  ⟨distinct.uuids.sublist (fewer.map _), distinct.hostnames.sublist (fewer.map _)⟩

/-- An update writes the columns it names and no other. -/
theorem serverColumn_update (db : Cmdb) (allOf : List ServerKey) (mutation : Mutation)
    (column : String) (absent : column ∉ mutation.keys) :
    (db.updateServers allOf mutation).serverColumn column = db.serverColumn column := by
  simp only [Cmdb.serverColumn, Cmdb.updateServers, Table.rewrite, List.map_map]
  apply List.map_congr_left
  intro server _
  simp only [Function.comp]
  split
  · exact server.data.write_of_absent mutation column absent
  · rfl

/-- An update that names neither key keeps both distinct. -/
theorem KeysDistinct.update {db : Cmdb} (distinct : KeysDistinct db) (allOf : List ServerKey)
    {mutation : Mutation} (keeps : KeepsKeys mutation) :
    KeysDistinct (db.updateServers allOf mutation) := by
  constructor
  · rw [serverColumn_update db allOf mutation "uuid" keeps.2]
    exact distinct.uuids
  · rw [serverColumn_update db allOf mutation "hostname" keeps.1]
    exact distinct.hostnames

/-- The values of a column stay distinct when a row comes whose value is not
among them. -/
theorem nodup_insertServer {db : Cmdb} {columns : Mutation} {column : String}
    (distinct : (db.serverColumn column).Nodup)
    (free : Columns.write (fun _ => .null) columns column ∉ db.serverColumn column) :
    ((db.insertServer columns).serverColumn column).Nodup := by
  have added : (db.insertServer columns).serverColumn column =
      db.serverColumn column ++ [Columns.write (fun _ => .null) columns column] := by
    simp [Cmdb.serverColumn, Cmdb.insertServer, Table.insert]
  rw [added, List.nodup_append]
  refine ⟨distinct, List.nodup_singleton _, ?_⟩
  intro value old other new same
  rw [List.mem_singleton.mp new] at same
  exact free (same ▸ old)

/-- Every call that spares the keys keeps them distinct. By cases on the call. -/
theorem KeysDistinct.effect {db : Cmdb} (distinct : KeysDistinct db) (op : CmdbOp)
    (spares : op.sparesKeys) : KeysDistinct (db.effect op) := by
  cases op with
  | serverInsertOne columns => exact spares.elim
  | serverUpdate allOf mutation => exact distinct.update allOf spares
  | serverDelete id => exact distinct.fewer List.filter_sublist
  | endpointInsertOne columns =>
    apply distinct.fewer
    rw [Cmdb.effect, db.insertEndpoint_servers]
  | ipInsertOne columns =>
    apply distinct.fewer
    rw [Cmdb.effect, db.insertIp_servers]
  | _ => exact ⟨distinct.uuids, distinct.hostnames⟩

/-- Whatever its outcome. -/
theorem KeysDistinct.next {world : World} (distinct : KeysDistinct world.db) (op : CmdbOp)
    (spares : op.sparesKeys) (outcome : Outcome) : KeysDistinct (world.next op outcome).db := by
  rw [World.next_db]
  rcases world.db.answer_db op outcome with same | took
  · rw [same]
    exact distinct
  · rw [took]
    exact distinct.effect op spares

/-! ## Actions -/

/-- The invariant of every state: both keys are distinct in the store of the
world. -/
def KeysApart (world : World) : Prop := KeysDistinct world.db

section Actions

variable {permits : Faults} {handler : InstanceHandler} {state : FieldErrors} {world : World}
  {ctx : CreateContext}

/-- Any part of an action that spares the keys keeps it. -/
theorem sparing_ensures {α : Type} {action : Run α} (only : action.Only (calls CmdbOp.sparesKeys))
    (apart : KeysApart world) :
    action.Ensures (faulty permits) KeysApart (fun _ _ after => KeysApart after) state world := by
  apply calls_ensures only KeysApart ?_ (fun _ held => held) apart
  exact fun before held op spares outcome _ => KeysDistinct.next held op spares outcome

/-- A row inserted over a cleared store keeps the keys distinct. The removal
took every row that carries one of its keys, so both of them are free. -/
theorem KeysDistinct.recreated {before base : Cmdb} (distinct : KeysDistinct before)
    (cleared : Cleared before base (creationKeys ctx)) (named : ctx.hostname ≠ "")
    (identified : ctx.instanceId ≠ "") :
    KeysDistinct (base.insertServer (handler.serverColumns ctx)) := by
  have distinctBase := distinct.fewer cleared.1.servers
  have unkeyed : ∀ row ∈ base.servers.rows, (row.data "uuid").isStr ctx.instanceId = false ∧
      (row.data "hostname").isStr ctx.hostname = false := by
    intro row stored
    have free := cleared.2 row stored
    simpa [creationKeys, removalKeys, named, identified, ServerKey.holds, hasUuid] using free
  constructor
  · apply nodup_insertServer distinctBase.uuids
    intro taken
    obtain ⟨row, stored, same⟩ := List.mem_map.mp taken
    have other := (unkeyed row stored).1
    rw [same] at other
    exact absurd ((Value.isStr_iff _ _).mpr rfl) (Bool.eq_false_iff.mp other)
  · apply nodup_insertServer distinctBase.hostnames
    intro taken
    obtain ⟨row, stored, same⟩ := List.mem_map.mp taken
    have other := (unkeyed row stored).2
    rw [same] at other
    exact absurd ((Value.isStr_iff _ _).mpr rfl) (Bool.eq_false_iff.mp other)

/-- Around the insert of a row: it has taken effect or not. -/
def AroundRow (handler : InstanceHandler) (ctx : CreateContext) (base : Cmdb) (world : World) :
    Prop :=
  world.db = base ∨ world.db = base.insertServer (handler.serverColumns ctx)

/-- The insert of the row keeps it with all retries, if the row may be added to
the store it begins with. Between the attempts the re-select tells whether it
was. -/
theorem insertRow_apart {base : Cmdb} (options : CallOptions) (begins : world.db = base)
    (before : KeysDistinct base)
    (inserted : KeysDistinct (base.insertServer (handler.serverColumns ctx))) :
    (handler.cmdbCall options (cmdb (.serverInsertOne (handler.serverColumns ctx)))
      (some (cmdb (.serverSelectOneByHostname ctx.hostname)))).Ensures (faulty permits) KeysApart
      (fun _ _ after => KeysApart after) state world := by
  have apart : ∀ current, AroundRow handler ctx base current → KeysApart current := by
    rintro current (same | took)
    · rw [KeysApart, same]
      exact before
    · rw [KeysApart, took]
      exact inserted
  apply call_ensures (fun current => current.db = base) (AroundRow handler ctx base) begins
  · intro current same outcome _
    have after : AroundRow handler ctx base
        (current.next (.serverInsertOne (handler.serverColumns ctx)) outcome) := by
      rw [AroundRow, World.next_db, ← same]
      exact current.db.answer_db _ outcome
    refine ⟨apart _ after, ?_⟩
    cases (current.db.answer (.serverInsertOne (handler.serverColumns ctx)) outcome).1 with
    | ok id => exact apart _ after
    | error error =>
      simp only [replyExit]
      split
      · exact ⟨after, apart _ after⟩
      · exact apart _ after
  · rintro _ ⟨⟩ current around
    refine (probe_ensures rfl (AroundRow handler ctx base) ?_).mono ?_
    · intro outcome _
      have probed : AroundRow handler ctx base
          (current.next (.serverSelectOneByHostname ctx.hostname) outcome) := by
        rw [AroundRow, World.next_db, current.db.answer_read _ rfl]
        exact around
      exact ⟨apart _ probed, probed⟩
    · rintro result final after ⟨rfl, same, known, answer⟩
      refine ⟨rfl, ?_⟩
      cases result with
      | error exc => exact ⟨known, apart _ known⟩
      | ok found =>
        cases found with
        | some id => exact apart _ known
        | none =>
          refine known.resolve_right fun took => ?_
          simp only at answer
          rw [← same, took] at answer
          exact hostname_detects base answer.symm
  · intro absent
    cases absent

/-- The row is inserted only after the removal ended normally, and then no row
carries either of its keys. -/
theorem recreateServerRow_apart (named : ctx.hostname ≠ "") (identified : ctx.instanceId ≠ "")
    (apart : KeysApart world) :
    (handler.recreateServerRow ctx).Ensures (faulty permits) KeysApart
      (fun _ _ after => KeysApart after) state world := by
  rw [recreateServerRow]
  refine (removeServer_ensures (some ctx.instanceId) (some ctx.hostname)
    fun after shrunk => apart.fewer shrunk.servers).bind ?_
    fun _ _ _ held => apart.fewer held.2.1.servers
  rintro found middle removed ⟨rfl, shrunk, cleared⟩
  apply insertRow_apart _ rfl (apart.fewer shrunk.servers)
  exact apart.recreated (cleared ⟨found, rfl⟩) named identified

/-- What follows the row writes neither key. -/
theorem completeCreate_apart {newServerId : Nat}
    (keeps : ∀ writes, handler.createWrites ctx = .ok writes →
      ∀ write ∈ writes, KeepsKeys write.mutation) (apart : KeysApart world) :
    (completeCreate handler ctx newServerId).Ensures (faulty permits) KeysApart
      (fun _ _ after => KeysApart after) state world := by
  apply sparing_ensures _ apart
  apply completeCreate_only
  · exact fun writes returned => ⟨mergeWrites_keeps (keeps writes returned), keeps writes returned⟩
  · exact fun errors => finalState_keeps errors
  · intro op cards
    cases op <;> trivial

/-! ## One message -/

/-- A machine with a name and an id that is neither a node nor has a tenant tag. -/
structure NamedMachine (content : CreateContent) : Prop where
  named : content.hostname ≠ ""
  identified : content.instanceId ≠ ""
  ordinary : Ordinary content.tags

/-- A create, if the message is one, is about such a machine. -/
def CreatesNamed (handler : InstanceHandler) (message : Message) : Prop :=
  message.actionType = some "create" → ∀ content,
    readCreate handler message = .ok (some content) → NamedMachine content

/-- The whitelist applies to an ordinary machine, whatever the store says of
tenants. -/
theorem Ordinary.restricted {content : CreateContent} (ordinary : Ordinary content.tags)
    (db : Cmdb) : content.unrestricted db = false := by
  have untenanted : content.cmdbTags.get? capTenantTag = none := ordinary.tenant
  rw [CreateContent.unrestricted, CreateContent.capTenant, untenanted, ordinary.noNode]
  rfl

/-- A create of a named machine keeps the keys distinct. Its tags write neither
key, by the whitelist. -/
theorem createInstances_apart {message : Message}
    (machine : ∀ content, readCreate handler message = .ok (some content) → NamedMachine content)
    (apart : KeysApart world) :
    (handler.createInstances message).Ensures (faulty permits) KeysApart
      (fun _ _ after => KeysApart after) state world := by
  have reading : ∀ after : World, world.Reads after → KeysApart after := by
    intro after reads
    rw [KeysApart, reads.db]
    exact apart
  rw [createInstances, Action.ensures_bind, Action.ensures_modify]
  simp only
  refine (buildCreateContext_ensures reading).bind ?_ fun _ _ _ held => reading _ held.1
  rintro found middle built ⟨reads, exit⟩
  have held := reading built reads
  cases found with
  | none => exact held
  | some ctx =>
    obtain ⟨content, read, rfl, rfl⟩ := exit
    have about := machine content read
    simp only
    rw [Action.ensures_bind, Action.ensures_attempt]
    refine (recreateServerRow_apart about.named about.identified held).mono ?_
    rintro (exc | id) final after now
    · simp only
      split
      · exact now
      · exact now
    · cases id with
      | none => exact now
      | some newServerId =>
        apply completeCreate_apart _ now
        intro writes returned
        apply (writes_keep_iff returned).mpr
        intro every
        rw [about.ordinary.restricted] at every
        cases every

/-- Every message keeps them distinct, if the creates among them are of named
machines. -/
theorem dispatch_apart {message : Message} (creates : CreatesNamed handler message)
    (apart : KeysApart world) :
    (handler.dispatch message).Ensures (faulty permits) KeysApart (fun _ _ after => KeysApart after)
      state world := by
  have keeps : ∀ column value, column = "server_monthly_payment" ∨ column = "flavor" →
      KeepsKeys (single column value) := by
    rintro column value (rfl | rfl)
    · exact ⟨by rw [keys_single]; decide, by rw [keys_single]; decide⟩
    · exact ⟨by rw [keys_single]; decide, by rw [keys_single]; decide⟩
  rw [dispatch]
  split
  · rename_i create
    exact createInstances_apart (creates create) apart
  · exact sparing_ensures
      (deleteInstances_only (fun _ => trivial) (fun _ => trivial) fun _ => trivial) apart
  · exact sparing_ensures (resizeInstances_only fun _ column value => keeps column value) apart
  · apply sparing_ensures (attachToInstances_only _) apart
    intro op attach
    cases op <;> trivial
  · exact sparing_ensures (detachFromInstances_only (fun _ _ => trivial) fun _ => trivial) apart
  · exact apart

end Actions

/-! ## All messages -/

/-- So does every delivery, also one that could not be parsed. -/
theorem processDelivery_apart (worker : MessageHandlerService) (delivery : Delivery)
    (creates : ∀ message, delivery = .ok message → CreatesNamed worker.handler message)
    {state : FieldErrors} {world : World} (apart : KeysApart world) :
    (worker.processDelivery delivery).Ensures (faulty everyFault) KeysApart
      (fun _ _ after => KeysApart after) state world := by
  cases delivery with
  | error exc => exact apart
  | ok message =>
    apply MessageHandlerService.processDelivery_ensures (faulty_within _).records apart
    exact dispatch_apart (creates message rfl) apart

/-- Over any messages, under every pattern of failures, the uuids of the servers stay
pairwise distinct and so do the hostnames, in every state, if every create names its
host, gives it an id, and carries neither the node tag nor the tenant tag. -/
theorem server_keys_distinct (worker : MessageHandlerService) (deliveries : List Delivery)
    (creates : ∀ message, .ok message ∈ deliveries → CreatesNamed worker.handler message)
    (db : Cmdb) (distinct : KeysDistinct db) (state : FieldErrors) (last : World)
    (rest : Prog service (Except Exn Unit × FieldErrors))
    (run : Prog.Steps (faulty everyFault) ⟨db, []⟩ (worker.handleAll deliveries state) last rest) :
    KeysDistinct last.db := by
  have start : KeysApart ⟨db, []⟩ := distinct
  have ensured : (worker.handleAll deliveries).Ensures (faulty everyFault) KeysApart
      (fun _ _ after => KeysApart after) state ⟨db, []⟩ := by
    apply MessageHandlerService.handleAll_ensures KeysApart deliveries _ start
    intro delivery member state world held
    apply MessageHandlerService.handleMessage_keeps (faulty_within _).records KeysApart _ _ held
    · intro state world now
      apply processDelivery_apart worker delivery _ now
      rintro message rfl
      exact creates message member
    · exact fun _ _ _ now => ⟨now, now⟩
  exact ensured.always start run

/-- Two creates of the sample host, the second one with a column of the whitelist. -/
def repeatedCreates : List Delivery :=
  [.ok (taggedCreate []), .ok (taggedCreate [("cmdb.role", .str "db")])]

/-- An unknown error hides that the first row is inserted; the second insert is lost. -/
def repeatedScript : List (Nat × Outcome) :=
  [(4, .fail (.other "unreadable") true), (10, .fail (.transport "lost") false)]

/-- Two creates of one host, with a lost reply in each. -/
def repeatedEnd : World :=
  ((AsciiRuntime.service.handleAll repeatedCreates {}).run (World.scripted repeatedScript)
    ⟨AsciiRuntime.registered, []⟩).2

/-- Two creates of the same machine, the first of which is repeated: the keys at
their end are distinct. -/
theorem server_keys_distinct_repeated : KeysDistinct repeatedEnd.db := by
  have machine : ∀ tags, tags = [] ∨ tags = [("cmdb.role", .str "db")] →
      CreatesNamed AsciiRuntime.handler (taggedCreate tags) := by
    intro tags either _ content read
    have found : readCreate AsciiRuntime.handler (taggedCreate tags) =
        .ok (some (taggedContent tags)) := rfl
    rw [found] at read
    cases read
    rcases either with rfl | rfl
    · exact ⟨by decide, by decide, by decide, by decide⟩
    · exact ⟨by decide, by decide, by decide, by decide⟩
  refine server_keys_distinct AsciiRuntime.service repeatedCreates ?_ AsciiRuntime.registered
    ⟨List.nodup_singleton _, List.nodup_singleton _⟩ {} _ _
    (Prog.run_ends (scripted_possible _ (fun _ => trivial) fun _ _ _ => trivial) _ _)
  intro message member
  simp only [repeatedCreates, List.mem_cons, Except.ok.injEq, List.not_mem_nil, or_false] at member
  rcases member with rfl | rfl
  · exact machine [] (Or.inl rfl)
  · exact machine _ (Or.inr rfl)

end InstanceLifecycle
