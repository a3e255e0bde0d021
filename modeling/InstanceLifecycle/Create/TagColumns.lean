import InstanceLifecycle.Create.Context
import InstanceLifecycle.Create.ServerRow
import InstanceLifecycle.Handler.AsciiRuntime

/-!
# Tags and the condition of the updates

Where the whitelist is not applied, every `cmdb.*` tag becomes a column of the batch,
the hostname and the uuid included. Without such a tag the inserted row is matched by
every later update of its create; with one, the batch moves it away from them.
-/

namespace InstanceLifecycle

open Interaction Store InstanceHandler

section Tags

variable {content : CreateContent} {db : Cmdb}

/-- No `cmdb.*` tag names one of the two columns the updates select by. -/
def TagsKeepKeys (content : CreateContent) : Prop :=
  ∀ key ∈ (cmdbTagsOf content.tags).keys,
    splitHead '.' key ≠ "hostname" ∧ splitHead '.' key ≠ "uuid"

/-- A tag under another head than `state` and `cap_tenant` is neither dropped nor
consumed. -/
theorem mem_remainingTags (key : String) (notState : splitHead '.' key ≠ "state")
    (notTenant : splitHead '.' key ≠ "cap_tenant") :
    key ∈ content.remainingTags.keys ↔ key ∈ (cmdbTagsOf content.tags).keys := by
  have plain : key ≠ "state" := by
    rintro rfl
    exact notState (splitHead_plain '.' "state" (by decide))
  have undotted : startsWith key "state." = false := by
    rw [Bool.eq_false_iff]
    exact fun dotted => notState (splitHead_dotted "state" key (by decide) dotted)
  have other : key ≠ capTenantTag := by
    rintro rfl
    exact notTenant (splitHead_dotted "cap_tenant" capTenantTag (by decide) (by decide))
  have kept : key ∈ content.cmdbTags.keys ↔ key ∈ (cmdbTagsOf content.tags).keys := by
    rw [CreateContent.cmdbTags, withoutState, Dict.mem_keys_filterKeys, Dict.erase,
      Dict.mem_keys_filterKeys]
    simp [plain, undotted]
  rw [CreateContent.remainingTags]
  split
  · exact kept
  · rw [Dict.erase, Dict.mem_keys_filterKeys, kept]
    simp [other]

variable {handler : InstanceHandler} {message : Message} {column : String}

/-- A tag reaches the context under its column where the whitelist is not applied. -/
theorem context_tags (named : column = "hostname" ∨ column = "uuid") :
    (∃ key ∈ (content.context handler message db).cmdbTags.keys, splitHead '.' key = column) ↔
      content.unrestricted db = true ∧
        ∃ key ∈ (cmdbTagsOf content.tags).keys, splitHead '.' key = column := by
  have remains : (∃ key ∈ content.remainingTags.keys, splitHead '.' key = column) ↔
      ∃ key ∈ (cmdbTagsOf content.tags).keys, splitHead '.' key = column := by
    apply exists_congr
    intro key
    apply and_congr_left
    rintro rfl
    exact mem_remainingTags key (by rcases named with same | same <;> simp [same])
      (by rcases named with same | same <;> simp [same])
  rw [← remains]
  simp only [CreateContent.context]
  by_cases every : content.unrestricted db = true
  · simp [every]
  · rw [if_neg every]
    constructor
    · rintro ⟨key, member, rfl⟩
      have listed := ((Dict.mem_keys_filterKeys _ _ _).mp member).2
      rw [decide_eq_true_eq] at listed
      rcases named with same | same <;> rw [same] at listed <;> exact absurd listed (by decide)
    · exact fun reached => absurd reached.1 every

/-- A key column is written exactly if a tag of the context is headed by it. No
step of the batch has the name of a key column, so only a left over tag can
write it, and each left over tag does write its head. -/
theorem createWrites_tags {ctx : CreateContext} {writes : List FieldWrite}
    (returned : handler.createWrites ctx = .ok writes)
    (named : column = "hostname" ∨ column = "uuid") :
    (∃ write ∈ writes, column ∈ write.mutation.keys) ↔
      ∃ key ∈ ctx.cmdbTags.keys, splitHead '.' key = column := by
  constructor
  · rintro ⟨write, member, written⟩
    rcases createWrites_columns returned member written with fixed | tag
    · rcases named with rfl | rfl <;> exact absurd fixed (by decide)
    · exact tag
  · rintro ⟨key, tag, rfl⟩
    apply createWrites_leftover returned tag
    rcases named with same | same <;> rw [same] <;> decide

/-- The batch writes a key column exactly if a tag is headed by it and the tags
are unrestricted, so it avoids the column under the negation of that. -/
theorem writes_avoid_iff {writes : List FieldWrite}
    (returned : handler.createWrites (content.context handler message db) = .ok writes)
    (named : column = "hostname" ∨ column = "uuid") :
    (∀ write ∈ writes, column ∉ write.mutation.keys) ↔
      (content.unrestricted db = true →
        ∀ key ∈ (cmdbTagsOf content.tags).keys, splitHead '.' key ≠ column) := by
  have reached := not_congr ((createWrites_tags returned named).trans (context_tags named))
  simpa only [not_exists, not_and] using reached

/-- The writes keep the two columns just when the tags that count name neither. -/
theorem writes_keep_iff {writes : List FieldWrite}
    (returned : handler.createWrites (content.context handler message db) = .ok writes) :
    (∀ write ∈ writes, KeepsKeys write.mutation) ↔
      (content.unrestricted db = true → TagsKeepKeys content) := by
  have hostname : (∀ write ∈ writes, "hostname" ∉ write.mutation.keys) ↔ _ :=
    writes_avoid_iff returned (Or.inl rfl)
  have uuid : (∀ write ∈ writes, "uuid" ∉ write.mutation.keys) ↔ _ :=
    writes_avoid_iff returned (Or.inr rfl)
  constructor
  · intro keeps every key member
    constructor
    · exact hostname.mp (fun write listed => (keeps write listed).1) every key member
    · exact uuid.mp (fun write listed => (keeps write listed).2) every key member
  · intro tags write listed
    constructor
    · exact hostname.mpr (fun every key member => (tags every key member).1) write listed
    · exact uuid.mpr (fun every key member => (tags every key member).2) write listed

end Tags

/-- The batch keeps what each of its writes keeps. -/
theorem mergeWrites_keeps {writes : List FieldWrite}
    (keeps : ∀ write ∈ writes, KeepsKeys write.mutation) : KeepsKeys (mergeWrites writes) := by
  constructor
  · intro written
    obtain ⟨write, member, named⟩ := (mem_keys_mergeWrites writes _).mp written
    exact (keeps write member).1 named
  · intro written
    obtain ⟨write, member, named⟩ := (mem_keys_mergeWrites writes _).mp written
    exact (keeps write member).2 named

/-! ## The run -/

/-- Every answered update of the create found the row. -/
def UpdatesMatch (ctx : CreateContext) (id : Nat) (history : List Event) : Prop :=
  ∀ mutation ids, (⟨.cmdb (.serverUpdate (createWhere ctx) mutation), .ok ids⟩ : Event) ∈ history →
    id ∈ ids

/-- The inserted row is where the updates look for it, and they found it. -/
structure RowKept (ctx : CreateContext) (id : Nat) (world : World) : Prop where
  row : world.db.RowHolds id (Registered ctx)
  updates : UpdatesMatch ctx id world.history

section Run

variable {handler : InstanceHandler} {ctx : CreateContext} {id : Nat} {world : World}

/-- A call that a create makes after its insert keeps the row, with its keys,
whatever the outcome of the call is. -/
theorem RowKept.next (kept : RowKept ctx id world) {op : CmdbOp}
    (allowed : laterCall ctx KeepsKeys op) (outcome : Outcome) :
    RowKept ctx id (world.next op outcome) := by
  constructor
  · exact rowHolds_next kept.row (fun _ registered => registered)
      (fun _ keeps _ registered => registered_write registered keeps) allowed outcome
  · intro mutation ids member
    rw [World.next_history] at member
    rcases List.mem_append.mp member with old | new
    · exact kept.updates mutation ids old
    · obtain ⟨ops, replies⟩ := Event.mk.inj (List.mem_singleton.mp new)
      cases ops
      have answered := eq_of_heq replies
      cases outcome with
      | fail error landed => cases answered
      | ok =>
        cases Except.ok.inj answered
        exact kept.row.updated mutation

/-- The rest of a create keeps the row under its keys when no write of the batch
touches the key columns: every later call is of the kind that keeps it. -/
theorem completeCreate_kept {permits : Faults} {state : FieldErrors} {writes : List FieldWrite}
    (returned : handler.createWrites ctx = .ok writes)
    (keeps : ∀ write ∈ writes, KeepsKeys write.mutation) (kept : RowKept ctx id world) :
    (completeCreate handler ctx id).Ensures (faulty permits) (RowKept ctx id)
      (fun _ _ after => RowKept ctx id after) state world := by
  have batch := mergeWrites_keeps keeps
  have only : (completeCreate handler ctx id).Only (calls (laterCall ctx KeepsKeys)) := by
    apply completeCreate_only
    · intro others again
      cases returned.symm.trans again
      exact ⟨Or.inr ⟨_, rfl, batch⟩, fun write member => Or.inr ⟨_, rfl, keeps write member⟩⟩
    · exact fun errors => Or.inr ⟨_, rfl, finalState_keeps errors⟩
    · exact fun op cards => Or.inl cards
  apply calls_ensures only (RowKept ctx id) _ (fun _ held => held) kept
  exact fun before held op allowed outcome _ => held.next allowed outcome

end Run

/-- No write names the hostname or the uuid, and every later update finds the inserted
row, just when no tag that counts names one of the two. -/
theorem row_kept_iff (handler : InstanceHandler) (message : Message) (permits : Faults) (db : Cmdb)
    (state errors : FieldErrors) (ctx : CreateContext) (last : World)
    (built : Prog.Ends (faulty permits) ⟨db, []⟩ (handler.buildCreateContext message state)
      (.ok (some ctx), errors) last)
    (content : CreateContent) (read : readCreate handler message = .ok (some content))
    (writes : List FieldWrite) (returned : handler.createWrites ctx = .ok writes) :
    ((∀ write ∈ writes, KeepsKeys write.mutation) ∧ KeepsKeys (mergeWrites writes) ∧
      ∀ (faults : Faults) (before : Cmdb) (start : FieldErrors) current rest,
        Prog.Steps (faulty faults) ⟨before.insertServer (handler.serverColumns ctx), []⟩
          (completeCreate handler ctx before.servers.next start) current rest →
        RowKept ctx before.servers.next current) ↔
      ((ctx.capTenant.isSome || content.tags.contains k8sNodeTag) = true →
        TagsKeepKeys content) := by
  have exit := (buildCreateContext_ensures fun _ _ => trivial).at_end built
  obtain ⟨_, found, again, rfl, rfl⟩ := exit
  obtain rfl : content = found := Option.some.inj (Except.ok.inj (read.symm.trans again))
  have iff := writes_keep_iff returned
  constructor
  · exact fun kept => iff.mp kept.1
  · intro tags
    have keeps := iff.mpr tags
    refine ⟨keeps, mergeWrites_keeps keeps, ?_⟩
    intro faults before start current rest run
    have inserted : RowKept (content.context handler message db) before.servers.next
        ⟨before.insertServer (handler.serverColumns (content.context handler message db)), []⟩ := by
      constructor
      · refine (rowHolds_insert before _).mono ?_
        rintro columns rfl
        exact registered_inserted
      · intro mutation ids member
        cases member
    exact (completeCreate_kept returned keeps inserted).always inserted run

/-- A create of the sample host as a node of a cluster, with one more tag. -/
def nodeCreate (key value : String) : Message :=
  AsciiRuntime.createMessage "dc1-b1" [(k8sNodeTag, .str "c1"), (key, .str value)] []

/-- A create of a cluster node whose message carries one more tag of the given
key and value. -/
def nodeContent (key value : String) : CreateContent where
  instanceData := {
    name := .value "dc1-b1"
    id := .value "u1"
    metadata := .value (Dict.ofList [(k8sNodeTag, .str "c1"), (key, .str value)])
    addresses := .value []
    flavor := .value ⟨.value "small"⟩ }
  hostname := "dc1-b1"
  instanceId := "u1"
  hostNetworks := []
  tags := Dict.ofList [(k8sNodeTag, .str "c1"), (key, .str value)]

/-- The context of that create at a store in which the host is registered. -/
def nodeContext (key value : String) : CreateContext :=
  (nodeContent key value).context AsciiRuntime.handler (nodeCreate key value)
    AsciiRuntime.registered

/-- The world after the insert of a node with this tag and the rest of its create. -/
def nodeCompleted (key value : String) : World :=
  ((completeCreate AsciiRuntime.handler (nodeContext key value) 1 {}).run (World.answer .ok)
    ⟨AsciiRuntime.registered.insertServer
      (AsciiRuntime.handler.serverColumns (nodeContext key value)), []⟩).2

/-- A tag of another column leaves the row where the updates look for it. -/
theorem row_kept_role :
    RowKept (nodeContext "cmdb.role" "db") 1 (nodeCompleted "cmdb.role" "db") := by
  have tags : TagsKeepKeys (nodeContent "cmdb.role" "db") := by
    have keys : (cmdbTagsOf (nodeContent "cmdb.role" "db").tags).keys = ["role"] := by decide
    intro key member
    rw [keys, List.mem_singleton] at member
    subst member
    decide
  exact ((row_kept_iff AsciiRuntime.handler (nodeCreate "cmdb.role" "db") noFaults
    AsciiRuntime.registered {} {} (nodeContext "cmdb.role" "db") _
    (Prog.run_ends faultless_possible _ _) (nodeContent "cmdb.role" "db") rfl _ rfl).mpr
    fun _ => tags).2.2 noFaults AsciiRuntime.registered {} _ _
    (Prog.run_ends faultless_possible _ _)

/-- The world after the create of a node with this tag. -/
def nodeEnd (key value : String) : World :=
  ((AsciiRuntime.service.handleMessage (.ok (nodeCreate key value)) {}).run (World.answer .ok)
    ⟨AsciiRuntime.registered, []⟩).2

/-- The batch of a node renames the row, so the final update finds none; the message is
acked and the row stays in `setup`. -/
theorem hostname_tag_moves_row :
    Prog.Ends (faulty noFaults) ⟨AsciiRuntime.registered, []⟩
        (AsciiRuntime.service.handleMessage (.ok (nodeCreate "cmdb.hostname" "moved")) {})
        (.ok (), {}) (nodeEnd "cmdb.hostname" "moved") ∧
      (nodeEnd "cmdb.hostname" "moved").history[6]? = some
        ⟨.cmdb (.serverUpdate [.hostname "dc1-b1", .uuid (some "u1")]
          (single "state" (.str "ready"))), .ok []⟩ ∧
      (nodeEnd "cmdb.hostname" "moved").history.any Event.isAck = true ∧
      (nodeEnd "cmdb.hostname" "moved").db.servers.rows.map (fun row =>
        (row.id, row.data "hostname", row.data "state")) = [(1, .str "moved", .str "setup")] :=
  ⟨Prog.run_ends faultless_possible _ _, rfl, by decide, rfl⟩

end InstanceLifecycle
