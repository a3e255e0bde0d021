import InstanceLifecycle.Create.FinalState
import InstanceLifecycle.Create.Replay
import InstanceLifecycle.Handler.Footprints

/-!
# What the final write reports

The messages meant for `status_details` are written only along with the error state. The
failures of all steps but one mark that state if they are meant for the details at all; the
tenant's is meant for them and does not mark it.
-/

namespace InstanceLifecycle

open Interaction Store InstanceHandler

/-! ## Kinds of entries -/

/-- The entry marks the state, or it is meant for the details just when it is the tenant's. -/
def ErrorEntry.Classified (entry : ErrorEntry) : Prop :=
  entry.markStateError = true ∨ (entry.includeInStatusDetails = true ↔ entry.field = "tenant")

/-- Every entry recorded so far is classified. This is the invariant that a
create keeps from its first call to its final write. -/
def AllClassified (errors : FieldErrors) : Prop := ∀ entry ∈ errors.entries, entry.Classified

/-- Recording an entry of a classified kind keeps the invariant: the entry is
appended and the earlier ones stay. -/
theorem allClassified_add {errors : FieldErrors} (held : AllClassified errors)
    {field message : String} {marks includes : Bool}
    (kind : marks = true ∨ (includes = true ↔ field = "tenant")) :
    AllClassified (errors.add field message marks includes) := by
  intro entry member
  rcases List.mem_append.mp member with old | new
  · exact held entry old
  · rw [List.mem_singleton.mp new]
    exact kind

section Kinds

variable {handler : InstanceHandler} {ctx : CreateContext}

/-- What the retry loop records after its last attempt keeps the invariant, if
the options of the call are of a classified kind. A call that records nothing
keeps it anyway. -/
theorem allClassified_recorded {options : CallOptions}
    (kind : options.markStateError = true ∨
      (options.includeInStatusDetails = true ↔ options.label = "tenant"))
    (exc : Exn) (errors : FieldErrors) (held : AllClassified errors) :
    AllClassified (handler.recorded options exc errors) := by
  rw [recorded]
  split
  · exact allClassified_add held kind
  · exact held

/-- Of the steps the tenant and the flavor do not mark the state, and the flavor is not meant
for the details. -/
theorem createSteps_classified : ∀ step ∈ createSteps, step.name ≠ "" ∧
    (step.markStateError = true ∨ (step.includeInStatusDetails = true ↔ step.name = "tenant")) := by
  have flags : ∀ row ∈ createSteps.map (fun step : FieldStep =>
      (step.name, step.markStateError, step.includeInStatusDetails)),
      row.1 ≠ "" ∧ (row.2.1 = true ∨ (row.2.2 = true ↔ row.1 = "tenant")) := by decide
  exact fun step listed => flags _ (List.mem_map_of_mem listed)

/-- Every write of a create has options of a classified kind. The writes of
steps inherit them from the table of steps; those of the tags left over mark the
state. -/
theorem createWrites_classified {writes : List FieldWrite}
    (returned : handler.createWrites ctx = .ok writes) :
    ∀ write ∈ writes, write.markStateError = true ∨
      (write.field ≠ "" ∧ (write.includeInStatusDetails = true ↔ write.field = "tenant")) := by
  obtain ⟨resolved, steps, rfl⟩ := createWrites_parts returned
  intro write member
  rcases List.mem_append.mp member with ofStep | ofTag
  · obtain ⟨step, listed, mutation, -, rfl⟩ :=
      resolveSteps_writes createSteps resolved steps write ofStep
    obtain ⟨named, marks | kind⟩ := createSteps_classified step listed
    · exact Or.inl marks
    · exact Or.inr ⟨named, kind⟩
  · obtain ⟨entry, -, rfl⟩ := List.mem_map.mp ofTag
    exact Or.inl rfl

/-! ## The accumulator along a create -/

/-- A single call does not touch the accumulator, so it keeps any property of
it. -/
theorem cmdb_keeps (op : CmdbOp) {held : FieldErrors → Prop} : (cmdb op).Keeps held :=
  Action.keeps_request _ _

/-- A call whose failure marks the state keeps the invariant, if its selector
does: all it may record is one marking entry. -/
theorem markingCall_keeps {options : CallOptions} (marks : options.markStateError = true)
    {op : CmdbOp} {selector : Option (Run (Option op.Rows))}
    (selectorKeeps : ∀ reselection, selector = some reselection →
      reselection.Keeps AllClassified) :
    (handler.cmdbCall options (cmdb op) selector).Keeps AllClassified :=
  cmdbCall_keeps (cmdb_keeps op) selectorKeeps (allClassified_recorded (Or.inl marks))

/-- The same for a call without a selector, which is how most calls of a create
are made. -/
theorem plainCall_keeps {options : CallOptions} (marks : options.markStateError = true)
    {op : CmdbOp} : (handler.cmdbCall options (cmdb op)).Keeps AllClassified :=
  markingCall_keeps marks fun _ absent => nomatch absent

/-- A note with the default flags marks the state, so it keeps the invariant. -/
theorem note_keeps (field : String) (message : String) :
    (Action.modify (fun errors => errors.add field message) : Run Unit).Keeps AllClassified :=
  Action.keeps_modify _ fun _ held => allClassified_add held (Or.inl rfl)

/-- The look-up of the tenant keeps the invariant. An unknown tenant is recorded
with the default flags, and a failed call with those of its options. -/
theorem resolveCapTenant_keeps (tags : Dict String Value) :
    (handler.resolveCapTenant tags).Keeps AllClassified := by
  unfold resolveCapTenant
  cases tags.get? capTenantTag with
  | none => exact Action.keeps_pure _
  | some name =>
    apply Action.Keeps.bind (plainCall_keeps rfl)
    intro resp
    cases resp.join with
    | some row => exact Action.keeps_pure _
    | none => exact Action.Keeps.bind (note_keeps _ _) fun _ => Action.keeps_pure _

/-- Building the context keeps the invariant: its two calls mark the state, and
so does the note of an unknown tenant. -/
theorem buildCreateContext_keeps (message : Message) :
    (handler.buildCreateContext message).Keeps AllClassified := by
  unfold buildCreateContext
  apply Action.Keeps.bind (Action.keeps_lift _)
  intro found
  cases found with
  | none => exact Action.keeps_pure none
  | some resource =>
    apply Action.Keeps.bind (Action.keeps_lift _)
    rintro ⟨instanceData, hostname, instanceId⟩
    apply Action.Keeps.bind (Action.keeps_lift _)
    intro hostNetworks
    apply Action.Keeps.bind (plainCall_keeps rfl)
    intro resourceCloud
    apply Action.Keeps.bind (Action.keeps_lift _)
    intro tags
    exact Action.Keeps.bind (resolveCapTenant_keeps _) fun _ => Action.keeps_pure _

/-- Deleting rails keeps the invariant, by induction on the rails left. -/
theorem deleteRails_keeps (rails : List Nat) : (handler.deleteRails rails).Keeps AllClassified := by
  induction rails with
  | nil => exact Action.keeps_pure ()
  | cons rail rest ih => exact Action.Keeps.bind (plainCall_keeps rfl) fun _ => ih

/-- Deleting servers with their rails keeps the invariant, by induction on the
servers found. -/
theorem deleteServers_keeps (servers : List ServerItem) :
    (handler.deleteServers servers).Keeps AllClassified := by
  induction servers with
  | nil => exact Action.keeps_pure ()
  | cons server rest ih =>
    apply Action.Keeps.bind (deleteRails_keeps server.rails)
    intro _
    exact Action.Keeps.bind (plainCall_keeps rfl) fun _ => ih

/-- Replacing the server row keeps the invariant. The removal and the insert are
marking calls, and so is the re-select behind the insert. -/
theorem recreateServerRow_keeps : (handler.recreateServerRow ctx).Keeps AllClassified := by
  unfold recreateServerRow removeServer
  refine Action.Keeps.bind (Action.Keeps.bind (plainCall_keeps rfl) fun found => ?_) fun _ => ?_
  · split
    · exact Action.keeps_pure false
    · exact Action.Keeps.bind (deleteServers_keeps _) fun _ => Action.keeps_pure true
  · apply markingCall_keeps rfl
    rintro _ ⟨⟩
    exact cmdb_keeps _

/-- Replaying the writes one by one keeps the invariant if each write is of a
classified kind. By induction on the writes; a write that fails records an entry
with its own flags. -/
theorem replayWrites_keeps (writes : List FieldWrite)
    (kinds : ∀ write ∈ writes, write.markStateError = true ∨
      (write.field ≠ "" ∧ (write.includeInStatusDetails = true ↔ write.field = "tenant"))) :
    (handler.replayWrites ctx writes).Keeps AllClassified := by
  induction writes with
  | nil => exact Action.keeps_pure ()
  | cons write rest ih =>
    refine Action.Keeps.bind ?_ fun _ =>
      ih fun other member => kinds other (List.mem_cons_of_mem write member)
    refine cmdbCall_keeps (cmdb_keeps _) (fun _ absent => nomatch absent)
      (allClassified_recorded ?_)
    rcases kinds write List.mem_cons_self with marks | ⟨named, kind⟩
    · exact Or.inl marks
    · refine Or.inr ?_
      simp only [CallOptions.label, if_neg named]
      exact kind

/-- The write of the fields keeps the invariant on both of its paths, the merged
update and the replay after a rejection. -/
theorem writeCreateFields_keeps : (handler.writeCreateFields ctx).Keeps AllClassified := by
  unfold writeCreateFields
  apply Action.keeps_lift_bind
  intro writes returned
  split
  · exact Action.keeps_raise _
  · apply Action.Keeps.bind (plainCall_keeps rfl)
    intro rows
    cases rows with
    | some ids => exact Action.keeps_pure ()
    | none => exact replayWrites_keeps writes (createWrites_classified returned)

/-- The addresses of a card keep the invariant, by induction on them: the prefix
look-up, the insert and its re-select are marking calls, the notes carry the
default flags. -/
theorem persistAddresses_keeps (endpointId : Nat) (used : List (Option String))
    (addresses : List String) :
    (handler.persistAddresses ctx endpointId used addresses).Keeps AllClassified := by
  induction addresses generalizing used with
  | nil => exact Action.keeps_pure used
  | cons addr rest ih =>
    have lookUp : (handler.getNetPrefixByIp addr ctx.dcName true).Keeps AllClassified := by
      unfold getNetPrefixByIp
      apply Action.Keeps.bind (plainCall_keeps rfl)
      intro vlans
      cases vlans <;> exact Action.keeps_pure _
    apply Action.Keeps.bind lookUp
    intro netPrefix
    cases netPrefix with
    | none => exact Action.Keeps.bind (note_keeps _ _) fun _ => ih used
    | some netPrefix =>
      refine Action.Keeps.bind (markingCall_keeps rfl ?_) fun _ => ih _
      rintro _ ⟨⟩
      exact cmdb_keeps _

/-- The cards of a create keep the invariant, by induction on the cards,
whatever names and prefixes have been seen before. -/
theorem persistCards_keeps (serverId : Nat) (takenNames : List String)
    (used : List (Option String)) (cards : List HostNetwork) :
    (handler.persistCards ctx serverId takenNames used cards).Keeps AllClassified := by
  induction cards generalizing takenNames used with
  | nil => exact Action.keeps_pure ()
  | cons card rest ih =>
    refine Action.Keeps.bind (markingCall_keeps rfl ?_) fun endpoint => ?_
    · rintro _ ⟨⟩
      exact cmdb_keeps _
    · cases endpoint with
      | none => exact ih _ _
      | some endpoint =>
        exact Action.Keeps.bind (persistAddresses_keeps _ _ _) fun _ => ih _ _

/-! ## The final write -/

/-- A create up to its final write, with the context if there is one to come. -/
def createUntilState (handler : InstanceHandler) (message : Message) :
    Run (Option CreateContext) := do
  Action.modify (fun _ => {})
  match ← handler.buildCreateContext message with
  | none => pure none
  | some ctx => do
      match ← Action.attempt (handler.recreateServerRow ctx) with
      | .error exc => if exc.isCmdbException then pure none else Action.raise exc
      | .ok none => Action.lift (noneError "subscript")
      | .ok (some newServerId) => do
          handler.writeCreateFields ctx
          handler.persistNetEndpoints ctx newServerId
          pure (some ctx)

/-- The final write is all that follows the rest of a create, and it is reached
only with a context. Bind is associative, so the last step can be split off. -/
theorem createInstances_split (message : Message) :
    handler.createInstances message = (createUntilState handler message >>= fun found =>
      match found with
      | none => pure ()
      | some ctx => handler.setFinalState ctx) := by
  rw [createInstances, createUntilState, Action.bind_assoc]
  congr 1
  funext _
  rw [Action.bind_assoc]
  congr 1
  funext found
  cases found with
  | none => rfl
  | some ctx =>
    simp only [Action.bind_assoc]
    congr 1
    funext recreated
    cases recreated with
    | error exc =>
      by_cases own : exc.isCmdbException = true
      · simp only [own, if_true]
        rfl
      · simp only [own, Bool.false_eq_true, if_false]
        rfl
    | ok id =>
      cases id with
      | none => rfl
      | some newServerId =>
        simp only [Action.bind_assoc]
        rfl

/-- The accumulator starts empty, so all that it holds at the end is of the two kinds. -/
theorem createUntilState_classified (message : Message) (state : FieldErrors) :
    (createUntilState handler message state).Leaves fun result => AllClassified result.2 := by
  have start : AllClassified {} := fun entry absent => nomatch absent
  refine Action.Keeps.bind (buildCreateContext_keeps message) ?_ {} start
  intro found
  cases found with
  | none => exact Action.keeps_pure none
  | some ctx =>
    apply Action.Keeps.bind recreateServerRow_keeps.attempt
    intro recreated
    cases recreated with
    | error exc =>
      simp only
      split
      · exact Action.keeps_pure none
      · exact Action.keeps_raise exc
    | ok id =>
      cases id with
      | none => exact Action.keeps_lift _
      | some newServerId =>
        apply Action.Keeps.bind writeCreateFields_keeps
        intro _
        apply Action.Keeps.bind (persistCards_keeps _ _ _ _)
        exact fun _ => Action.keeps_pure _

/-- The messages meant for the details, in the order they were recorded. -/
def includedMessages (errors : FieldErrors) : List String :=
  (errors.entries.filter ErrorEntry.includeInStatusDetails).map ErrorEntry.message

/-- The details of a mutation are these messages; no details carry none. -/
def DetailsAre (messages : List String) : Option Value → Prop
  | none => messages = []
  | some details => details = .str ("\n".intercalate messages)

/-- The mutation settles the state and carries every message meant for the details. -/
structure DetailsWritten (ctx : CreateContext) (errors : FieldErrors) (mutation : Mutation) :
    Prop where
  state : mutation.get? "state" = some (settledState ctx errors)
  details : DetailsAre (includedMessages errors) (mutation.get? "status_details")

/-- The final write is an update of the create's row that carries the details. -/
def WritesDetails (ctx : CreateContext) (errors : FieldErrors) (op : ServiceOp) : Prop :=
  ∃ mutation, op = .cmdb (.serverUpdate (createWhere ctx) mutation) ∧
    DetailsWritten ctx errors mutation

/-- The final write stays inside a footprint exactly when its one update does.
The converse reads the update off the first attempt. -/
theorem setFinalState_only_iff {errors : FieldErrors} {allowed : ServiceOp → Prop} :
    (handler.setFinalState ctx errors).Only allowed ↔
      allowed (.cmdb (.serverUpdate (createWhere ctx) (finalState ctx errors))) := by
  constructor
  · intro only
    have update : ((handler.updateServer (finalState ctx errors) (createWhere ctx)
        { field := "state", errors := true } >>= fun _ => pure ()) errors).Only allowed := only
    exact (only_of_cmdbCall update.of_bind).1
  · intro permitted
    have update : (handler.updateServer (finalState ctx errors) (createWhere ctx)
        { field := "state", errors := true }).Only allowed := updateServer_only permitted
    exact (Action.Only.bind update fun _ => Action.only_pure ()) errors

/-- No message is meant for the details exactly when no entry is. -/
theorem includedMessages_nil {errors : FieldErrors} :
    includedMessages errors = [] ↔
      ∀ entry ∈ errors.entries, entry.includeInStatusDetails = false := by
  simp [includedMessages, List.filter_eq_nil_iff]

/-- With the error state the details are written, with the ready state they are not. -/
theorem finalState_details_iff {errors : FieldErrors} :
    DetailsWritten ctx errors (finalState ctx errors) ↔
      (errors.failed = true ∨ includedMessages errors = []) := by
  rw [finalState]
  by_cases failed : errors.failed = true
  · rw [if_pos failed]
    have settled : settledState ctx errors = .str errorState := by rw [settledState, if_pos failed]
    exact iff_of_true ⟨by rw [settled]; rfl, rfl⟩ (Or.inl failed)
  · rw [if_neg failed]
    have settled : settledState ctx errors = ctx.readyState := by rw [settledState, if_neg failed]
    constructor
    · exact fun written => Or.inr written.details
    · rintro (marked | none)
      · exact absurd marked failed
      · exact ⟨by rw [settled]; rfl, none⟩

/-- The final write reports the messages exactly when the state is in error or
there is no message to report. The footprint of the write is its single update,
so this is a fact about the update's columns. -/
theorem setFinalState_writes_iff {errors : FieldErrors} :
    (handler.setFinalState ctx errors).Only (WritesDetails ctx errors) ↔
      (errors.failed = true ∨ includedMessages errors = []) := by
  rw [setFinalState_only_iff, ← finalState_details_iff]
  constructor
  · rintro ⟨mutation, ⟨⟩, details⟩
    exact details
  · exact fun details => ⟨_, rfl, details⟩

end Kinds

/-- Every message meant for the details reaches them exactly when some failure marks the state
or none is the tenant's, whatever the replies were before the final write. -/
theorem status_details_iff {W : Type} (env : Env service W) (handler : InstanceHandler)
    (message : Message) (state errors : FieldErrors) (world last : W) (ctx : CreateContext)
    (run : Prog.Ends env world (createUntilState handler message state) (.ok (some ctx), errors)
      last) :
    (handler.setFinalState ctx errors).Only (WritesDetails ctx errors) ↔
      (errors.failed = true ∨ ∀ entry ∈ errors.entries, entry.field ≠ "tenant") := by
  have kinds : AllClassified errors :=
    (createUntilState_classified message state).ensures.at_end run
  rw [setFinalState_writes_iff, includedMessages_nil]
  by_cases failed : errors.failed = true
  · simp [failed]
  · have unmarked : ∀ entry ∈ errors.entries, entry.markStateError = false := by
      simpa [FieldErrors.failed] using failed
    simp only [failed, Bool.false_eq_true, false_or]
    constructor
    · intro none entry member tenant
      rcases kinds entry member with marks | kind
      · rw [unmarked entry member] at marks
        cases marks
      · rw [none entry member] at kind
        exact absurd (kind.mpr tenant) Bool.false_ne_true
    · intro others entry member
      rcases kinds entry member with marks | kind
      · rw [unmarked entry member] at marks
        cases marks
      · rw [← Bool.not_eq_true, kind]
        exact others entry member

/-- The sample create up to its final write when the CMDB answers by this
script. The script fixes the outcomes of the calls it numbers, and all others
succeed. -/
def detailsRun (script : List (Nat × Outcome)) :
    (Except Exn (Option CreateContext) × FieldErrors) × World :=
  (createUntilState AsciiRuntime.handler cardCreate {}).run (World.scripted script)
    ⟨Cmdb.empty AsciiRuntime.reference, []⟩

/-- The scripted run is one of the runs under arbitrary faults, provided its
outcomes are permitted there. -/
theorem detailsRun_ends (script : List (Nat × Outcome))
    (permitted : ∀ entry ∈ script, ∀ call, anyFaults call entry.2) :
    Prog.Ends (faulty anyFaults) ⟨Cmdb.empty AsciiRuntime.reference, []⟩
      (createUntilState AsciiRuntime.handler cardCreate {}) (detailsRun script).1
      (detailsRun script).2 :=
  Prog.run_ends (scripted_possible script (fun _ => trivial) permitted) _ _

/-- The batch and the replayed writes of the datacenter and the tenant are rejected. -/
def rejectedTenantAndDc : List (Nat × Outcome) :=
  [(3, .fail (.data "rejected") false), (4, .fail (.data "no dc") false),
    (6, .fail (.data "no tenant") false)]

/-- The batch and the replayed write of the tenant are rejected, and nothing else. -/
def rejectedTenant : List (Nat × Outcome) :=
  [(3, .fail (.data "rejected") false), (6, .fail (.data "no tenant") false)]

/-- A create whose datacenter and tenant are both rejected reports both: the
first marks the state, and so the second reaches the details with it. -/
theorem status_details_dc :
    ∃ ctx errors last,
      Prog.Ends (faulty anyFaults) ⟨Cmdb.empty AsciiRuntime.reference, []⟩
        (createUntilState AsciiRuntime.handler cardCreate {}) (.ok (some ctx), errors) last ∧
      errors.entries.map ErrorEntry.attribution = [("dc", true, true), ("tenant", false, true)] ∧
      (AsciiRuntime.handler.setFinalState ctx errors).Only (WritesDetails ctx errors) := by
  have run := detailsRun_ends rejectedTenantAndDc (by simp [rejectedTenantAndDc, anyFaults])
  refine ⟨_, _, _, run, by decide, ?_⟩
  exact (status_details_iff _ AsciiRuntime.handler cardCreate {} _ _ _ _ run).mpr (Or.inl rfl)

/-- The message of the tenant is recorded for the details and the final write, with the ready
state, carries none. -/
theorem tenant_failure_unreported :
    ∃ ctx errors last,
      Prog.Ends (faulty anyFaults) ⟨Cmdb.empty AsciiRuntime.reference, []⟩
        (createUntilState AsciiRuntime.handler cardCreate {}) (.ok (some ctx), errors) last ∧
      errors.entries.map ErrorEntry.attribution = [("tenant", false, true)] ∧
      finalState ctx errors = single "state" (.str "ready") ∧
      ¬ (AsciiRuntime.handler.setFinalState ctx errors).Only (WritesDetails ctx errors) := by
  have run := detailsRun_ends rejectedTenant (by simp [rejectedTenant, anyFaults])
  refine ⟨_, _, _, run, by decide, rfl, ?_⟩
  rw [setFinalState_writes_iff]
  rintro (marked | none)
  · cases marked
  · cases none

end InstanceLifecycle
