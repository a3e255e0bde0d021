import InstanceLifecycle.Create.Fields
import InstanceLifecycle.Create.HostNetworks
import InstanceLifecycle.Handler.CallRules

/-!
# The context of a create

What a create knows before its first write: the content of the message, which is read
without any call, and two rows of the reference classes. Both look-ups raise when they
are rejected, so a context that was built at all is the one the message and the
reference rows determine, whatever failed on the way.
-/

namespace InstanceLifecycle

open Interaction Store InstanceHandler

/-- What a create takes out of its message before the first write. -/
structure CreateContent where
  instanceData : ResourceBody
  hostname : String
  instanceId : String
  hostNetworks : List HostNetwork
  tags : Dict String Value

/-- The reads of a create up to its first write, in their order. -/
def readCreate (handler : InstanceHandler) (message : Message) :
    Except Exn (Option CreateContent) := do
  match ← handler.extractResource message "instance" with
  | none => .ok none
  | some resource => do
      let (instanceData, hostname, instanceId) ← handler.readInstance message resource
      let hostNetworks ← handler.readHostNetworks message instanceData
      let tags ← readMetadata instanceData
      .ok (some ⟨instanceData, hostname, instanceId, hostNetworks, tags⟩)

/-- The parts that a create has read when it found an instance, in the order in
which the code reads them. Each has succeeded, or there would be no content. -/
theorem readCreate_parts {handler : InstanceHandler} {message : Message} {content : CreateContent}
    (read : readCreate handler message = .ok (some content)) :
    ∃ resource, handler.extractResource message "instance" = .ok (some resource) ∧
      handler.readInstance message resource =
        .ok (content.instanceData, content.hostname, content.instanceId) ∧
      handler.readHostNetworks message content.instanceData = .ok content.hostNetworks ∧
      readMetadata content.instanceData = .ok content.tags := by
  obtain ⟨found, extracted, read⟩ := bind_returned read
  cases found with
  | none => cases read
  | some resource =>
    obtain ⟨⟨instanceData, hostname, instanceId⟩, parts, read⟩ := bind_returned read
    obtain ⟨hostNetworks, carded, read⟩ := bind_returned read
    obtain ⟨tags, tagged, read⟩ := bind_returned read
    cases read
    exact ⟨resource, extracted, parts, carded, tagged⟩

/-- The cards of a message are numbered increasingly. -/
theorem readCreate_increasing {handler : InstanceHandler} {message : Message}
    {content : CreateContent} (read : readCreate handler message = .ok (some content)) :
    Increasing content.hostNetworks := by
  obtain ⟨_, _, _, carded, _⟩ := readCreate_parts read
  obtain ⟨_, _, carded⟩ := bind_returned carded
  obtain ⟨_, _, built⟩ := bind_returned carded
  exact buildHostNetworks_increasing _ _ _ built

namespace CreateContent

variable (content : CreateContent)

/-- The `cmdb.*` tags but for the state. -/
def cmdbTags : Dict String Value := withoutState (cmdbTagsOf content.tags)

/-- The row the `cap_tenant.name` tag names. -/
def capTenant (db : Cmdb) : Option CapTenant :=
  (content.cmdbTags.get? capTenantTag).bind (fun name => db.rows (.capTenantSelectOne name))

/-- The tags after the `cap_tenant.name` tag was consumed. -/
def remainingTags : Dict String Value :=
  match content.cmdbTags.get? capTenantTag with
  | none => content.cmdbTags
  | some _ => content.cmdbTags.erase capTenantTag

/-- Do all tags count, and not only those of the whitelist? -/
def unrestricted (db : Cmdb) : Bool :=
  (content.capTenant db).isSome || content.tags.contains k8sNodeTag

/-- The failures recorded while the context is built: a tenant without a row. -/
def recorded (handler : InstanceHandler) (db : Cmdb) (errors : FieldErrors) : FieldErrors :=
  match content.cmdbTags.get? capTenantTag with
  | none => errors
  | some name =>
      match db.rows (.capTenantSelectOne name) with
      | some _ => errors
      | none => errors.add "cap_tenant"
          ("Rabbit msg has tag cap_tenant.name, but cap_tenant class doesnt have record with name "
            ++ handler.runtime.repr name)

/-- The context the content and the reference rows determine. -/
def context (handler : InstanceHandler) (message : Message) (db : Cmdb) : CreateContext where
  message := message
  instanceData := content.instanceData
  hostNetworks := content.hostNetworks
  hostname := content.hostname
  dcName := getDcName handler.runtime content.hostname
  instanceId := content.instanceId
  regionId := message.regionId.get
  projectId := message.projectId
  cmdbTags := if content.unrestricted db then content.remainingTags
    else whitelisted content.remainingTags
  resourceCloud := db.rows (.resourceCloudSelectOne (message.projectId.getD "None"))
  capTenant := content.capTenant db
  readyState := readyStateOf (cmdbTagsOf content.tags)

/-- No tag of a create is headed by `state`, because those are taken out before
the tags are used. -/
theorem cmdbTags_no_state : ∀ key ∈ content.cmdbTags.keys, splitHead '.' key ≠ "state" := by
  intro key member head
  rw [cmdbTags, withoutState, Dict.mem_keys_filterKeys, Dict.erase,
    Dict.mem_keys_filterKeys] at member
  obtain ⟨⟨_, other⟩, undotted⟩ := member
  rcases splitHead_cases "state" key head with rfl | dotted
  · simp at other
  · have spelled : startsWith key "state." = true := dotted
    simp [spelled] at undotted

/-- No tag of the context is headed by `state`: the state is taken from its own
tag before any list of tags is made, and the later lists are parts of that one.
-/
theorem context_no_state (handler : InstanceHandler) (message : Message) (db : Cmdb) :
    ∀ key ∈ (content.context handler message db).cmdbTags.keys, splitHead '.' key ≠ "state" := by
  have remaining : ∀ key ∈ content.remainingTags.keys, splitHead '.' key ≠ "state" := by
    intro key member
    rw [remainingTags] at member
    split at member
    · exact content.cmdbTags_no_state key member
    · exact content.cmdbTags_no_state key ((Dict.mem_keys_filterKeys _ _ _).mp member).1
  intro key member
  simp only [context] at member
  split at member
  · exact remaining key member
  · exact remaining key ((Dict.mem_keys_filterKeys _ _ _).mp member).1

end CreateContent

/-- The context depends on the store by its reference rows only, since the
tenant and the cloud account are all it looks up. -/
theorem context_congr {handler : InstanceHandler} {message : Message} (content : CreateContent)
    {before after : Cmdb}
    (same : after.reference = before.reference) :
    content.context handler message after = content.context handler message before ∧
      content.recorded handler after {} = content.recorded handler before {} := by
  have cloud : ∀ projectId, after.rows (.resourceCloudSelectOne projectId) =
      before.rows (.resourceCloudSelectOne projectId) := fun _ => by simp only [Cmdb.rows, same]
  have tenant : ∀ name, after.rows (.capTenantSelectOne name) =
      before.rows (.capTenantSelectOne name) := fun _ => by simp only [Cmdb.rows, same]
  have named : content.capTenant after = content.capTenant before := by
    simp only [CreateContent.capTenant, tenant]
  have counted : content.unrestricted after = content.unrestricted before := by
    rw [CreateContent.unrestricted, named, CreateContent.unrestricted]
  constructor
  · rw [CreateContent.context, named, counted, cloud, CreateContent.context]
  · simp only [CreateContent.recorded, tenant]

/-- No call fails. -/
def Faultless (permits : Faults) : Prop := ∀ op outcome, permits op outcome → outcome = .ok

/-- The environment without faults answers every call with success. -/
theorem noFaults_faultless : Faultless noFaults := fun _ _ succeeds => succeeds

section Build

variable {permits : Faults} {inv : World → Prop} {handler : InstanceHandler} {message : Message}
  {state : FieldErrors} {world : World}

/-- A read that raises when it is rejected answers by the store or ends in a failure. -/
theorem raisingRead_ensures {options : CallOptions} {op : CmdbOp} (reads : op.writes = false)
    (raises : options.raiseOnDataError = true) (kept : ∀ after, world.Reads after → inv after) :
    (handler.cmdbCall options (cmdb op)).Ensures (faulty permits) inv
      (fun result final after => world.Reads after ∧
        match result with
        | .ok found => found = some (world.db.rows op) ∧ final = state
        | .error _ => ¬ Faultless permits) state world := by
  apply readCall_ensures reads
  · intro current outcome sinceStart _
    exact kept _ (sinceStart.trans (next_reads current op reads outcome))
  · exact fun after reads => ⟨reads, rfl, rfl⟩
  · intro after error landed reads permitted _
    rw [raises]
    exact ⟨reads, fun faultless => nomatch faultless op _ permitted⟩
  · intro after error landed reads permitted _
    exact ⟨reads, fun faultless => nomatch faultless op _ permitted⟩

/-- How the tenant tag is resolved. -/
def tenantExit (permits : Faults) (handler : InstanceHandler) (content : CreateContent)
    (state : FieldErrors) (world : World)
    (result : Except Exn (Dict String Value × Option CapTenant)) (final : FieldErrors)
    (after : World) : Prop :=
  world.Reads after ∧
    match result with
    | .ok resolved => resolved = (content.remainingTags, content.capTenant world.db) ∧
        final = content.recorded handler world.db state
    | .error _ => ¬ Faultless permits

/-- Resolving the tenant reads the store and changes nothing: with no tenant tag
it calls nothing, and with one it looks the name up, where a missing row is
recorded as an error. -/
theorem resolveCapTenant_ensures (content : CreateContent)
    (kept : ∀ after, world.Reads after → inv after) :
    (handler.resolveCapTenant content.cmdbTags).Ensures (faulty permits) inv
      (tenantExit permits handler content state world) state world := by
  rw [resolveCapTenant]
  cases tagged : content.cmdbTags.get? capTenantTag with
  | none =>
    refine ⟨.refl world, ?_⟩
    simp [CreateContent.remainingTags, CreateContent.capTenant, CreateContent.recorded, tagged]
  | some name =>
    refine (raisingRead_ensures rfl rfl kept).bind ?_ fun _ _ _ held => held
    rintro found final after ⟨reads, rfl, rfl⟩
    have joined : (some (world.db.rows (.capTenantSelectOne name))).join =
        world.db.rows (.capTenantSelectOne name) := rfl
    simp only [joined]
    cases row : world.db.rows (.capTenantSelectOne name) with
    | some tenant =>
      refine ⟨reads, ?_⟩
      simp [CreateContent.remainingTags, CreateContent.capTenant, CreateContent.recorded, tagged,
        row]
    | none =>
      refine ⟨reads, ?_⟩
      simp [CreateContent.remainingTags, CreateContent.capTenant, CreateContent.recorded, tagged,
        row]

/-- How the context of a create is built. -/
def contextExit (permits : Faults) (handler : InstanceHandler) (message : Message)
    (state : FieldErrors) (world : World) (result : Except Exn (Option CreateContext))
    (final : FieldErrors) (after : World) : Prop :=
  world.Reads after ∧
    match result with
    | .ok none => readCreate handler message = .ok none
    | .ok (some ctx) => ∃ content, readCreate handler message = .ok (some content) ∧
        ctx = content.context handler message world.db ∧
        final = content.recorded handler world.db state
    | .error exc => Faultless permits → readCreate handler message = .error exc

/-- A context that is built is the one of the content and the reference rows, and
without failures of calls it is built unless the content itself raises. -/
theorem buildCreateContext_ensures (kept : ∀ after, world.Reads after → inv after) :
    (handler.buildCreateContext message).Ensures (faulty permits) inv
      (contextExit permits handler message state world) state world := by
  rw [buildCreateContext, Action.ensures_bind, Action.ensures_lift]
  cases extracted : handler.extractResource message "instance" with
  | error exc =>
    refine ⟨.refl world, fun _ => ?_⟩
    rw [readCreate, extracted]
    rfl
  | ok found =>
    cases found with
    | none =>
      refine ⟨.refl world, ?_⟩
      rw [readCreate, extracted]
      rfl
    | some resource =>
      simp only
      rw [Action.ensures_bind, Action.ensures_lift]
      cases read : handler.readInstance message resource with
      | error exc =>
        refine ⟨.refl world, fun _ => ?_⟩
        rw [readCreate, extracted]
        simp only [bind, Except.bind, read]
      | ok parts =>
        obtain ⟨instanceData, hostname, instanceId⟩ := parts
        simp only
        rw [Action.ensures_bind, Action.ensures_lift]
        cases carded : handler.readHostNetworks message instanceData with
        | error exc =>
          refine ⟨.refl world, fun _ => ?_⟩
          rw [readCreate, extracted]
          simp only [bind, Except.bind, read, carded]
        | ok hostNetworks =>
          simp only
          refine (raisingRead_ensures rfl rfl kept).bind ?_ ?_
          · rintro found final cloud ⟨cloudReads, rfl, rfl⟩
            rw [Action.ensures_bind, Action.ensures_lift]
            cases tagged : readMetadata instanceData with
            | error exc =>
              refine ⟨cloudReads, fun _ => ?_⟩
              rw [readCreate, extracted]
              simp only [bind, Except.bind, read, carded, tagged]
            | ok tags =>
              simp only
              have content : readCreate handler message =
                  .ok (some ⟨instanceData, hostname, instanceId, hostNetworks, tags⟩) := by
                rw [readCreate, extracted]
                simp only [bind, Except.bind, read, carded, tagged]
              refine (resolveCapTenant_ensures
                ⟨instanceData, hostname, instanceId, hostNetworks, tags⟩
                fun after reads => kept after (cloudReads.trans reads)).bind ?_ ?_
              · rintro resolved final after ⟨reads, rfl, rfl⟩
                refine ⟨cloudReads.trans reads, _, content, ?_, ?_⟩
                · rw [cloudReads.db]
                  rfl
                · rw [cloudReads.db]
              · rintro exc middle after ⟨reads, failed⟩
                exact ⟨cloudReads.trans reads, fun faultless => absurd faultless failed⟩
          · rintro exc middle after ⟨reads, failed⟩
            exact ⟨reads, fun faultless => absurd faultless failed⟩

end Build

end InstanceLifecycle
