import InstanceLifecycle.Create.Context
import InstanceLifecycle.Create.ServerRow
import InstanceLifecycle.Handler.AsciiRuntime

/-!
# The tags of an ordinary machine

A machine that is no cluster node and names no tenant sets columns through the
whitelist only. Three mechanisms read its tags: the state is taken from its own tag,
the whitelist keeps a tag by the head of its key, and the steps take theirs by name
while the rest is left over. All three see the same part of the metadata: the `cmdb.*`
entries under a whitelisted head. Two messages that agree on that part, and on
everything outside the metadata, lead to the same writes under the same replies.
-/

namespace InstanceLifecycle

open Interaction Store InstanceHandler

/-! ## The part of the metadata that counts -/

/-- Neither a cluster node nor a machine with a tenant tag. -/
structure Ordinary (metadata : Dict String Value) : Prop where
  noNode : metadata.contains k8sNodeTag = false
  noTenant : metadata.contains "cmdb.cap_tenant.name" = false

/-- Is the head of the key in the whitelist? The test of `whitelisted`, by name. -/
def headListed (key : String) : Bool := decide (splitHead '.' key ∈ cmdbFieldsWhitelist)

/-- The entries `cmdb.<k>` whose `<k>` has a whitelisted head, in their order. -/
def relevantTags (metadata : Dict String Value) : List (String × Value) :=
  metadata.entries.filter (fun entry =>
    startsWith entry.1 "cmdb." && headListed (dropChars entry.1 5))

/-- Whitelisting after the prefix is stripped keeps just the entries whose
stripped key is listed. -/
theorem stripped_listed (entries : List (String × Value)) :
    ((entries.filter (fun entry => startsWith entry.1 "cmdb.")).map
        (fun entry => (dropChars entry.1 5, entry.2))).filter (fun entry => headListed entry.1) =
      (entries.filter (fun entry =>
        startsWith entry.1 "cmdb." && headListed (dropChars entry.1 5))).map
          (fun entry => (dropChars entry.1 5, entry.2)) := by
  have both : ∀ entry : String × Value,
      (headListed (dropChars entry.1 5) && startsWith entry.1 "cmdb.") =
        (startsWith entry.1 "cmdb." && headListed (dropChars entry.1 5)) :=
    fun entry => Bool.and_comm _ _
  simp only [List.filter_map, List.filter_filter, Function.comp_def, both]

/-- The whitelisted tags are those of the relevant metadata, in their order. -/
theorem whitelisted_cmdbTags (metadata : Dict String Value) :
    whitelisted (cmdbTagsOf metadata) =
      Dict.ofList ((relevantTags metadata).map (fun entry => (dropChars entry.1 5, entry.2))) := by
  have kept : whitelisted (cmdbTagsOf metadata) =
      (cmdbTagsOf metadata).filterKeys headListed := rfl
  rw [kept, cmdbTagsOf, Dict.filterKeys_ofList, stripped_listed, relevantTags]

/-- The ready state is read off the relevant metadata, since `state` is on the
whitelist. -/
theorem readyState_relevant (metadata : Dict String Value) :
    readyStateOf (cmdbTagsOf metadata) = readyStateOf (whitelisted (cmdbTagsOf metadata)) := by
  rw [readyStateOf, readyStateOf, whitelisted, Dict.get?_filterKeys]
  decide

/-- Dropping the state and keeping the whitelist commute, for both are tests on
keys. -/
theorem whitelisted_withoutState (tags : Dict String Value) :
    whitelisted (withoutState tags) = withoutState (whitelisted tags) := by
  rw [whitelisted, withoutState, Dict.filterKeys_comm, Dict.erase, Dict.filterKeys_comm tags]
  rfl

/-- What the context takes out of the metadata of an ordinary machine. -/
theorem relevantTags_decide {metadata other : Dict String Value}
    (agree : relevantTags metadata = relevantTags other) :
    readyStateOf (cmdbTagsOf metadata) = readyStateOf (cmdbTagsOf other) ∧
      whitelisted (withoutState (cmdbTagsOf metadata)) =
        whitelisted (withoutState (cmdbTagsOf other)) := by
  have listed : whitelisted (cmdbTagsOf metadata) = whitelisted (cmdbTagsOf other) := by
    rw [whitelisted_cmdbTags, whitelisted_cmdbTags, agree]
  constructor
  · rw [readyState_relevant, listed, ← readyState_relevant]
  · rw [whitelisted_withoutState, listed, ← whitelisted_withoutState]

/-- A tag under the prefix carries its name in the stripped key. -/
theorem startsWith_split {text start : String} (starts : startsWith text start = true) :
    text = start ++ dropChars text start.toList.length := by
  obtain ⟨rest, parts⟩ := List.isPrefixOf_iff_prefix.mp starts
  apply String.toList_inj.mp
  rw [dropChars, ← parts, List.drop_left]
  simp [parts]

/-- Ordinary metadata name no tenant. A tenant tag would be spelled
`cmdb.cap_tenant.name` in the metadata, and that key is not there. -/
theorem Ordinary.tenant {metadata : Dict String Value} (ordinary : Ordinary metadata) :
    (withoutState (cmdbTagsOf metadata)).get? capTenantTag = none := by
  rw [← Option.not_isSome_iff_eq_none, ← Dict.mem_keys_iff]
  intro member
  rw [withoutState, Dict.mem_keys_filterKeys, Dict.erase, Dict.mem_keys_filterKeys] at member
  have tagged := member.1.1
  rw [cmdbTagsOf, Dict.mem_keys_ofList, List.map_map, List.mem_map] at tagged
  obtain ⟨entry, listed, named⟩ := tagged
  obtain ⟨stored, starts⟩ := List.mem_filter.mp listed
  have spelled : entry.1 = "cmdb.cap_tenant.name" := by
    have split : entry.1 = "cmdb." ++ dropChars entry.1 5 := startsWith_split starts
    have name : dropChars entry.1 5 = capTenantTag := named
    rw [split, name]
    rfl
  have present : metadata.contains "cmdb.cap_tenant.name" = true := by
    rw [Dict.contains, ← Dict.mem_keys_iff, ← spelled]
    exact List.mem_map_of_mem stored
  rw [ordinary.noTenant] at present
  cases present

/-! ## Messages that differ in their metadata -/

/-- The body apart from its metadata. -/
def ResourceBody.withoutMetadata (body : ResourceBody) : ResourceBody :=
  { body with metadata := .absent }

/-- Change the value of a field, if it has one; an absent or null field stays as
it is. -/
def Slot.map {α β : Type} (change : α → β) : Slot α → Slot β
  | .absent => .absent
  | .null => .null
  | .value stored => .value (change stored)

/-- The resource apart from the metadata of its body. -/
def Resource.withoutMetadata (resource : Resource) : Resource :=
  { resource with resourceBody := resource.resourceBody.map ResourceBody.withoutMetadata }

/-- The message outside the metadata of its resources. -/
def Message.withoutMetadata (message : Message) : Message :=
  { message with resources := message.resources.map (List.map Resource.withoutMetadata) }

/-- Reading a changed field is changing what is read. -/
theorem item_map {α β : Type} (change : α → β) (slot : Slot α) (key : String) :
    (slot.map change).item key = (slot.item key).map (Option.map change) := by
  cases slot <;> rfl

section Messages

variable {handler : InstanceHandler} {message : Message}

/-- The resources of a type are found alike with and without metadata. -/
theorem extractResources_withoutMetadata (resourceType : String) :
    handler.extractResources message.withoutMetadata resourceType =
      (handler.extractResources message resourceType).map (List.map Resource.withoutMetadata) := by
  simp only [extractResources, Message.withoutMetadata]
  cases message.resources with
  | none => rfl
  | some resources =>
    simp only [Option.map_some, Except.map, List.filter_map]
    rfl

/-- So is the first of them. -/
theorem extractResource_withoutMetadata (resourceType : String) :
    handler.extractResource message.withoutMetadata resourceType =
      (handler.extractResource message resourceType).map (Option.map Resource.withoutMetadata) := by
  simp only [extractResource, extractResources_withoutMetadata]
  cases handler.extractResources message resourceType with
  | error exc => rfl
  | ok resources =>
    cases resources <;> rfl

/-- The required fields are read alike too, since metadata is none of them. -/
theorem readInstance_withoutMetadata (resource : Resource) :
    handler.readInstance message.withoutMetadata resource.withoutMetadata =
      (handler.readInstance message resource).map
        (fun read => (read.1.withoutMetadata, read.2)) := by
  simp only [readInstance, Resource.withoutMetadata, item_map]
  cases resource.resourceBody.item "resource_body" with
  | error exc => rfl
  | ok found =>
    cases found with
    | none => rfl
    | some body =>
      have validated : handler.validateCreateContract body.withoutMetadata
          message.withoutMetadata.id = handler.validateCreateContract body message.id := rfl
      simp only [Except.map, bind, Except.bind, Option.map_some, validated]
      cases handler.validateCreateContract body message.id with
      | error exc => rfl
      | ok valid =>
        have name : body.withoutMetadata.name = body.name := rfl
        have id : body.withoutMetadata.id = body.id := rfl
        simp only [name, id]
        cases body.name.get with
        | none => rfl
        | some hostname => cases body.id.get <;> rfl

end Messages

/-- The content outside the metadata is the same: what a create reads before it
looks at a tag. -/
structure SameContent (content other : CreateContent) : Prop where
  hostname : content.hostname = other.hostname
  instanceData : content.instanceData.withoutMetadata = other.instanceData.withoutMetadata

/-- Messages that differ in their metadata only have the same content outside
it. Both are read from resources that differ as little. -/
theorem readCreate_same {handler : InstanceHandler} {message other : Message}
    {content otherContent : CreateContent}
    (outside : message.withoutMetadata = other.withoutMetadata)
    (read : readCreate handler message = .ok (some content))
    (otherRead : readCreate handler other = .ok (some otherContent)) :
    SameContent content otherContent := by
  obtain ⟨resource, extracted, parts, _, _⟩ := readCreate_parts read
  obtain ⟨otherResource, otherExtracted, otherParts, _, _⟩ := readCreate_parts otherRead
  have sameResource : some resource.withoutMetadata = some otherResource.withoutMetadata := by
    have stripped : handler.extractResource message.withoutMetadata "instance" = _ :=
      extractResource_withoutMetadata "instance"
    rw [outside, extractResource_withoutMetadata, extracted, otherExtracted] at stripped
    exact (Except.ok.inj stripped).symm
  have sameParts : (content.instanceData.withoutMetadata, content.hostname, content.instanceId) =
      (otherContent.instanceData.withoutMetadata, otherContent.hostname,
        otherContent.instanceId) := by
    have stripped : handler.readInstance message.withoutMetadata resource.withoutMetadata = _ :=
      readInstance_withoutMetadata resource
    rw [outside, Option.some.inj sameResource, readInstance_withoutMetadata, parts, otherParts]
      at stripped
    exact (Except.ok.inj stripped).symm
  obtain ⟨data, rest⟩ := Prod.mk.inj sameParts
  exact ⟨(Prod.mk.inj rest).1, data⟩

/-! ## The writes -/

/-- What the steps and the leftover tags read of a context. -/
structure SameFields (ctx other : CreateContext) : Prop where
  dcName : ctx.dcName = other.dcName
  resourceCloud : ctx.resourceCloud = other.resourceCloud
  projectId : ctx.projectId = other.projectId
  regionId : ctx.regionId = other.regionId
  capTenant : ctx.capTenant = other.capTenant
  cmdbTags : ctx.cmdbTags = other.cmdbTags
  flavor : ctx.instanceData.flavor = other.instanceData.flavor
  totalPrice : ctx.message.totalPrice = other.message.totalPrice

/-- Contexts with the same fields give the same writes, those of the steps and
those of leftover tags. -/
theorem SameFields.createWrites {handler : InstanceHandler} {ctx other : CreateContext}
    (same : SameFields ctx other) : handler.createWrites ctx = handler.createWrites other := by
  have tags : ∀ name, tagFields ctx name = tagFields other name := by
    intro name
    rw [tagFields, same.cmdbTags]
    rfl
  have leftover : leftoverTags ctx = leftoverTags other := by
    rw [leftoverTags, same.cmdbTags]
    rfl
  have steps : handler.resolveSteps ctx createSteps = handler.resolveSteps other createSteps := by
    simp only [createSteps, resolveSteps, resolveDc, resolveCloudProject, resolveTenant,
      resolveOwner, resolveResponsible, resolveFlavor, flavorName, resolvePayment,
      resolveCostCenter, same.dcName, same.resourceCloud, same.projectId, same.regionId,
      same.capTenant, same.flavor, same.totalPrice, tags]
  rw [InstanceHandler.createWrites, InstanceHandler.createWrites, steps, leftover]

/-! ## The context that is built -/

/-- The context of an ordinary machine, for a reply to the look-up of its project. -/
def CreateContent.ordinaryContext (content : CreateContent) (handler : InstanceHandler)
    (message : Message) (cloud : Option ResourceCloud) : CreateContext where
  message := message
  instanceData := content.instanceData
  hostNetworks := content.hostNetworks
  hostname := content.hostname
  dcName := getDcName handler.runtime content.hostname
  instanceId := content.instanceId
  regionId := message.regionId.get
  projectId := message.projectId
  cmdbTags := whitelisted (withoutState (cmdbTagsOf content.tags))
  resourceCloud := cloud
  capTenant := none
  readyState := readyStateOf (cmdbTagsOf content.tags)

/-- The look-up of the project of a message, the first call of a create. -/
def lookUpCloud (handler : InstanceHandler) (projectId : Option String) :
    Run (Option (Option ResourceCloud)) :=
  handler.cmdbCall { field := "resource_cloud", errors := true, raiseOnDataError := true }
    (cmdb (.resourceCloudSelectOne (projectId.getD "None")))

/-- Whatever the replies are, the context follows from the one to that look-up. -/
theorem buildCreateContext_ordinary {W : Type} (answer : (op : service.Op) → W → service.Reply op × W)
    {handler : InstanceHandler} {message : Message} {content : CreateContent} {ctx : CreateContext}
    {state : FieldErrors} {world : W} (read : readCreate handler message = .ok (some content))
    (ordinary : Ordinary content.tags)
    (built : ((handler.buildCreateContext message).run answer state world).1.1 = .ok (some ctx)) :
    ∃ cloud, ((lookUpCloud handler message.projectId).run answer state world).1.1 = .ok cloud ∧
      ctx = content.ordinaryContext handler message cloud.join := by
  obtain ⟨resource, extracted, parts, carded, tagged⟩ := readCreate_parts read
  rw [buildCreateContext, extracted, Action.run_bind_ok answer (Action.run_lift_ok answer _)] at built
  simp only at built
  rw [parts, Action.run_bind_ok answer (Action.run_lift_ok answer _)] at built
  simp only at built
  rw [carded, Action.run_bind_ok answer (Action.run_lift_ok answer _)] at built
  cases looked : (lookUpCloud handler message.projectId).run answer state world with
  | mk result after =>
    obtain ⟨reply, final⟩ := result
    cases reply with
    | error exc =>
      rw [lookUpCloud] at looked
      rw [Action.run_bind_error answer looked] at built
      cases built
    | ok cloud =>
      refine ⟨cloud, rfl, ?_⟩
      have untenanted : handler.resolveCapTenant (withoutState (cmdbTagsOf content.tags)) =
          pure (withoutState (cmdbTagsOf content.tags), none) := by
        rw [resolveCapTenant, ordinary.tenant]
      rw [lookUpCloud] at looked
      rw [Action.run_bind_ok answer looked, tagged,
        Action.run_bind_ok answer (Action.run_lift_ok answer _), untenanted,
        Action.run_bind_ok answer (Action.run_pure answer _)] at built
      simp only [ordinary.noNode] at built
      cases built
      rfl

/-- The fields of a message outside its resources are those of the message
without metadata. -/
theorem withoutMetadata_fields {message other : Message}
    (outside : message.withoutMetadata = other.withoutMetadata) :
    message.projectId = other.projectId ∧ message.regionId = other.regionId ∧
      message.totalPrice = other.totalPrice := by
  have projects : message.withoutMetadata.projectId = other.withoutMetadata.projectId := by
    rw [outside]
  have regions : message.withoutMetadata.regionId = other.withoutMetadata.regionId := by
    rw [outside]
  have prices : message.withoutMetadata.totalPrice = other.withoutMetadata.totalPrice := by
    rw [outside]
  exact ⟨projects, regions, prices⟩

/-- Messages that differ in irrelevant metadata only give contexts with the same
fields, if the look-up answers alike. -/
theorem ordinaryContext_same (handler : InstanceHandler) {message other : Message}
    {content otherContent : CreateContent} (cloud : Option ResourceCloud)
    (outside : message.withoutMetadata = other.withoutMetadata)
    (same : SameContent content otherContent)
    (agree : relevantTags content.tags = relevantTags otherContent.tags) :
    SameFields (content.ordinaryContext handler message cloud)
      (otherContent.ordinaryContext handler other cloud) := by
  obtain ⟨projects, regions, prices⟩ := withoutMetadata_fields outside
  have flavors : content.instanceData.withoutMetadata.flavor =
      otherContent.instanceData.withoutMetadata.flavor := by
    rw [same.instanceData]
  exact {
    dcName := congrArg (getDcName handler.runtime) same.hostname
    resourceCloud := rfl
    projectId := projects
    regionId := congrArg Slot.get regions
    capTenant := rfl
    cmdbTags := (relevantTags_decide agree).2
    flavor := flavors
    totalPrice := prices }

/-- The columns of an ordinary machine: those of the steps, and three of the whitelist. -/
theorem ordinaryContext_columns {handler : InstanceHandler} {message : Message}
    {content : CreateContent} {cloud : Option ResourceCloud} {writes : List FieldWrite}
    (returned : handler.createWrites (content.ordinaryContext handler message cloud) = .ok writes) :
    ∀ write ∈ writes, ∀ column ∈ write.mutation.keys,
      column ∈ stepColumns ++ ["role", "project", "task"] := by
  intro write member column written
  rcases createWrites_columns returned member written with ofStep | ⟨key, tag, rfl⟩
  · exact List.mem_append_left _ ofStep
  · obtain ⟨kept, listed⟩ := (Dict.mem_keys_filterKeys _ _ _).mp tag
    have other : splitHead '.' key ≠ "state" := content.cmdbTags_no_state key kept
    rw [decide_eq_true_eq, cmdbFieldsWhitelist, List.mem_cons] at listed
    have rest := listed.resolve_left other
    simp only [List.mem_cons, List.not_mem_nil, or_false] at rest
    rcases rest with head | head | head | head | head <;> rw [head] <;> decide

/-- Two creates of ordinary machines that agree outside the metadata and on the entries
under a whitelisted head: under the same replies their contexts have the same state and
tags, they write the same, and only columns of the steps or `role`, `project`, `task`. -/
theorem whitelisted_tags_decide {W : Type} (answer : (op : service.Op) → W → service.Reply op × W)
    (handler : InstanceHandler) (message other : Message)
    (outside : message.withoutMetadata = other.withoutMetadata)
    (content otherContent : CreateContent)
    (read : readCreate handler message = .ok (some content))
    (otherRead : readCreate handler other = .ok (some otherContent))
    (ordinary : Ordinary content.tags) (otherOrdinary : Ordinary otherContent.tags)
    (agree : relevantTags content.tags = relevantTags otherContent.tags)
    (state : FieldErrors) (world : W) (ctx otherCtx : CreateContext)
    (built : ((handler.buildCreateContext message).run answer state world).1.1 = .ok (some ctx))
    (otherBuilt : ((handler.buildCreateContext other).run answer state world).1.1 =
      .ok (some otherCtx)) :
    ctx.readyState = otherCtx.readyState ∧ ctx.cmdbTags = otherCtx.cmdbTags ∧
      handler.createWrites ctx = handler.createWrites otherCtx ∧
      ∀ writes, handler.createWrites ctx = .ok writes → ∀ write ∈ writes,
        ∀ column ∈ write.mutation.keys, column ∈ stepColumns ++ ["role", "project", "task"] := by
  obtain ⟨cloud, looked, rfl⟩ := buildCreateContext_ordinary answer read ordinary built
  obtain ⟨otherCloud, otherLooked, rfl⟩ :=
    buildCreateContext_ordinary answer otherRead otherOrdinary otherBuilt
  rw [← (withoutMetadata_fields outside).1, looked] at otherLooked
  obtain rfl := Except.ok.inj otherLooked
  have same := ordinaryContext_same handler cloud.join outside
    (readCreate_same outside read otherRead) agree
  exact ⟨(relevantTags_decide agree).1, same.cmdbTags, same.createWrites,
    fun writes returned => ordinaryContext_columns returned⟩

/-- A create of the sample host with these tags. -/
def taggedCreate (tags : List (String × Value)) : Message :=
  AsciiRuntime.createMessage "dc1-b1" tags []

/-- What is read from it. -/
def taggedContent (tags : List (String × Value)) : CreateContent where
  instanceData := {
    name := .value "dc1-b1"
    id := .value "u1"
    metadata := .value (Dict.ofList tags)
    addresses := .value []
    flavor := .value ⟨.value "small"⟩ }
  hostname := "dc1-b1"
  instanceId := "u1"
  hostNetworks := []
  tags := Dict.ofList tags

/-- The context that is built from it, with the project found. -/
def taggedContext (tags : List (String × Value)) : CreateContext :=
  (taggedContent tags).ordinaryContext AsciiRuntime.handler (taggedCreate tags)
    (some ⟨"p1", some (.int 5), .null, none⟩)

/-- Two creates of a node whose tags differ by a column that is not on the
whitelist and by a foreign entry have the same tags and the same writes. -/
theorem whitelisted_tags_decide_role :
    (taggedContext [("cmdb.role", .str "db"), ("cmdb.owner_id", .int 1)]).cmdbTags =
        (taggedContext [("note", .null), ("cmdb.role", .str "db")]).cmdbTags ∧
      AsciiRuntime.handler.createWrites
          (taggedContext [("cmdb.role", .str "db"), ("cmdb.owner_id", .int 1)]) =
        AsciiRuntime.handler.createWrites
          (taggedContext [("note", .null), ("cmdb.role", .str "db")]) := by
  have same := whitelisted_tags_decide (World.answer .ok) AsciiRuntime.handler
    (taggedCreate [("cmdb.role", .str "db"), ("cmdb.owner_id", .int 1)])
    (taggedCreate [("note", .null), ("cmdb.role", .str "db")]) rfl
    (taggedContent [("cmdb.role", .str "db"), ("cmdb.owner_id", .int 1)])
    (taggedContent [("note", .null), ("cmdb.role", .str "db")]) rfl rfl
    ⟨by decide, by decide⟩ ⟨by decide, by decide⟩ rfl {} ⟨AsciiRuntime.registered, []⟩
    (taggedContext [("cmdb.role", .str "db"), ("cmdb.owner_id", .int 1)])
    (taggedContext [("note", .null), ("cmdb.role", .str "db")]) rfl rfl
  exact ⟨same.2.1, same.2.2.1⟩

end InstanceLifecycle
