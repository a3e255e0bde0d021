import InstanceLifecycle.Create.CardRecovery
import InstanceLifecycle.Create.Fields

/-!
# The precedence ladders

Owner, responsible and cost center are each taken from the first rung that has a value: the
cap tenant, the tags, the cloud project, a default. The rungs of the cloud project test the
value of their column; the rung of the cap tenant tests only that the row was found.
-/

namespace InstanceLifecycle

open Interaction Store InstanceHandler

/-- What a rung offers: a column of the server and its value. -/
abbrev Rung := Option (String × Value)

/-- The rung of a column that is not null. The handler takes the value of a cap
tenant as it is, so null is the one value that says nothing. -/
def columnRung (column : String) : Value → Rung
  | .null => none
  | value => some (column, value)

/-- The rung of a column that is neither null nor empty, as the handler tests it
for the resource cloud. -/
def truthyRung (column : String) (value : Value) : Rung :=
  if value.truthy then some (column, value) else none

/-- A known value is offered. -/
theorem columnRung_some {column : String} {value : Value} (known : value ≠ .null) :
    columnRung column value = some (column, value) := by
  cases value with
  | null => exact absurd rfl known
  | _ => rfl

/-- A truthy value is not null. -/
theorem truthy_known {value : Value} (holds : value.truthy = true) : value ≠ .null := by
  rintro rfl
  cases holds

section Ladders

variable (handler : InstanceHandler) (ctx : CreateContext)

/-- The tags of a field write the column of its name, with the value they are
converted to. -/
def tagRung (name : String) : Rung :=
  ((handler.tags2cmdbField (tagFields ctx name)).get? name).map (fun value => (name, value))

/-- The sources of the owner in the order of precedence: the cap tenant, the
tags, the default. -/
def ownerLadder : List Rung :=
  [ctx.capTenant.bind (fun row => columnRung "owner_id" row.ownerId),
    tagRung handler ctx "owner",
    some ("owner", .dict [("name", .str defaultResponsibleName)])]

/-- The sources of the responsible person. The cap tenant's rung reads its
owner, as it has no responsible person of its own; the resource cloud stands
before the default. -/
def responsibleLadder : List Rung :=
  [ctx.capTenant.bind (fun row => columnRung "responsible_id" row.ownerId),
    tagRung handler ctx "responsible",
    ctx.resourceCloud.bind (fun row => truthyRung "responsible_id" row.responsibleId),
    some ("responsible", .dict [("name", .str defaultResponsibleName)])]

/-- The sources of the cost center, with the account of the resource cloud
before the default. -/
def costCenterLadder : List Rung :=
  [ctx.capTenant.bind (fun row => columnRung "cost_center_id" row.costCenterId),
    tagRung handler ctx "cost_center",
    (ctx.resourceCloud.bind ResourceCloud.account).bind (fun account =>
      truthyRung "cost_center_id" account.costCenterId),
    some ("cost_center", .dict [("cc", .str defaultCostCenterCc)])]

end Ladders

/-- The batch assigns what the first rung with a value offers, and it is not null. -/
def Assigns (batch : Mutation) (ladder : List Rung) : Prop :=
  ∃ column value, ladder.findSome? id = some (column, value) ∧
    batch.get? column = some value ∧ value ≠ .null

/-- Every ladder ends in a value: the batch writes to the column of its first
rung that offers one, and it writes what is offered. -/
structure OwnershipAssigned (handler : InstanceHandler) (ctx : CreateContext)
    (batch : Mutation) : Prop where
  owner : Assigns batch (ownerLadder handler ctx)
  responsible : Assigns batch (responsibleLadder handler ctx)
  costCenter : Assigns batch (costCenterLadder handler ctx)

section Rungs

variable {handler : InstanceHandler} {ctx : CreateContext}

/-- The tags are about ownership and each has a value. Then no tag is left over
to write a column behind a step. -/
structure OwnershipTags (ctx : CreateContext) : Prop where
  known : ∀ entry ∈ ctx.cmdbTags.entries, entry.2 ≠ .null
  heads : ∀ key ∈ ctx.cmdbTags.keys, splitHead '.' key ∈ ["owner", "responsible", "cost_center"]

/-- Such tags are all consumed by steps, and none is left over. -/
theorem OwnershipTags.consumed (tags : OwnershipTags ctx) : (leftoverTags ctx).keys = [] := by
  apply List.eq_nil_iff_forall_not_mem.mpr
  intro key leftover
  obtain ⟨tag, unknown⟩ := (Dict.mem_keys_filterKeys _ _ _).mp leftover
  have names : ∀ name ∈ ["owner", "responsible", "cost_center"],
      name ∈ createSteps.map FieldStep.name := by decide
  simp [names _ (tags.heads key tag)] at unknown

/-- A known value of a tag is converted to a known value: it is kept or wrapped
under a key. -/
theorem tagMutation_known (handler : InstanceHandler) (key : String) {value : Value}
    (known : value ≠ .null) :
    (handler.tagMutation key value).2 ≠ .null := by
  rw [tagMutation]
  split
  · simp
  · split
    · exact known
    · simp

/-- Known values of tags are converted to known values. -/
theorem tags2cmdbField_known (handler : InstanceHandler) {data : Dict String Value}
    (known : ∀ entry ∈ data.entries, entry.2 ≠ .null) {column : String} {value : Value}
    (reads : (handler.tags2cmdbField data).get? column = some value) : value ≠ .null := by
  have stored := Dict.mem_ofList _ ((Dict.get?_eq_some_iff _ column value).mp reads)
  obtain ⟨entry, tag, made⟩ := List.mem_map.mp stored
  have kept := tagMutation_known handler entry.1 (known entry tag)
  rw [made] at kept
  exact kept

/-- Without tags of the field its rung is empty, for nothing is converted. -/
theorem tagRung_none {name : String} (untagged : (tagFields ctx name).entries.isEmpty = true) :
    tagRung handler ctx name = none := by
  rw [tagRung, tags2cmdbField, List.isEmpty_iff.mp untagged]
  rfl

/-- With tags of the field its rung offers what they are converted to, and that
is not null. Each of them writes the one column. -/
theorem tagRung_some (handler : InstanceHandler) (tags : OwnershipTags ctx) {name : String}
    (plain : '.' ∉ name.toList)
    (tagged : (tagFields ctx name).entries.isEmpty = false) :
    ∃ value, tagRung handler ctx name = some (name, value) ∧
      (handler.tags2cmdbField (tagFields ctx name)).get? name = some value ∧ value ≠ .null := by
  obtain ⟨entry, rest, shape⟩ : ∃ entry rest, (tagFields ctx name).entries = entry :: rest := by
    cases entries : (tagFields ctx name).entries with
    | nil =>
      rw [entries] at tagged
      cases tagged
    | cons entry rest => exact ⟨entry, rest, rfl⟩
  have stored : entry ∈ (tagFields ctx name).entries := by
    rw [shape]
    exact List.mem_cons_self
  have key : entry.1 ∈ (tagFields ctx name).keys := List.mem_map_of_mem stored
  have written : name ∈ (handler.tags2cmdbField (tagFields ctx name)).keys :=
    (mem_keys_tags2cmdbField _ name).mpr ⟨entry.1, key, tagFields_column name entry.1 plain key⟩
  rw [Dict.mem_keys_iff, Option.isSome_iff_exists] at written
  obtain ⟨value, reads⟩ := written
  have known : value ≠ .null := by
    apply tags2cmdbField_known handler _ reads
    intro other member
    exact tags.known other (List.mem_filter.mp member).1
  exact ⟨value, by rw [tagRung, reads]; rfl, reads, known⟩

/-- A mutation of the first rung's offer alone assigns the ladder, if the offer
is known. -/
theorem assigns_single {column : String} {value : Value} {ladder : List Rung}
    (first : ladder.findSome? id = some (column, value)) (known : value ≠ .null) :
    Assigns (single column value) ladder :=
  ⟨column, value, first, by rw [get?_single, if_pos rfl], known⟩

/-- The tags decide where the cap tenant offers nothing, whatever the lower
rungs are. -/
theorem assigns_tags (tags : OwnershipTags ctx) {name : String} (plain : '.' ∉ name.toList)
    (tagged : (tagFields ctx name).entries.isEmpty = false) (lower : List Rung) :
    Assigns (handler.tags2cmdbField (tagFields ctx name))
      (none :: tagRung handler ctx name :: lower) := by
  obtain ⟨value, rung, reads, known⟩ := tagRung_some handler tags plain tagged
  refine ⟨name, value, ?_, reads, known⟩
  rw [rung]
  rfl

/-- A column that is looked up gives way to the default. By cases on whether its
value is truthy, which is the handler's own test. -/
theorem lookUp_assigns (column : String) (value : Value) {name : String} {default : Value}
    (known : default ≠ .null) :
    ∃ mutation, (if value.truthy then .ok (some (single column value))
        else .ok (some (single name default)) : Except Exn (Option Mutation)) =
          .ok (some mutation) ∧
      Assigns mutation [none, none, truthyRung column value, some (name, default)] := by
  by_cases holds : value.truthy = true
  · refine ⟨_, if_pos holds, assigns_single ?_ (truthy_known holds)⟩
    simp [truthyRung, holds]
  · refine ⟨_, if_neg holds, assigns_single ?_ known⟩
    simp [truthyRung, holds]

/-- The rung of the cap tenant is written whether or not it has a value. -/
theorem assigns_capTenant_iff (column : String) (value : Value) (lower : List Rung) :
    Assigns (single column value) (columnRung column value :: lower) ↔ value ≠ .null := by
  constructor
  · rintro ⟨named, stored, -, reads, known⟩
    rw [get?_single] at reads
    split at reads
    · cases reads
      exact known
    · cases reads
  · intro known
    apply assigns_single _ known
    rw [columnRung_some known]
    rfl

/-! ## One ladder -/

/-- The owner is what the first rung with a value offers, unless the cap tenant has none. -/
theorem resolveOwner_assigns (handler : InstanceHandler) (tags : OwnershipTags ctx) :
    ∃ mutation, handler.resolveOwner ctx = .ok (some mutation) ∧
      (Assigns mutation (ownerLadder handler ctx) ↔
        ∀ row, ctx.capTenant = some row → row.ownerId ≠ .null) := by
  rw [resolveOwner, ownerLadder]
  cases ctx.capTenant with
  | some row =>
    refine ⟨_, rfl, (assigns_capTenant_iff "owner_id" row.ownerId _).trans ?_⟩
    simp
  | none =>
    simp only [reduceCtorEq, false_implies, implies_true, iff_true]
    by_cases untagged : (tagFields ctx "owner").entries.isEmpty = true
    · rw [tagRung_none untagged]
      exact ⟨_, if_pos untagged, assigns_single rfl (by simp)⟩
    · rw [Bool.not_eq_true] at untagged
      exact ⟨_, if_neg (by simp [untagged]), assigns_tags tags (by decide) untagged _⟩

/-- The step of the responsible person always resolves, and it assigns its
ladder unless a cap tenant without owner answers. By cases down the ladder. -/
theorem resolveResponsible_assigns (handler : InstanceHandler) (tags : OwnershipTags ctx) :
    ∃ mutation, handler.resolveResponsible ctx = .ok (some mutation) ∧
      (Assigns mutation (responsibleLadder handler ctx) ↔
        ∀ row, ctx.capTenant = some row → row.ownerId ≠ .null) := by
  rw [resolveResponsible, responsibleLadder]
  cases ctx.capTenant with
  | some row =>
    refine ⟨_, rfl, (assigns_capTenant_iff "responsible_id" row.ownerId _).trans ?_⟩
    simp
  | none =>
    simp only [reduceCtorEq, false_implies, implies_true, iff_true]
    by_cases untagged : (tagFields ctx "responsible").entries.isEmpty = true
    · rw [tagRung_none untagged]
      simp only [untagged, Bool.not_true]
      cases ctx.resourceCloud with
      | none => exact ⟨_, rfl, assigns_single rfl (by simp)⟩
      | some row => exact lookUp_assigns "responsible_id" row.responsibleId (by simp)
    · rw [Bool.not_eq_true] at untagged
      exact ⟨_, if_pos (by simp [untagged]), assigns_tags tags (by decide) untagged _⟩

/-- The step of the cost center always resolves, and it assigns its ladder
unless a cap tenant without cost center answers. By cases down the ladder. -/
theorem resolveCostCenter_assigns (handler : InstanceHandler) (tags : OwnershipTags ctx) :
    ∃ mutation, handler.resolveCostCenter ctx = .ok (some mutation) ∧
      (Assigns mutation (costCenterLadder handler ctx) ↔
        ∀ row, ctx.capTenant = some row → row.costCenterId ≠ .null) := by
  rw [resolveCostCenter, costCenterLadder]
  cases ctx.capTenant with
  | some row =>
    refine ⟨_, rfl, (assigns_capTenant_iff "cost_center_id" row.costCenterId _).trans ?_⟩
    simp
  | none =>
    simp only [reduceCtorEq, false_implies, implies_true, iff_true]
    by_cases untagged : (tagFields ctx "cost_center").entries.isEmpty = true
    · rw [tagRung_none untagged]
      simp only [untagged, Bool.not_true]
      cases ctx.resourceCloud.bind ResourceCloud.account with
      | none => exact ⟨_, rfl, assigns_single rfl (by simp)⟩
      | some account => exact lookUp_assigns "cost_center_id" account.costCenterId (by simp)
    · rw [Bool.not_eq_true] at untagged
      exact ⟨_, if_pos (by simp [untagged]), assigns_tags tags (by decide) untagged _⟩

/-! ## The batch -/

/-- The columns a ladder offers: each rung that says something names one of
these. -/
def Offers (ladder : List Rung) (columns : List String) : Prop :=
  ∀ rung ∈ ladder, ∀ offer, rung = some offer → offer.1 ∈ columns

/-- The first offer of a ladder is among them. -/
theorem offers_first {ladder : List Rung} {columns : List String}
    (offers : Offers ladder columns) {column : String} {value : Value}
    (first : ladder.findSome? id = some (column, value)) : column ∈ columns := by
  obtain ⟨rung, member, offered⟩ := List.exists_of_findSome?_eq_some first
  exact offers rung member (column, value) offered

/-- The batch assigns what the step does. The columns the ladder offers are the
step's own, and no other write of the batch touches these. -/
theorem assigns_batch_iff {writes : List FieldWrite}
    (returned : handler.createWrites ctx = .ok writes) (tags : OwnershipTags ctx)
    {step : FieldStep} (listed : step ∈ createSteps) {mutation : Mutation}
    (made : step.resolve handler ctx = .ok (some mutation)) {ladder : List Rung}
    (offers : Offers ladder (columnsOf step.name)) :
    Assigns (mergeWrites writes) ladder ↔ Assigns mutation ladder := by
  have untagged : ∀ column, ∀ key ∈ (leftoverTags ctx).keys, splitHead '.' key ≠ column := by
    intro column key leftover
    rw [tags.consumed] at leftover
    cases leftover
  constructor
  · rintro ⟨column, value, first, reads, known⟩
    have own := offers_first offers first
    rw [batch_column returned listed made own (untagged column)] at reads
    exact ⟨column, value, first, reads, known⟩
  · rintro ⟨column, value, first, reads, known⟩
    have own := offers_first offers first
    rw [← batch_column returned listed made own (untagged column)] at reads
    exact ⟨column, value, first, reads, known⟩

/-- A rung of a column names that column. -/
theorem columnRung_column {column : String} {value : Value} {offer : String × Value}
    (offered : columnRung column value = some offer) : offer.1 = column := by
  cases value with
  | null => cases offered
  | _ =>
    cases offered
    rfl

/-- So does one that asks for a truthy value. -/
theorem truthyRung_column {column : String} {value : Value} {offer : String × Value}
    (offered : truthyRung column value = some offer) : offer.1 = column := by
  rw [truthyRung] at offered
  split at offered
  · cases offered
    rfl
  · cases offered

/-- The rung of tags names the column of its field. -/
theorem tagRung_column {name : String} {offer : String × Value}
    (offered : tagRung handler ctx name = some offer) : offer.1 = name := by
  obtain ⟨value, -, rfl⟩ := Option.map_eq_some_iff.mp offered
  rfl

/-- The owner's ladder offers the two columns of the owner. -/
theorem ownerLadder_offers : Offers (ownerLadder handler ctx) ["owner_id", "owner"] := by
  intro rung member offer offered
  simp only [ownerLadder, List.mem_cons, List.not_mem_nil, or_false] at member
  rcases member with rfl | rfl | rfl
  · obtain ⟨row, -, column⟩ := Option.bind_eq_some_iff.mp offered
    simp [columnRung_column column]
  · simp [tagRung_column offered]
  · cases offered
    simp

/-- The rungs of the responsible person's ladder offer one of two columns. By
the rung: a row of the store offers the id, a tag or a default the name. -/
theorem responsibleLadder_offers :
    Offers (responsibleLadder handler ctx) ["responsible_id", "responsible"] := by
  intro rung member offer offered
  simp only [responsibleLadder, List.mem_cons, List.not_mem_nil, or_false] at member
  rcases member with rfl | rfl | rfl | rfl
  · obtain ⟨row, -, column⟩ := Option.bind_eq_some_iff.mp offered
    simp [columnRung_column column]
  · simp [tagRung_column offered]
  · obtain ⟨row, -, column⟩ := Option.bind_eq_some_iff.mp offered
    simp [truthyRung_column column]
  · cases offered
    simp

/-- The rungs of the cost center's ladder offer one of two columns, as those of
the responsible person do. -/
theorem costCenterLadder_offers :
    Offers (costCenterLadder handler ctx) ["cost_center_id", "cost_center"] := by
  intro rung member offer offered
  simp only [costCenterLadder, List.mem_cons, List.not_mem_nil, or_false] at member
  rcases member with rfl | rfl | rfl | rfl
  · obtain ⟨row, -, column⟩ := Option.bind_eq_some_iff.mp offered
    simp [columnRung_column column]
  · simp [tagRung_column offered]
  · obtain ⟨account, -, column⟩ := Option.bind_eq_some_iff.mp offered
    simp [truthyRung_column column]
  · cases offered
    simp

end Rungs

/-- Ownership resolves to nothing exactly where the cap tenant was found without an owner or
without a cost center: its rung does not give way. -/
theorem ownership_assigned_iff (handler : InstanceHandler) (ctx : CreateContext)
    (writes : List FieldWrite) (returned : handler.createWrites ctx = .ok writes)
    (tags : OwnershipTags ctx) :
    OwnershipAssigned handler ctx (mergeWrites writes) ↔
      ∀ row, ctx.capTenant = some row → row.ownerId ≠ .null ∧ row.costCenterId ≠ .null := by
  obtain ⟨owner, ownerStep, ownerAssigns⟩ := resolveOwner_assigns handler tags
  obtain ⟨responsible, responsibleStep, responsibleAssigns⟩ :=
    resolveResponsible_assigns handler tags
  obtain ⟨center, centerStep, centerAssigns⟩ :=
    resolveCostCenter_assigns handler tags
  have listed : ∀ index, createSteps.get index ∈ createSteps := List.get_mem createSteps
  have ownerBatch : Assigns (mergeWrites writes) (ownerLadder handler ctx) ↔ _ :=
    assigns_batch_iff returned tags (listed ⟨3, by decide⟩) ownerStep ownerLadder_offers
  have responsibleBatch : Assigns (mergeWrites writes) (responsibleLadder handler ctx) ↔ _ :=
    assigns_batch_iff returned tags (listed ⟨4, by decide⟩) responsibleStep
      responsibleLadder_offers
  have centerBatch : Assigns (mergeWrites writes) (costCenterLadder handler ctx) ↔ _ :=
    assigns_batch_iff returned tags (listed ⟨7, by decide⟩) centerStep costCenterLadder_offers
  constructor
  · intro assigned row found
    exact ⟨ownerAssigns.mp (ownerBatch.mp assigned.owner) row found,
      centerAssigns.mp (centerBatch.mp assigned.costCenter) row found⟩
  · intro known
    constructor
    · exact ownerBatch.mpr (ownerAssigns.mpr fun row found => (known row found).1)
    · exact responsibleBatch.mpr (responsibleAssigns.mpr fun row found => (known row found).1)
    · exact centerBatch.mpr (centerAssigns.mpr fun row found => (known row found).2)

/-- The context of a host whose cap tenant has this owner, with one tag that
would name another. -/
def ownedContext (ownerId : Value) : CreateContext :=
  { sampleContext [] with
    instanceData := { flavor := .value ⟨.value "small"⟩ }
    cmdbTags := Dict.ofList [("owner.name", .str "ann")]
    capTenant := some ⟨"blue", .int 8, ownerId⟩ }

/-- The only tag of this context names an owner, so it is about ownership. -/
theorem ownedContext_tags (ownerId : Value) : OwnershipTags (ownedContext ownerId) := by
  constructor
  · intro entry member
    have tag : entry = ("owner.name", .str "ann") := by
      simpa [ownedContext, Dict.ofList, Dict.setAll, Dict.set, Dict.empty, setEntry] using member
    rw [tag]
    simp
  · intro key member
    have tag : key = "owner.name" := by
      simpa [ownedContext, Dict.mem_keys_ofList] using member
    rw [tag]
    decide

/-- The equivalence for a cap tenant that has an owner and a cost center: all
three ladders end in its values. -/
theorem ownership_assigned_blue :
    ∃ writes, AsciiRuntime.handler.createWrites (ownedContext (.int 9)) = .ok writes ∧
      OwnershipAssigned AsciiRuntime.handler (ownedContext (.int 9)) (mergeWrites writes) := by
  refine ⟨_, rfl, (ownership_assigned_iff _ _ _ rfl (ownedContext_tags (.int 9))).mpr ?_⟩
  rintro row ⟨⟩
  simp

/-- A cap tenant without an owner: the tag and the default are passed over. -/
theorem ownership_unassigned :
    OwnershipTags (ownedContext .null) ∧
      ∃ writes, AsciiRuntime.handler.createWrites (ownedContext .null) = .ok writes ∧
        (mergeWrites writes).get? "owner_id" = some .null ∧
        (mergeWrites writes).get? "owner" = none ∧
        ¬ OwnershipAssigned AsciiRuntime.handler (ownedContext .null) (mergeWrites writes) := by
  refine ⟨ownedContext_tags .null, _, rfl, rfl, rfl, ?_⟩
  rintro ⟨⟨column, value, first, reads, known⟩, -, -⟩
  have offered : some (column, value) = some ("owner", Value.dict [("name", .str "ann")]) :=
    first.symm
  cases offered
  cases reads

end InstanceLifecycle
