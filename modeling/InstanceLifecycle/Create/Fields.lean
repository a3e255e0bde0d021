import InstanceLifecycle.Handler.Create
import Mathlib.Data.List.TakeWhile

/-!
# What a create writes into the server row

A tag writes the column its key starts with, whatever shape the mutation takes.
The steps write columns of a fixed list; a tag that no step consumes writes its own.
Merging the writes adds no column and loses none.
-/

namespace InstanceLifecycle

open Interaction Store InstanceHandler

/-! ## Columns of tags -/

/-- A mapping of one entry has that one key. -/
theorem keys_single (key : String) (value : Value) : (single key value).keys = [key] := rfl

/-- A mapping of one entry reads its value at its key and nothing elsewhere. -/
theorem get?_single (key column : String) (value : Value) :
    (single key value).get? column = if column = key then some value else none := by
  rw [single, Dict.ofList, Dict.setAll, List.foldl_cons, List.foldl_nil, Dict.get?_set]
  rfl

/-- A text without the separator is its own head. -/
theorem splitHead_plain (sep : Char) (text : String) (plain : sep ∉ text.toList) :
    splitHead sep text = text := by
  have whole : text.toList.takeWhile (fun c => c ≠ sep) = text.toList := by
    rw [List.takeWhile_eq_self_iff]
    intro c member
    have different : c ≠ sep := fun same => plain (same ▸ member)
    exact decide_eq_true different
  rw [splitHead, whole, String.ofList_toList]

/-- A dotted form of a plain name starts with the name, so its head is that
name. The first separator is the one that follows the name. -/
theorem splitHead_dotted (name key : String) (plain : '.' ∉ name.toList)
    (dotted : startsWith key (name ++ ".") = true) : splitHead '.' key = name := by
  obtain ⟨rest, parts⟩ := List.isPrefixOf_iff_prefix.mp dotted
  have spelled : key.toList = name.toList ++ '.' :: rest := by
    rw [← parts]
    simp
  have head : key.toList.takeWhile (fun c => c ≠ '.') = name.toList := by
    rw [spelled, List.takeWhile_append_of_pos]
    · simp
    · intro c member
      have different : c ≠ '.' := fun same => plain (same ▸ member)
      exact decide_eq_true different
  rw [splitHead, head, String.ofList_toList]

/-- The separator ends the head wherever the head is not everything. By
induction on the characters. -/
theorem takeWhile_split (sep : Char) (chars : List Char) :
    chars.takeWhile (fun c => c ≠ sep) = chars ∨
      ∃ rest, chars = chars.takeWhile (fun c => c ≠ sep) ++ sep :: rest := by
  induction chars with
  | nil => exact Or.inl rfl
  | cons c rest ih =>
    by_cases same : c = sep
    · exact Or.inr ⟨rest, by simp [same]⟩
    · have first : (c :: rest).takeWhile (fun c => c ≠ sep) =
          c :: rest.takeWhile (fun c => c ≠ sep) := by
        simp [same]
      rw [first]
      rcases ih with whole | ⟨tail, parts⟩
      · exact Or.inl (congrArg (List.cons c) whole)
      · exact Or.inr ⟨tail, congrArg (List.cons c) parts⟩

/-- A key with this head is the name itself or a dotted form of it. -/
theorem splitHead_cases (name key : String) (head : splitHead '.' key = name) :
    key = name ∨ startsWith key (name ++ ".") = true := by
  have spelled : key.toList.takeWhile (fun c => c ≠ '.') = name.toList := by
    rw [← head, splitHead, String.toList_ofList]
  rcases takeWhile_split '.' key.toList with whole | ⟨rest, parts⟩
  · rw [spelled] at whole
    exact Or.inl (String.toList_inj.mp whole.symm)
  · rw [spelled] at parts
    refine Or.inr (List.isPrefixOf_iff_prefix.mpr ⟨rest, ?_⟩)
    rw [parts]
    simp

section Fields

variable {handler : InstanceHandler} {ctx : CreateContext}

/-- The column of a tag is the head of its key. A key without a dot is its own
head, so both branches of the conversion agree on this. -/
theorem tagMutation_column (key : String) (value : Value) :
    (handler.tagMutation key value).1 = splitHead '.' key := by
  rw [tagMutation]
  by_cases dotted : key.toList.contains '.' = true
  · rw [if_pos dotted]
  · have plain : splitHead '.' key = key := by
      apply splitHead_plain
      simpa using dotted
    rw [if_neg dotted, plain]
    split <;> rfl

/-- The columns that tags are converted to are the heads of their keys. Two tags
with one head share the column. -/
theorem mem_keys_tags2cmdbField (data : Dict String Value) (column : String) :
    column ∈ (handler.tags2cmdbField data).keys ↔
      ∃ key ∈ data.keys, splitHead '.' key = column := by
  rw [tags2cmdbField, Dict.mem_keys_ofList, List.map_map, Dict.keys]
  simp only [List.mem_map, Function.comp, tagMutation_column]
  constructor
  · rintro ⟨entry, stored, rfl⟩
    exact ⟨entry.1, ⟨entry, stored, rfl⟩, rfl⟩
  · rintro ⟨_, ⟨entry, stored, rfl⟩, rfl⟩
    exact ⟨entry, stored, rfl⟩

/-- The tags of a field all write the field's own column, whether they carry its
plain name or a dotted form of it. -/
theorem tagFields_column (name key : String) (plain : '.' ∉ name.toList)
    (member : key ∈ (tagFields ctx name).keys) : splitHead '.' key = name := by
  have passed := ((Dict.mem_keys_filterKeys _ _ _).mp member).2
  rw [Bool.or_eq_true, decide_eq_true_eq] at passed
  rcases passed with rfl | dotted
  · exact splitHead_plain '.' key plain
  · exact splitHead_dotted name key plain dotted

/-! ## Columns of steps -/

/-- The columns the steps can write, whatever the message and the CMDB say. -/
def stepColumns : List String :=
  ["dc", "cloud_resource_project_id", "tenant", "owner_id", "owner", "responsible_id",
    "responsible", "flavor", "server_monthly_payment", "cost_center_id", "cost_center"]

/-- The columns a step can write: the last three fields are also written by id. -/
def columnsOf (name : String) : List String :=
  if name = "cloud_resource_project" then ["cloud_resource_project_id"]
  else if name ∈ ["owner", "responsible", "cost_center"] then [name ++ "_id", name]
  else [name]

/-- The columns of each step are among the fixed ones. The table of steps is
closed, so this is decided. -/
theorem columnsOf_fixed :
    ∀ step ∈ createSteps, ∀ column ∈ columnsOf step.name, column ∈ stepColumns := by
  have names : ∀ name ∈ createSteps.map FieldStep.name, ∀ column ∈ columnsOf name,
      column ∈ stepColumns := by decide
  exact fun step listed => names step.name (List.mem_map_of_mem listed)

/-- What the tags of a field write is a fixed column, if the field is one. -/
theorem tagFields_columns (name column : String) (plain : '.' ∉ name.toList)
    {columns : List String} (fixed : name ∈ columns)
    (written : column ∈ (handler.tags2cmdbField (tagFields ctx name)).keys) :
    column ∈ columns := by
  obtain ⟨key, member, rfl⟩ := (mem_keys_tags2cmdbField _ column).mp written
  rw [tagFields_column name key plain member]
  exact fixed

/-- A mutation of one fixed column writes nothing else. -/
theorem single_columns {name column : String} {value : Value} {columns : List String}
    (fixed : name ∈ columns) (written : column ∈ (single name value).keys) :
    column ∈ columns := by
  rw [keys_single, List.mem_singleton] at written
  exact written ▸ fixed

section Resolvers

variable {mutation : Mutation} {column : String}

/-- The cloud project is written to its own column. By the branches of the step,
of which one resolves to a mutation. -/
theorem resolveCloudProject_columns (resolved : resolveCloudProject ctx = .ok (some mutation))
    (written : column ∈ mutation.keys) : column ∈ columnsOf "cloud_resource_project" := by
  rw [resolveCloudProject] at resolved
  split at resolved
  · cases resolved
  · split at resolved
    · cases resolved
    · cases resolved
      exact single_columns (by decide) written

/-- The owner is written to the owner's columns, whichever rung of the ladder
answers. -/
theorem resolveOwner_columns (resolved : handler.resolveOwner ctx = .ok (some mutation))
    (written : column ∈ mutation.keys) : column ∈ columnsOf "owner" := by
  rw [resolveOwner] at resolved
  split at resolved
  · cases resolved
    exact single_columns (by decide) written
  · split at resolved
    · cases resolved
      exact single_columns (by decide) written
    · cases resolved
      exact tagFields_columns "owner" column (by decide) (by decide) written

/-- The responsible person is written to the columns for that, whichever rung
answers. -/
theorem resolveResponsible_columns
    (resolved : handler.resolveResponsible ctx = .ok (some mutation))
    (written : column ∈ mutation.keys) : column ∈ columnsOf "responsible" := by
  rw [resolveResponsible] at resolved
  split at resolved
  · cases resolved
    exact single_columns (by decide) written
  · split at resolved
    · cases resolved
      exact tagFields_columns "responsible" column (by decide) (by decide) written
    · split at resolved
      · split at resolved <;> cases resolved <;> exact single_columns (by decide) written
      · cases resolved
        exact single_columns (by decide) written

/-- The flavor is written to its own column alone. -/
theorem resolveFlavor_columns (resolved : resolveFlavor ctx = .ok (some mutation))
    (written : column ∈ mutation.keys) : column ∈ columnsOf "flavor" := by
  obtain ⟨name, _, resolved⟩ := bind_returned resolved
  cases resolved
  exact single_columns (by decide) written

/-- The monthly payment is written to its own column, when the message carries a
price. -/
theorem resolvePayment_columns (resolved : resolvePayment ctx = .ok (some mutation))
    (written : column ∈ mutation.keys) : column ∈ columnsOf "server_monthly_payment" := by
  rw [resolvePayment] at resolved
  split at resolved
  · cases resolved
  · split at resolved
    · cases resolved
    · cases resolved
      exact single_columns (by decide) written

/-- The cost center is written to the columns for that, whichever rung answers. -/
theorem resolveCostCenter_columns
    (resolved : handler.resolveCostCenter ctx = .ok (some mutation))
    (written : column ∈ mutation.keys) : column ∈ columnsOf "cost_center" := by
  rw [resolveCostCenter] at resolved
  split at resolved
  · cases resolved
    exact single_columns (by decide) written
  · split at resolved
    · cases resolved
      exact tagFields_columns "cost_center" column (by decide) (by decide) written
    · split at resolved
      · split at resolved <;> cases resolved <;> exact single_columns (by decide) written
      · cases resolved
        exact single_columns (by decide) written

end Resolvers

/-- Every step writes columns of its own. By cases on the table of steps, one
lemma above for each that can resolve. -/
theorem resolve_columns (step : FieldStep) (listed : step ∈ createSteps) (mutation : Mutation)
    (resolved : step.resolve handler ctx = .ok (some mutation)) (column : String)
    (written : column ∈ mutation.keys) : column ∈ columnsOf step.name := by
  simp only [createSteps, List.mem_cons, List.not_mem_nil, or_false] at listed
  rcases listed with rfl | rfl | rfl | rfl | rfl | rfl | rfl | rfl
  · cases resolved
    exact single_columns (by decide) written
  · exact resolveCloudProject_columns resolved written
  · cases resolved
    exact single_columns (by decide) written
  · exact resolveOwner_columns resolved written
  · exact resolveResponsible_columns resolved written
  · exact resolveFlavor_columns resolved written
  · exact resolvePayment_columns resolved written
  · exact resolveCostCenter_columns resolved written

/-! ## The writes of a create -/

/-- The write of a step that resolved to a mutation, with the flags the table
gives the step. -/
def FieldStep.write (step : FieldStep) (mutation : Mutation) : FieldWrite :=
  ⟨step.name, mutation, step.markStateError, step.includeInStatusDetails⟩

/-- The write of a tag that no step consumes. It goes to the column its key
names, and its failure is recorded under that key. -/
def leftoverWrite (handler : InstanceHandler) (entry : String × Value) : FieldWrite where
  field := entry.1
  mutation := handler.tags2cmdbField (single entry.1 entry.2)

/-- The writes of the steps are that of the first one, if any, and those of the rest. -/
theorem resolveSteps_cons {step : FieldStep} {rest : List FieldStep} {writes : List FieldWrite}
    (resolved : handler.resolveSteps ctx (step :: rest) = .ok writes) :
    ∃ mutation later, step.resolve handler ctx = .ok mutation ∧
      handler.resolveSteps ctx rest = .ok later ∧
      writes = (mutation.map step.write).toList ++ later := by
  obtain ⟨mutation, first, resolved⟩ := bind_returned resolved
  obtain ⟨later, tail, resolved⟩ := bind_returned resolved
  refine ⟨mutation, later, first, tail, ?_⟩
  cases mutation with
  | none =>
    cases resolved
    rfl
  | some mutation =>
    cases resolved
    rfl

/-- The writes that the steps resolve to are each the write of one step. By
induction on the steps left; those that resolve to nothing add no write. -/
theorem resolveSteps_writes (steps : List FieldStep) (writes : List FieldWrite)
    (resolved : handler.resolveSteps ctx steps = .ok writes) :
    ∀ write ∈ writes, ∃ step ∈ steps, ∃ mutation,
      step.resolve handler ctx = .ok (some mutation) ∧ write = step.write mutation := by
  induction steps generalizing writes with
  | nil =>
    cases resolved
    simp
  | cons step rest ih =>
    obtain ⟨mutation, later, first, tail, rfl⟩ := resolveSteps_cons resolved
    intro write member
    rcases List.mem_append.mp member with own | old
    · obtain ⟨made, same, rfl⟩ := Option.map_eq_some_iff.mp (Option.mem_toList.mp own)
      exact ⟨step, List.mem_cons_self, made, first.trans (congrArg Except.ok same), rfl⟩
    · obtain ⟨other, listed, found⟩ := ih later tail write old
      exact ⟨other, List.mem_cons_of_mem step listed, found⟩

/-- A step that raises is the end of the list, and nothing else is. -/
theorem resolveSteps_raises (before after : List FieldStep) (step : FieldStep) (exc : Exn)
    (earlier : ∀ other ∈ before, ∃ mutation, other.resolve handler ctx = .ok mutation)
    (raises : step.resolve handler ctx = .error exc) :
    handler.resolveSteps ctx (before ++ step :: after) = .error exc := by
  induction before with
  | nil => simp [resolveSteps, raises, bind, Except.bind]
  | cons other rest ih =>
    obtain ⟨mutation, resolved⟩ := earlier other List.mem_cons_self
    have tail := ih fun later member => earlier later (List.mem_cons_of_mem other member)
    simp [resolveSteps, resolved, tail, bind, Except.bind]

/-- If no step raises, neither does the list of them. By induction on the steps. -/
theorem resolveSteps_completes (steps : List FieldStep)
    (each : ∀ step ∈ steps, ∃ mutation, step.resolve handler ctx = .ok mutation) :
    ∃ writes, handler.resolveSteps ctx steps = .ok writes := by
  induction steps with
  | nil => exact ⟨[], rfl⟩
  | cons step rest ih =>
    obtain ⟨mutation, resolved⟩ := each step List.mem_cons_self
    obtain ⟨writes, tail⟩ := ih fun later member => each later (List.mem_cons_of_mem step member)
    cases mutation with
    | none => exact ⟨writes, by simp [resolveSteps, resolved, tail, bind, Except.bind]⟩
    | some mutation => exact ⟨_, by simp [resolveSteps, resolved, tail, bind, Except.bind]; rfl⟩

/-- The writes are those of the steps followed by the leftover tags. -/
theorem createWrites_parts {writes : List FieldWrite}
    (returned : handler.createWrites ctx = .ok writes) :
    ∃ resolved, handler.resolveSteps ctx createSteps = .ok resolved ∧
      writes = resolved ++ (leftoverTags ctx).entries.map (leftoverWrite handler) := by
  obtain ⟨resolved, steps, returned⟩ := bind_returned returned
  cases returned
  exact ⟨resolved, steps, rfl⟩

/-- A write of a create touches a fixed column or one that a tag names. The
writes fall into those of steps and those of leftover tags. -/
theorem createWrites_columns {writes : List FieldWrite}
    (returned : handler.createWrites ctx = .ok writes) {write : FieldWrite}
    (member : write ∈ writes) {column : String} (written : column ∈ write.mutation.keys) :
    column ∈ stepColumns ∨ ∃ key ∈ ctx.cmdbTags.keys, splitHead '.' key = column := by
  obtain ⟨resolved, steps, rfl⟩ := createWrites_parts returned
  rcases List.mem_append.mp member with ofStep | ofTag
  · obtain ⟨step, listed, mutation, made, rfl⟩ :=
      resolveSteps_writes createSteps resolved steps write ofStep
    exact Or.inl (columnsOf_fixed step listed column
      (resolve_columns step listed mutation made column written))
  · obtain ⟨entry, leftover, rfl⟩ := List.mem_map.mp ofTag
    obtain ⟨key, tag, head⟩ := (mem_keys_tags2cmdbField _ column).mp written
    rw [keys_single, List.mem_singleton] at tag
    have kept : entry.1 ∈ (leftoverTags ctx).keys := List.mem_map_of_mem leftover
    exact Or.inr ⟨key, tag ▸ ((Dict.mem_keys_filterKeys _ _ _).mp kept).1, head⟩

/-- A tag that no step consumes is written under its own column. -/
theorem createWrites_leftover {writes : List FieldWrite}
    (returned : handler.createWrites ctx = .ok writes) {key : String}
    (tag : key ∈ ctx.cmdbTags.keys)
    (leftover : splitHead '.' key ∉ createSteps.map FieldStep.name) :
    ∃ write ∈ writes, splitHead '.' key ∈ write.mutation.keys := by
  obtain ⟨resolved, _, rfl⟩ := createWrites_parts returned
  have kept : key ∈ (leftoverTags ctx).keys :=
    (Dict.mem_keys_filterKeys _ _ _).mpr ⟨tag, by simpa using leftover⟩
  obtain ⟨entry, stored, rfl⟩ := List.mem_map.mp kept
  refine ⟨leftoverWrite handler entry, List.mem_append_right _ (List.mem_map_of_mem stored), ?_⟩
  exact (mem_keys_tags2cmdbField _ _).mpr ⟨entry.1, List.mem_singleton.mpr rfl, rfl⟩

/-- The first write is that of the datacenter, so there is always something to write. -/
theorem createWrites_dc {writes : List FieldWrite}
    (returned : handler.createWrites ctx = .ok writes) :
    ∃ write ∈ writes, "dc" ∈ write.mutation.keys := by
  obtain ⟨resolved, steps, rfl⟩ := createWrites_parts returned
  obtain ⟨mutation, later, dc, _, rfl⟩ := resolveSteps_cons steps
  cases dc
  exact ⟨_, List.mem_cons_self, List.mem_singleton.mpr rfl⟩

/-! ## The flavor -/

/-- With its `id` column at hand the project of the cloud resolves. -/
def CloudRead (ctx : CreateContext) : Prop :=
  ∀ row, ctx.resourceCloud = some row → row.id ≠ none

/-- The step of the cloud project does not raise when the row it was given has
an id. -/
theorem resolveCloudProject_completes (cloud : CloudRead ctx) :
    ∃ mutation, resolveCloudProject ctx = .ok mutation := by
  rw [resolveCloudProject]
  cases found : ctx.resourceCloud with
  | none => exact ⟨_, rfl⟩
  | some row =>
    cases read : row.id with
    | none => exact absurd read (cloud row found)
    | some id => exact ⟨some (single "cloud_resource_project_id" id), by simp only [read]⟩

/-- The step of the owner never raises: every rung of its ladder resolves to a
mutation. -/
theorem resolveOwner_completes : ∃ mutation, handler.resolveOwner ctx = .ok mutation := by
  rw [resolveOwner]
  split
  · exact ⟨_, rfl⟩
  · split <;> exact ⟨_, rfl⟩

/-- Nor does the step of the responsible person. -/
theorem resolveResponsible_completes :
    ∃ mutation, handler.resolveResponsible ctx = .ok mutation := by
  rw [resolveResponsible]
  split
  · exact ⟨_, rfl⟩
  · split
    · exact ⟨_, rfl⟩
    · split
      · split <;> exact ⟨_, rfl⟩
      · exact ⟨_, rfl⟩

/-- Nor does the step of the payment. -/
theorem resolvePayment_completes : ∃ mutation, resolvePayment ctx = .ok mutation := by
  rw [resolvePayment]
  split
  · exact ⟨_, rfl⟩
  · split <;> exact ⟨_, rfl⟩

/-- Nor does the step of the cost center. -/
theorem resolveCostCenter_completes :
    ∃ mutation, handler.resolveCostCenter ctx = .ok mutation := by
  rw [resolveCostCenter]
  split
  · exact ⟨_, rfl⟩
  · split
    · exact ⟨_, rfl⟩
    · split
      · split <;> exact ⟨_, rfl⟩
      · exact ⟨_, rfl⟩

/-- Of all the steps only the flavor reads what a message may lack. -/
theorem createWrites_completes (cloud : CloudRead ctx) {name : Option String}
    (read : flavorName ctx.instanceData = .ok name) :
    ∃ writes, handler.createWrites ctx = .ok writes := by
  have flavor : ∃ mutation, resolveFlavor ctx = .ok mutation := by
    rw [resolveFlavor, read]
    exact ⟨_, rfl⟩
  have each : ∀ step ∈ createSteps, ∃ mutation, step.resolve handler ctx = .ok mutation := by
    simp only [createSteps, List.forall_mem_cons, List.not_mem_nil, false_implies, implies_true,
      and_true]
    exact ⟨⟨_, rfl⟩, resolveCloudProject_completes cloud, ⟨_, rfl⟩, resolveOwner_completes,
      resolveResponsible_completes, flavor, resolvePayment_completes, resolveCostCenter_completes⟩
  obtain ⟨resolved, steps⟩ := resolveSteps_completes createSteps each
  exact ⟨_, by rw [createWrites, steps]; rfl⟩

/-- If the flavor's name cannot be read, the list of writes raises that same
exception. The steps before the flavor all complete, so nothing else is raised
first. -/
theorem createWrites_raises (cloud : CloudRead ctx) {exc : Exn}
    (read : flavorName ctx.instanceData = .error exc) :
    handler.createWrites ctx = .error exc := by
  have flavor : resolveFlavor ctx = .error exc := by
    rw [resolveFlavor, read]
    rfl
  have earlier : ∀ step ∈ createSteps.take 5, ∃ mutation,
      step.resolve handler ctx = .ok mutation := by
    simp only [createSteps, List.take, List.forall_mem_cons, List.not_mem_nil, false_implies,
      implies_true, and_true]
    exact ⟨⟨_, rfl⟩, resolveCloudProject_completes cloud, ⟨_, rfl⟩, resolveOwner_completes,
      resolveResponsible_completes⟩
  have steps : handler.resolveSteps ctx createSteps = .error exc :=
    resolveSteps_raises (createSteps.take 5) (createSteps.drop 6) _ exc earlier flavor
  rw [createWrites, steps]
  rfl

/-! ## The batch -/

/-- A column of the merged writes comes from the mutation merged into or from
one of the writes. By induction on the writes, with the batch so far
generalised. -/
theorem mem_keys_foldl_merge (writes : List FieldWrite) (batch : Mutation) (column : String) :
    column ∈ (writes.foldl (fun batch write => batch.merge write.mutation) batch).keys ↔
      column ∈ batch.keys ∨ ∃ write ∈ writes, column ∈ write.mutation.keys := by
  induction writes generalizing batch with
  | nil => simp
  | cons write rest ih =>
    rw [List.foldl_cons, ih, Dict.mem_keys_merge]
    simp only [List.mem_cons, exists_eq_or_imp, or_assoc]

/-- The batch writes the columns of its parts, and no others. -/
theorem mem_keys_mergeWrites (writes : List FieldWrite) (column : String) :
    column ∈ (mergeWrites writes).keys ↔ ∃ write ∈ writes, column ∈ write.mutation.keys := by
  rw [mergeWrites, mem_keys_foldl_merge]
  simp [Dict.keys, Dict.empty]

/-- A column that all writes naming it write alike. The later writes win in a
merge, which makes no difference here. By induction on the writes. -/
theorem get?_foldl_merge (writes : List FieldWrite) (batch : Mutation) {column : String}
    {value : Value}
    (alike : ∀ write ∈ writes, column ∈ write.mutation.keys →
      write.mutation.get? column = some value)
    (named : batch.get? column = some value ∨ ∃ write ∈ writes, column ∈ write.mutation.keys) :
    (writes.foldl (fun batch write => batch.merge write.mutation) batch).get? column =
      some value := by
  induction writes generalizing batch with
  | nil =>
    rcases named with known | ⟨write, member, -⟩
    · exact known
    · cases member
  | cons write rest ih =>
    refine ih _ (fun other member => alike other (List.mem_cons_of_mem write member)) ?_
    rw [Dict.get?_merge]
    by_cases own : column ∈ write.mutation.keys
    · exact Or.inl (by rw [alike write List.mem_cons_self own, Option.some_or])
    · have missing : write.mutation.get? column = none := by
        rw [Dict.mem_keys_iff] at own
        simpa using own
      rw [missing, Option.none_or]
      rcases named with known | ⟨other, member, written⟩
      · exact Or.inl known
      · rcases List.mem_cons.mp member with rfl | later
        · exact absurd written own
        · exact Or.inr ⟨other, later, written⟩

/-- Every step that resolves to a mutation is written. By induction on the steps
that come before it. -/
theorem mem_resolveSteps {steps : List FieldStep} {writes : List FieldWrite}
    (resolved : handler.resolveSteps ctx steps = .ok writes) {step : FieldStep}
    (listed : step ∈ steps) {mutation : Mutation}
    (made : step.resolve handler ctx = .ok (some mutation)) : step.write mutation ∈ writes := by
  induction steps generalizing writes with
  | nil => cases listed
  | cons first rest ih =>
    obtain ⟨written, later, head, tail, rfl⟩ := resolveSteps_cons resolved
    rcases List.mem_cons.mp listed with rfl | other
    · cases made.symm.trans head
      exact List.mem_append_left _ List.mem_cons_self
    · exact List.mem_append_right _ (ih tail other)

/-- No two steps write one column. The table of steps is closed, so this is
decided. -/
theorem columnsOf_own {left right : FieldStep} (listed : left ∈ createSteps)
    (also : right ∈ createSteps) {column : String} (own : column ∈ columnsOf left.name)
    (other : column ∈ columnsOf right.name) : left = right := by
  have disjoint : ∀ name ∈ createSteps.map FieldStep.name, ∀ again ∈ createSteps.map FieldStep.name,
      ∀ shared ∈ columnsOf name, shared ∈ columnsOf again → name = again := by decide
  have nodup : (createSteps.map FieldStep.name).Nodup := by decide
  have named := disjoint left.name (List.mem_map_of_mem listed) right.name
    (List.mem_map_of_mem also) column own other
  exact List.inj_on_of_nodup_map nodup listed also named

/-- A column of a step is written by that step alone, unless a leftover tag names it. -/
theorem createWrites_own {writes : List FieldWrite} (returned : handler.createWrites ctx = .ok writes)
    {step : FieldStep} (listed : step ∈ createSteps) {mutation : Mutation}
    (made : step.resolve handler ctx = .ok (some mutation)) {column : String}
    (own : column ∈ columnsOf step.name)
    (untagged : ∀ key ∈ (leftoverTags ctx).keys, splitHead '.' key ≠ column)
    {write : FieldWrite} (member : write ∈ writes) (names : column ∈ write.mutation.keys) :
    write.mutation = mutation := by
  obtain ⟨resolved, steps, rfl⟩ := createWrites_parts returned
  rcases List.mem_append.mp member with ofStep | ofTag
  · obtain ⟨other, also, again, resolves, rfl⟩ :=
      resolveSteps_writes createSteps resolved steps write ofStep
    have same := columnsOf_own listed also own
      (resolve_columns other also again resolves column names)
    subst same
    rw [made] at resolves
    cases resolves
    rfl
  · obtain ⟨entry, leftover, rfl⟩ := List.mem_map.mp ofTag
    obtain ⟨key, tag, head⟩ := (mem_keys_tags2cmdbField _ column).mp names
    rw [keys_single, List.mem_singleton] at tag
    exact absurd head (tag ▸ untagged entry.1 (List.mem_map_of_mem leftover))

/-- Such a column holds in the batch what the step wrote, when no leftover tag
goes to the column as well. -/
theorem batch_column {writes : List FieldWrite} (returned : handler.createWrites ctx = .ok writes)
    {step : FieldStep} (listed : step ∈ createSteps) {mutation : Mutation}
    (made : step.resolve handler ctx = .ok (some mutation)) {column : String}
    (own : column ∈ columnsOf step.name)
    (untagged : ∀ key ∈ (leftoverTags ctx).keys, splitHead '.' key ≠ column) :
    (mergeWrites writes).get? column = mutation.get? column := by
  have alone : ∀ write ∈ writes, column ∈ write.mutation.keys → write.mutation = mutation :=
    fun write member names => createWrites_own returned listed made own untagged member names
  cases reads : mutation.get? column with
  | some value =>
    obtain ⟨resolved, steps, rfl⟩ := createWrites_parts returned
    have written : column ∈ mutation.keys := by
      rw [Dict.mem_keys_iff, reads]
      rfl
    apply get?_foldl_merge
    · intro write member names
      rw [alone write member names, reads]
    · exact Or.inr ⟨step.write mutation,
        List.mem_append_left _ (mem_resolveSteps steps listed made), written⟩
  | none =>
    cases batched : (mergeWrites writes).get? column with
    | none => rfl
    | some value =>
      have named : column ∈ (mergeWrites writes).keys := by
        rw [Dict.mem_keys_iff, batched]
        rfl
      obtain ⟨write, member, names⟩ := (mem_keys_mergeWrites writes column).mp named
      rw [alone write member names, Dict.mem_keys_iff, reads] at names
      cases names

/-- The batch of a create is never empty, for the datacenter is always among the
writes. -/
theorem mergeWrites_nonempty {writes : List FieldWrite}
    (returned : handler.createWrites ctx = .ok writes) :
    (mergeWrites writes).entries.isEmpty = false := by
  have written : "dc" ∈ (mergeWrites writes).keys :=
    (mem_keys_mergeWrites writes "dc").mpr (createWrites_dc returned)
  cases empty : (mergeWrites writes).entries with
  | nil => simp [Dict.keys, empty] at written
  | cons entry rest => rfl

end Fields

end InstanceLifecycle
