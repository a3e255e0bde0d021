import InstanceLifecycle.Create.CardRecovery
import InstanceLifecycle.Create.Fields

/-!
# Which tags the steps consume

A step takes the tags that are its name or dotted forms of it, and the rest is written tag by
tag. Both tests come down to the head of the key, because no name of a step has a dot in it.
-/

namespace InstanceLifecycle

open Interaction Store InstanceHandler

section Claims

variable {handler : InstanceHandler} {ctx : CreateContext} {tag : String × Value}

/-- No step's name has a dot in it, so the head of a tag can be a name in full. -/
theorem stepNames_plain : ∀ name ∈ createSteps.map FieldStep.name, '.' ∉ name.toList := by
  decide

/-- The steps of the batch have distinct names, so a tag is claimed by one of
them at most. -/
theorem stepNames_distinct : (createSteps.map FieldStep.name).Nodup := by
  decide

/-- A step takes the tags whose head is its name, either the name itself or the
name followed by a dot. It needs that the name has no dot of its own. -/
theorem mem_tagFields {name : String} (plain : '.' ∉ name.toList) :
    tag ∈ (tagFields ctx name).entries ↔
      tag ∈ ctx.cmdbTags.entries ∧ splitHead '.' tag.1 = name := by
  rw [tagFields, Dict.filterKeys, List.mem_filter]
  apply and_congr_right
  intro _
  rw [Bool.or_eq_true, decide_eq_true_eq]
  constructor
  · rintro (same | dotted)
    · rw [same]
      exact splitHead_plain '.' name plain
    · exact splitHead_dotted name tag.1 plain dotted
  · exact splitHead_cases name tag.1

/-- A tag is left over exactly if its head is the name of no step. -/
theorem mem_leftoverTags :
    tag ∈ (leftoverTags ctx).entries ↔
      tag ∈ ctx.cmdbTags.entries ∧ splitHead '.' tag.1 ∉ createSteps.map FieldStep.name := by
  simp [leftoverTags, Dict.filterKeys]

/-- The tag belongs to this step. -/
def ClaimedBy (ctx : CreateContext) (tag : String × Value) (step : FieldStep) : Prop :=
  step ∈ createSteps ∧ tag ∈ (tagFields ctx step.name).entries

/-- A step claims a tag exactly if it is a step of the batch whose name is the
head of the tag. -/
theorem claimedBy_iff (member : tag ∈ ctx.cmdbTags.entries) {step : FieldStep} :
    ClaimedBy ctx tag step ↔ step ∈ createSteps ∧ splitHead '.' tag.1 = step.name := by
  apply and_congr_right
  intro listed
  rw [mem_tagFields (stepNames_plain _ (List.mem_map_of_mem listed))]
  exact and_iff_right member

/-- Either no step claims the tag and it is left over, or one does and it is not. -/
theorem claimed_once (member : tag ∈ ctx.cmdbTags.entries) :
    (tag ∈ (leftoverTags ctx).entries ∧ ∀ step, ¬ ClaimedBy ctx tag step) ∨
      (tag ∉ (leftoverTags ctx).entries ∧ ∃! step, ClaimedBy ctx tag step) := by
  by_cases handled : splitHead '.' tag.1 ∈ createSteps.map FieldStep.name
  · refine Or.inr ⟨fun leftover => (mem_leftoverTags.mp leftover).2 handled, ?_⟩
    obtain ⟨step, listed, named⟩ := List.mem_map.mp handled
    refine ⟨step, (claimedBy_iff member).mpr ⟨listed, named.symm⟩, ?_⟩
    intro other claims
    obtain ⟨present, same⟩ := (claimedBy_iff member).mp claims
    exact List.inj_on_of_nodup_map stepNames_distinct present listed (same.symm.trans named.symm)
  · refine Or.inl ⟨mem_leftoverTags.mpr ⟨member, handled⟩, ?_⟩
    intro step claims
    obtain ⟨listed, named⟩ := (claimedBy_iff member).mp claims
    exact handled (List.mem_map.mpr ⟨step, listed, named.symm⟩)

/-! ## The writes of the leftover tags -/

/-- The write of a left over tag has one column, the head of the tag. -/
theorem leftoverWrite_keys (handler : InstanceHandler) (tag : String × Value) :
    (leftoverWrite handler tag).mutation.keys = [splitHead '.' tag.1] := by
  have column : (handler.tagMutation tag.1 tag.2).1 = splitHead '.' tag.1 :=
    tagMutation_column tag.1 tag.2
  rw [← column]
  rfl

/-- The writes of the steps are named like steps. -/
theorem resolveSteps_named {steps : List FieldStep} {writes : List FieldWrite}
    (resolved : handler.resolveSteps ctx steps = .ok writes) :
    ∀ write ∈ writes, write.field ∈ steps.map FieldStep.name := by
  intro write member
  obtain ⟨step, listed, mutation, -, rfl⟩ := resolveSteps_writes steps writes resolved write member
  exact List.mem_map_of_mem listed

/-- A leftover tag has one write: no step is named like it, and no other tag either. -/
theorem leftover_written {writes : List FieldWrite}
    (returned : handler.createWrites ctx = .ok writes)
    (leftover : tag ∈ (leftoverTags ctx).entries) :
    writes.filter (fun write => write.field = tag.1) = [leftoverWrite handler tag] := by
  obtain ⟨resolved, steps, rfl⟩ := createWrites_parts returned
  have unnamed : tag.1 ∉ createSteps.map FieldStep.name := by
    intro named
    have head := splitHead_plain '.' tag.1 (stepNames_plain _ named)
    exact (mem_leftoverTags.mp leftover).2 (head.symm ▸ named)
  have ofSteps : resolved.filter (fun write => write.field = tag.1) = [] := by
    rw [List.filter_eq_nil_iff]
    intro write member same
    rw [decide_eq_true_eq] at same
    exact unnamed (same ▸ resolveSteps_named steps write member)
  have ofTags : ((leftoverTags ctx).entries.map (leftoverWrite handler)).filter
      (fun write => write.field = tag.1) = [leftoverWrite handler tag] := by
    rw [List.filter_map]
    exact congrArg (List.map (leftoverWrite handler)) ((leftoverTags ctx).filter_key leftover)
  rw [List.filter_append, ofSteps, ofTags, List.nil_append]

end Claims

/-- Every tag is claimed by one step or left over, and in a create that returns its writes a
leftover tag has one write, of one column that no step is named like. -/
theorem tags_claimed_once (handler : InstanceHandler) (ctx : CreateContext) :
    (∀ tag ∈ ctx.cmdbTags.entries,
      (tag ∈ (leftoverTags ctx).entries ∧ ∀ step, ¬ ClaimedBy ctx tag step) ∨
        (tag ∉ (leftoverTags ctx).entries ∧ ∃! step, ClaimedBy ctx tag step)) ∧
      ∀ writes, handler.createWrites ctx = .ok writes → ∀ tag ∈ (leftoverTags ctx).entries,
        ∃ write, writes.filter (fun write => write.field = tag.1) = [write] ∧
          write.mutation = handler.tags2cmdbField (single tag.1 tag.2) ∧
          write.mutation.keys = [splitHead '.' tag.1] ∧
          splitHead '.' tag.1 ∉ createSteps.map FieldStep.name := by
  refine ⟨fun tag member => claimed_once member, ?_⟩
  intro writes returned tag leftover
  exact ⟨leftoverWrite handler tag, leftover_written returned leftover, rfl,
    leftoverWrite_keys handler tag, (mem_leftoverTags.mp leftover).2⟩

/-- Forms of the name of a step, a longer name, and a key with empty parts. -/
def dottedContext : CreateContext :=
  { sampleContext [] with
    instanceData := { flavor := .value ⟨.value "small"⟩ }
    cmdbTags := Dict.ofList [("owner", .str "ann"), ("owner.name.first", .str "ann"),
      ("owner_id", .int 1), ("..", .str "x"), ("role.name", .str "db")] }

example : (tagFields dottedContext "owner").keys = ["owner", "owner.name.first"] ∧
    (leftoverTags dottedContext).keys = ["owner_id", "..", "role.name"] := by
  decide +kernel

/-- The longer name is not the step's: its one write is of its own column. -/
theorem tags_claimed_once_dotted :
    ∃ writes write, AsciiRuntime.handler.createWrites dottedContext = .ok writes ∧
      writes.filter (fun write => write.field = "owner_id") = [write] ∧
      write.mutation.keys = ["owner_id"] := by
  have leftover : ("owner_id", Value.int 1) ∈ (leftoverTags dottedContext).entries :=
    List.mem_cons_self
  obtain ⟨write, once, -, keys, -⟩ :=
    (tags_claimed_once AsciiRuntime.handler dottedContext).2 _ rfl _ leftover
  exact ⟨_, write, rfl, once, keys⟩

end InstanceLifecycle
