import InstanceLifecycle.Concurrency.Marks
import InstanceLifecycle.Create.Replay
import InstanceLifecycle.Service.Redelivered

/-!
# What a resize writes

A resize writes up to two columns of its host, each with an update of its own. Together they are
one update, and an update that is contained in another one may be made before it. So a resize may
break off between its two updates and start over.
-/

namespace InstanceLifecycle

open Interaction Store InstanceHandler

/-! ## Updates of the same rows -/

namespace Cmdb

variable (db : Cmdb) (keys : List ServerKey) {mutation : Mutation}

/-- An update of no column. -/
theorem updateServers_empty : db.updateServers keys .empty = db := by
  refine eq_of_tables ?_ rfl rfl rfl rfl
  exact db.servers.rewrite_same _ _ Columns.write_empty

/-- Two updates of the same rows are one of all their columns, the later values
winning. The first writes no key, so the second selects the same rows. -/
theorem updateServers_merge (keeps : KeepsKeys mutation) (later : Mutation) :
    (db.updateServers keys mutation).updateServers keys later =
      db.updateServers keys (mutation.merge later) := by
  refine eq_of_tables (Table.eq_of_rows ?_ rfl) rfl rfl rfl rfl
  simp only [updateServers, Table.rewrite, List.map_map]
  apply List.map_congr_left
  intro server _
  simp only [Function.comp]
  have same : ServerKey.holds ⟨server.id, server.data.write mutation⟩ = ServerKey.holds server :=
    funext fun key => key.holds_write server keeps
  by_cases chosen : keys.all (ServerKey.holds server) = true
  · simp only [chosen, same, if_true, Columns.write_merge]
  · simp only [chosen, Bool.false_eq_true, if_false]

/-- Two mutations that write the same columns to every row give the same store. -/
theorem updateServers_congr {mutation other : Mutation}
    (same : ∀ columns : Columns, columns.write mutation = columns.write other) :
    db.updateServers keys mutation = db.updateServers keys other := by
  have written : (fun columns : Columns => columns.write mutation) =
      fun columns => columns.write other := funext same
  refine eq_of_tables ?_ rfl rfl rfl rfl
  exact congrArg (db.servers.rewrite _) written

/-- An update is covered by a later one that writes all of its columns again, as
if it had not been made. -/
theorem updateServers_covered (keeps : KeepsKeys mutation) {later : Mutation}
    (covered : ∀ column ∈ mutation.keys, column ∈ later.keys) :
    (db.updateServers keys mutation).updateServers keys later = db.updateServers keys later := by
  rw [updateServers_merge db keys keeps]
  apply updateServers_congr
  intro columns
  funext column
  simp only [Columns.write, Dict.get?_merge]
  by_cases named : column ∈ later.keys
  · obtain ⟨value, written⟩ := Option.isSome_iff_exists.mp ((later.mem_keys_iff column).mp named)
    simp [written]
  · have absent : column ∉ mutation.keys := fun member => named (covered column member)
    rw [Dict.mem_keys_iff, Bool.not_eq_true, Option.isSome_eq_false_iff,
      Option.isNone_iff_eq_none] at named absent
    simp [named, absent]

end Cmdb

/-! ## A resize message -/

/-- What a resize writes for the price: the monthly payment, or nothing when the
message has none. -/
def resizePayment : Option Value → Mutation
  | none => .empty
  | some price => single "server_monthly_payment" price

/-- What a resize writes for the flavor: its name and the region, or nothing
when the message names no flavor. -/
def resizedFlavor (message : Message) : Mutation :=
  match resizeFlavor message with
  | none => .empty
  | some flavorName => single "flavor" (.dict [("name", .str flavorName),
      ("region_code", Value.ofOption message.regionId.get)])

/-- The second part of a resize. -/
def InstanceHandler.updateFlavor (handler : InstanceHandler) (message : Message)
    (uuid : Option String) : Run Unit :=
  match resizeFlavor message with
  | none => pure ()
  | some flavorName => do
      let _ ← handler.updateServer (single "flavor" (.dict [("name", .str flavorName),
          ("region_code", Value.ofOption message.regionId.get)])) [.uuid uuid]
        { field := "flavor", raiseOnDataError := true }
      pure ()

/-- The uuid of the host and the columns it gets; nothing without an instance resource. -/
def InstanceHandler.readResize (handler : InstanceHandler) (message : Message) :
    Except Exn (Option (Option String × Mutation)) := do
  match ← handler.extractResource message "instance" with
  | none => .ok none
  | some resource => do
      let _ ← resource.searchFieldItem
      let instanceId ← resource.resourceId.item "resource_id"
      let price ← resizePrice message
      .ok (some (instanceId, (resizePayment price).merge (resizedFlavor message)))

/-- The store that a resize message leaves, processed once and alone. -/
def InstanceHandler.resizeBy (handler : InstanceHandler) (message : Message) (db : Cmdb) : Cmdb :=
  match handler.readResize message with
  | .ok (some (uuid, columns)) => db.updateServers [.uuid uuid] columns
  | _ => db

/-- A single mutation writes one column. -/
theorem mem_keys_single {column tested : String} {value : Value} :
    tested ∈ (single column value).keys ↔ tested = column := by
  rw [single, Dict.mem_keys_ofList]
  exact List.mem_singleton

/-- The price writes neither the host name nor the uuid. -/
theorem resizePayment_keepsKeys (price : Option Value) : KeepsKeys (resizePayment price) := by
  cases price with
  | none => exact ⟨List.not_mem_nil, List.not_mem_nil⟩
  | some price => simp [KeepsKeys, resizePayment, mem_keys_single]

/-- The flavor writes neither the host name nor the uuid. -/
theorem resizedFlavor_keepsKeys (message : Message) : KeepsKeys (resizedFlavor message) := by
  rw [resizedFlavor]
  cases resizeFlavor message with
  | none => exact ⟨List.not_mem_nil, List.not_mem_nil⟩
  | some flavorName => simp [KeepsKeys, mem_keys_single]

section Run

variable {handler : InstanceHandler} {keys : List ServerKey} {batch : Mutation} {target : Cmdb}
  {state : FieldErrors} {world : World}

/-- One of the updates that make up the batch, and what is left of the batch after it. -/
theorem updateServer_onward {mutation : Mutation} (rest : Mutation) {options : CallOptions}
    (keeps : KeepsKeys mutation) (covered : ∀ column ∈ mutation.keys, column ∈ batch.keys)
    (leads : world.db.updateServers keys batch = target)
    (onward : (world.db.updateServers keys mutation).updateServers keys rest = target) :
    (handler.updateServer mutation keys options).Ensures (faulty transportFaults)
      (fun after => after.db.updateServers keys batch = target)
      (fun result _ after => after.db.updateServers keys batch = target ∧
        ∀ value, result = .ok value → after.db.updateServers keys rest = target) state world := by
  have again : ∀ db : Cmdb, (db.updateServers keys mutation).updateServers keys mutation =
      db.updateServers keys mutation :=
    fun db => db.updateServers_covered keys keeps fun _ member => member
  refine transportCall_ensures (fun after => after.db.updateServers keys batch = target ∧
      (after.db.updateServers keys mutation).updateServers keys rest = target) (fun _ => rfl)
    (fun _ permitted => permitted) ⟨leads, onward⟩ ?_ ?_ ?_
  · rintro current outcome ⟨leads, onward⟩
    have took : (current.db.updateServers keys mutation).updateServers keys batch = target :=
      (current.db.updateServers_covered keys keeps covered).trans leads
    have kept := @Cmdb.answer_keeps (fun db => db.updateServers keys batch = target ∧
        (db.updateServers keys mutation).updateServers keys rest = target) current.db
      (.serverUpdate keys mutation) ⟨leads, onward⟩ ⟨took, (again current.db).symm ▸ onward⟩ outcome
    exact ⟨kept.1, kept⟩
  · rintro current ⟨leads, onward⟩
    have took : (current.db.updateServers keys mutation).updateServers keys batch = target :=
      (current.db.updateServers_covered keys keeps covered).trans leads
    exact ⟨took, fun _ _ => onward⟩
  · exact fun after exc held => ⟨held.1, error_not_ok⟩

/-- The update of the flavor is the last one of a resize, and leads to the
target whether it is made once or repeated. Broken off, it leaves a store from
which the whole still does. -/
theorem updateFlavor_onward {message : Message} {uuid : Option String}
    (covered : ∀ column ∈ (resizedFlavor message).keys, column ∈ batch.keys)
    (leads : world.db.updateServers [.uuid uuid] batch = target)
    (onward : world.db.updateServers [.uuid uuid] (resizedFlavor message) = target) :
    (handler.updateFlavor message uuid).Ensures (faulty transportFaults)
      (fun after => after.db.updateServers [.uuid uuid] batch = target)
      (fun result _ after => after.db.updateServers [.uuid uuid] batch = target ∧
        ∀ value, result = .ok value → after.db = target) state world := by
  have keeps := resizedFlavor_keepsKeys message
  rw [resizedFlavor] at covered onward keeps
  rw [updateFlavor]
  cases flavor : resizeFlavor message with
  | none =>
    simp only [flavor, Cmdb.updateServers_empty] at onward
    exact ⟨leads, fun _ _ => onward⟩
  | some flavorName =>
    simp only [flavor] at covered onward keeps
    refine (updateServer_onward .empty keeps covered leads ?_).bind ?_
      fun _ _ _ held => ⟨held.1, error_not_ok⟩
    · rw [Cmdb.updateServers_empty]
      exact onward
    · rintro value middle after ⟨leads, done⟩
      have reached := done value rfl
      rw [Cmdb.updateServers_empty] at reached
      exact ⟨leads, fun _ _ => reached⟩

/-- A resize goes on from wherever another one broke off: each of its two
updates writes columns of the whole, so the whole made again leads to the same
store. -/
theorem resizeInstances_resumes (handler : InstanceHandler) (message : Message) :
    Resumes (handler.resizeBy message) (handler.resizeInstances message) := by
  intro target state world leads
  have refused : ∀ {result : Except Exn Unit}, (∀ db, handler.resizeBy message db = db) →
      handler.resizeBy message world.db = target ∧
        ∀ value, result = .ok value → world.db = target :=
    fun idle => ⟨leads, fun _ _ => (idle world.db).symm.trans leads⟩
  have failed : ∀ exc : Exn, handler.resizeBy message world.db = target ∧
      ∀ value, (.error exc : Except Exn Unit) = .ok value → world.db = target :=
    fun exc => ⟨leads, error_not_ok⟩
  rw [resizeInstances, Action.ensures_bind, Action.ensures_lift]
  cases found : handler.extractResource message "instance" with
  | error exc => exact failed exc
  | ok resource =>
    cases resource with
    | none =>
      refine refused fun db => ?_
      rw [resizeBy, readResize, found]
      rfl
    | some resource =>
      simp only
      rw [Action.ensures_bind, Action.ensures_lift]
      cases search : resource.searchFieldItem with
      | error exc => exact failed exc
      | ok text =>
        simp only
        rw [Action.ensures_bind, Action.ensures_lift]
        cases item : resource.resourceId.item "resource_id" with
        | error exc => exact failed exc
        | ok uuid =>
          simp only
          rw [Action.ensures_bind, Action.ensures_lift]
          cases priced : resizePrice message with
          | error exc => exact failed exc
          | ok price =>
            have writes : handler.resizeBy message = fun db => db.updateServers [.uuid uuid]
                ((resizePayment price).merge (resizedFlavor message)) := by
              funext db
              rw [resizeBy, readResize, found]
              simp only [bind, Except.bind, search, item, priced]
            simp only [writes] at leads ⊢
            have onward := leads
            rw [← Cmdb.updateServers_merge _ _ (resizePayment_keepsKeys price)] at onward
            have flavor : ∀ column ∈ (resizedFlavor message).keys,
                column ∈ ((resizePayment price).merge (resizedFlavor message)).keys :=
              fun column member => (Dict.mem_keys_merge _ _ _).mpr (Or.inr member)
            have payment : ∀ column ∈ (resizePayment price).keys,
                column ∈ ((resizePayment price).merge (resizedFlavor message)).keys :=
              fun column member => (Dict.mem_keys_merge _ _ _).mpr (Or.inl member)
            cases price with
            | none =>
              rw [resizePayment, Cmdb.updateServers_empty] at onward
              exact updateFlavor_onward flavor leads onward
            | some price =>
              simp only
              rw [Action.ensures_bind]
              -- The price is written; the flavor is what is left.
              refine (updateServer_onward (resizedFlavor message)
                (resizePayment_keepsKeys (some price)) payment leads onward).mono ?_
              rintro result middle after ⟨leads, done⟩
              cases result with
              | error exc => exact ⟨leads, error_not_ok⟩
              | ok value => exact updateFlavor_onward flavor leads (done value rfl)

end Run

end InstanceLifecycle
