import InstanceLifecycle.Create.CardRecovery
import InstanceLifecycle.Create.Fields

/-!
# The batch and its replay

The fields of a create go into one update. Rejected for good, it is replayed write by write.
On a row where an update either overwrites the columns it names or is rejected, whichever by
its mutation, both ways agree: the merge of all writes is their composition, and of a replay
there remain the accepted writes and one entry for each rejected one.
-/

namespace InstanceLifecycle

open Interaction Store InstanceHandler

/-! ## Writes of a row -/

/-- Two writes are the write of their merge, in which the second wins. -/
theorem Columns.write_merge (columns : Columns) (first second : Mutation) :
    (columns.write first).write second = columns.write (first.merge second) := by
  funext column
  simp only [Columns.write, Dict.get?_merge]
  cases second.get? column with
  | none => rfl
  | some value => rfl

/-- Writing nothing changes nothing. -/
theorem Columns.write_empty (columns : Columns) : columns.write .empty = columns := rfl

/-- The writes one at a time, in their order. -/
def Columns.writeAll (columns : Columns) (writes : List FieldWrite) : Columns :=
  writes.foldl (fun current write => current.write write.mutation) columns

/-- By induction on the writes, whatever the batch holds before them. -/
theorem writeAll_foldl (columns : Columns) (batch : Mutation) (writes : List FieldWrite) :
    columns.write (writes.foldl (fun batch write => batch.merge write.mutation) batch) =
      (columns.write batch).writeAll writes := by
  induction writes generalizing batch with
  | nil => rfl
  | cons write rest ih =>
    rw [List.foldl_cons, ih, ← Columns.write_merge]
    rfl

/-- The merged batch writes what its writes do one after the other. -/
theorem write_mergeWrites (columns : Columns) (writes : List FieldWrite) :
    columns.write (mergeWrites writes) = columns.writeAll writes := by
  rw [mergeWrites, writeAll_foldl, Columns.write_empty]

/-! ## Updates of the matched row -/

section Updates

variable {W : Type} {env : Env service W} {ctx : CreateContext} {row : W → Columns}
  {accepts : Mutation → Bool} {handler : InstanceHandler}

/-- The row after an update: overwritten if the mutation is accepted. -/
def decidedRow (accepts : Mutation → Bool) (columns : Columns) (mutation : Mutation) : Columns :=
  if accepts mutation then columns.write mutation else columns

/-- The reply to an update: the row, or a failure that is not one of transport. -/
def DecidedReply (accepts : Mutation → Bool) (mutation : Mutation) :
    Except CallError (List Nat) → Prop
  | .ok _ => accepts mutation = true
  | .error error => accepts mutation = false ∧ error.isTransport = false

/-- Every update of the create reaches the row and is decided by its mutation. -/
def UpdatesRow (env : Env service W) (ctx : CreateContext) (row : W → Columns)
    (accepts : Mutation → Bool) : Prop :=
  ∀ mutation before reply after,
    env (.cmdb (.serverUpdate (createWhere ctx) mutation)) before reply after →
      DecidedReply accepts mutation reply ∧
        row after = decidedRow accepts (row before) mutation

/-- What is known of an entry without its message. -/
def ErrorEntry.attribution (entry : ErrorEntry) : String × Bool × Bool :=
  (entry.field, entry.markStateError, entry.includeInStatusDetails)

/-- What an entry about this write would say of it. -/
def FieldWrite.attribution (write : FieldWrite) : String × Bool × Bool :=
  (write.field, write.markStateError, write.includeInStatusDetails)

/-- How an update of the row ends: silently if it is accepted, otherwise with
one recorded failure. -/
def updateExit (handler : InstanceHandler) (accepts : Mutation → Bool) (mutation : Mutation)
    (options : CallOptions) (state : FieldErrors) (result : Except Exn (Option (List Nat)))
    (final : FieldErrors) : Prop :=
  if accepts mutation then final = state ∧ ∃ ids, result = .ok (some ids)
  else result = .ok none ∧ ∃ exc, final = handler.recorded options exc state

/-- An update whose row decides by its mutation alone ends by that decision, and
leaves the row written or as it was. -/
theorem updateServer_decided (updates : UpdatesRow env ctx row accepts) {mutation : Mutation}
    {options : CallOptions} (swallows : options.raiseOnDataError = false) {state : FieldErrors}
    {world : W} :
    (handler.updateServer mutation (createWhere ctx) options).Ensures env (fun _ => True)
      (fun result final after =>
        updateExit handler accepts mutation { options with
            operation := handler.serverUpdateName
            subject := some (Mutation.subject mutation) } state result final ∧
          row after = decidedRow accepts (row world) mutation) state world := by
  apply cmdbCall_ensures (fun current => current = world) (fun _ => False) rfl
  · rintro current rfl
    rw [cmdb, Action.ensures_request]
    intro reply after step
    obtain ⟨decided, written⟩ := updates mutation current reply after step
    refine ⟨trivial, rfl, ?_⟩
    cases reply with
    | ok ids =>
      have accepted : accepts mutation = true := decided
      simp only [Except.mapError, updateExit, accepted, if_true]
      exact ⟨⟨trivial, ids, rfl⟩, written⟩
    | error error =>
      obtain ⟨rejected, permanent⟩ := decided
      have kind : classify error.toExn ≠ .transport := by
        rw [Ne, classify_toExn, permanent]
        exact Bool.false_ne_true
      simp only [Except.mapError, failureExit, toExn_foreign, updateExit, rejected, swallows,
        Bool.false_eq_true, if_false]
      rw [if_pos kind]
      exact ⟨⟨trivial, _, rfl⟩, written⟩
  · exact fun _ _ _ impossible => impossible.elim
  · exact fun _ _ impossible => impossible.elim

/-! ## The replay -/

/-- The writes that are accepted one by one. -/
def acceptedWrites (accepts : Mutation → Bool) (writes : List FieldWrite) : List FieldWrite :=
  writes.filter (fun write => accepts write.mutation)

/-- The writes that are not. -/
def rejectedWrites (accepts : Mutation → Bool) (writes : List FieldWrite) : List FieldWrite :=
  writes.filter (fun write => !accepts write.mutation)

/-- The row has the accepted writes and the accumulator one entry for each rejected one. -/
structure Replayed (accepts : Mutation → Bool) (writes : List FieldWrite) (before after : Columns)
    (state final : FieldErrors) : Prop where
  row : after = before.writeAll (acceptedWrites accepts writes)
  errors : ∃ added, final.entries = state.entries ++ added ∧
    added.map ErrorEntry.attribution =
      (rejectedWrites accepts writes).map FieldWrite.attribution

/-- Nothing was replayed. -/
theorem Replayed.nil (columns : Columns) (state : FieldErrors) :
    Replayed accepts [] columns columns state state :=
  ⟨rfl, [], by simp, rfl⟩

/-- An accepted write is the first the row gets: the replay of the rest starts
from the written row, with the same errors. -/
theorem Replayed.accepted {write : FieldWrite} {rest : List FieldWrite} {before after : Columns}
    {state final : FieldErrors} (taken : accepts write.mutation = true)
    (later : Replayed accepts rest (before.write write.mutation) after state final) :
    Replayed accepts (write :: rest) before after state final := by
  have kept : acceptedWrites accepts (write :: rest) = write :: acceptedWrites accepts rest :=
    List.filter_cons_of_pos taken
  have dropped : rejectedWrites accepts (write :: rest) = rejectedWrites accepts rest :=
    List.filter_cons_of_neg (by simp [taken])
  constructor
  · rw [kept]
    exact later.row
  · rw [dropped]
    exact later.errors

/-- A rejected write leaves the row as it is and adds its entry, ahead of those
that the rest adds. -/
theorem Replayed.rejected {write : FieldWrite} {rest : List FieldWrite} {before after : Columns}
    {state final : FieldErrors} {entry : ErrorEntry} (refused : accepts write.mutation = false)
    (attributed : entry.attribution = write.attribution)
    (later : Replayed accepts rest before after ⟨state.entries ++ [entry]⟩ final) :
    Replayed accepts (write :: rest) before after state final := by
  have dropped : acceptedWrites accepts (write :: rest) = acceptedWrites accepts rest :=
    List.filter_cons_of_neg (by simp [refused])
  have kept : rejectedWrites accepts (write :: rest) = write :: rejectedWrites accepts rest :=
    List.filter_cons_of_pos (by simp [refused])
  constructor
  · rw [dropped]
    exact later.row
  · obtain ⟨added, grown, names⟩ := later.errors
    refine ⟨entry :: added, ?_, ?_⟩
    · rw [grown, List.append_assoc, List.singleton_append]
    · rw [kept, List.map_cons, List.map_cons, attributed, names]

/-- A replay applies the accepted writes and records the others in order. By
induction on the writes, each of which is decided by itself: it is accepted, or
it adds its entry. -/
theorem replayWrites_replays (updates : UpdatesRow env ctx row accepts) (writes : List FieldWrite)
    (named : ∀ write ∈ writes, write.field ≠ "") {state : FieldErrors} {world : W} :
    (handler.replayWrites ctx writes).Ensures env (fun _ => True) (fun result final after =>
      result = .ok () ∧ Replayed accepts writes (row world) (row after) state final) state
      world := by
  induction writes generalizing state world with
  | nil => exact ⟨rfl, .nil _ _⟩
  | cons write rest ih =>
    have later : ∀ other ∈ rest, other.field ≠ "" :=
      fun other member => named other (List.mem_cons_of_mem write member)
    have field : write.field ≠ "" := named write List.mem_cons_self
    rw [replayWrites]
    refine (updateServer_decided updates rfl).bind ?_ ?_
    · rintro reply middle between ⟨exit, written⟩
      refine (ih later).mono ?_
      rintro result final after ⟨ended, replayed⟩
      refine ⟨ended, ?_⟩
      by_cases taken : accepts write.mutation = true
      · simp only [updateExit, taken, if_true] at exit
        simp only [decidedRow, taken, if_true] at written
        obtain ⟨rfl, -⟩ := exit
        exact .accepted taken (written ▸ replayed)
      · rw [Bool.not_eq_true] at taken
        simp only [updateExit, taken, Bool.false_eq_true, if_false] at exit
        simp only [decidedRow, taken, Bool.false_eq_true, if_false] at written
        obtain ⟨-, exc, rfl⟩ := exit
        simp only [recorded, if_true, FieldErrors.add, CallOptions.label, if_neg field] at replayed
        exact .rejected taken rfl (written ▸ replayed)
    · rintro exc middle between ⟨exit, -⟩
      simp only [updateExit] at exit
      split at exit
      · obtain ⟨-, ids, raised⟩ := exit
        cases raised
      · cases exit.1

/-- The batch if it is accepted, its replay otherwise. -/
def BatchOrReplay (accepts : Mutation → Bool) (writes : List FieldWrite) (before after : Columns)
    (state final : FieldErrors) : Prop :=
  if accepts (mergeWrites writes) then after = before.writeAll writes ∧ final = state
  else Replayed accepts writes before after state final

/-- Writing the fields is one or the other. By cases on the batch, with the
replay by induction. -/
theorem writeCreateFields_agrees (updates : UpdatesRow env ctx row accepts)
    {writes : List FieldWrite} (returned : handler.createWrites ctx = .ok writes)
    (named : ∀ write ∈ writes, write.field ≠ "") {state : FieldErrors} {world : W} :
    (handler.writeCreateFields ctx).Ensures env (fun _ => True) (fun result final after =>
      result = .ok () ∧ BatchOrReplay accepts writes (row world) (row after) state final) state
      world := by
  rw [writeCreateFields, returned, Action.ensures_bind, Action.ensures_lift]
  simp only [mergeWrites_nonempty returned, Bool.false_eq_true, if_false]
  refine (updateServer_decided updates rfl).bind ?_ ?_
  · rintro reply middle between ⟨exit, written⟩
    by_cases taken : accepts (mergeWrites writes) = true
    · simp only [updateExit, taken, if_true] at exit
      simp only [decidedRow, taken, if_true] at written
      obtain ⟨rfl, ids, answered⟩ := exit
      cases answered
      refine ⟨rfl, ?_⟩
      rw [BatchOrReplay, if_pos taken, written, write_mergeWrites]
      exact ⟨rfl, rfl⟩
    · rw [Bool.not_eq_true] at taken
      simp only [updateExit, taken, Bool.false_eq_true, if_false] at exit
      simp only [decidedRow, taken, Bool.false_eq_true, if_false] at written
      obtain ⟨answered, exc, rfl⟩ := exit
      cases answered
      refine (replayWrites_replays updates writes named).mono ?_
      rintro result final after ⟨ended, replayed⟩
      refine ⟨ended, ?_⟩
      rw [BatchOrReplay, taken, if_neg Bool.false_ne_true, ← written]
      exact replayed
  · rintro exc middle between ⟨exit, -⟩
    simp only [updateExit] at exit
    split at exit
    · obtain ⟨-, ids, raised⟩ := exit
      cases raised
    · cases exit.1

end Updates

/-- For every choice of accepted mutations: an accepted batch leaves what all writes leave one
at a time, a rejected one is replayed with one entry for each rejected write. -/
theorem batch_replay_agree {W : Type} (env : Env service W) (row : W → Columns)
    (accepts : Mutation → Bool) (handler : InstanceHandler) (ctx : CreateContext)
    (updates : UpdatesRow env ctx row accepts) (writes : List FieldWrite)
    (returned : handler.createWrites ctx = .ok writes)
    (named : ∀ write ∈ writes, write.field ≠ "") (state final : FieldErrors) (world last : W)
    (result : Except Exn Unit)
    (run : Prog.Ends env world (handler.writeCreateFields ctx state) (result, final) last) :
    result = .ok () ∧ BatchOrReplay accepts writes (row world) (row last) state final :=
  (writeCreateFields_agrees updates returned named).at_end run

/-! ## The row of the store -/

/-- The columns of the row with this id. -/
def Cmdb.rowColumns (db : Cmdb) (id : Nat) : Columns :=
  ((db.servers.rows.find? (fun server => server.id = id)).map Row.data).getD (fun _ => .null)

/-- Updates are decided by their mutation; a rejected one has no effect. -/
def decides (accepts : Mutation → Bool) : Faults := fun op outcome =>
  match op, outcome with
  | .serverUpdate _ mutation, .ok => accepts mutation = true
  | .serverUpdate _ mutation, .fail error landed =>
      accepts mutation = false ∧ error.isTransport = false ∧ landed = false
  | _, _ => True

/-- The condition of the create selects the row with this id and no other. -/
structure SelectsOnly (ctx : CreateContext) (id : Nat) (world : World) : Prop where
  stored : ∃ server ∈ world.db.servers.rows, server.id = id
  matched : ∀ server ∈ world.db.servers.rows,
    (createWhere ctx).all (ServerKey.holds server) = decide (server.id = id)

/-- An update that selects the row with this id alone writes the mutation to it.
The row found first under the id is the selected one, and ids do not change. -/
theorem rowColumns_update {ctx : CreateContext} {id : Nat} {world : World}
    (only : SelectsOnly ctx id world) (mutation : Mutation) :
    (world.db.updateServers (createWhere ctx) mutation).rowColumns id =
      (world.db.rowColumns id).write mutation := by
  obtain ⟨server, stored, carries⟩ := only.stored
  have found : (world.db.servers.rows.find? (fun server => server.id = id)).isSome = true :=
    List.find?_isSome.mpr ⟨server, stored, decide_eq_true carries⟩
  obtain ⟨first, holds⟩ := Option.isSome_iff_exists.mp found
  have selected : (createWhere ctx).all (ServerKey.holds first) = true := by
    have same := List.find?_some holds
    rw [only.matched first (List.mem_of_find?_eq_some holds)]
    exact same
  have ids : (fun server : Row Columns => decide (server.id = id)) ∘ (fun server : Row Columns =>
      if (createWhere ctx).all (ServerKey.holds server) = true then
        ⟨server.id, server.data.write mutation⟩ else server) =
      fun server => decide (server.id = id) := by
    funext server
    simp only [Function.comp]
    split <;> rfl
  simp only [Cmdb.rowColumns, Cmdb.updateServers, Table.rewrite, List.find?_map, ids, holds,
    Option.map_some, if_pos selected, Option.getD_some]

/-- Where the condition selects one row, the store of this model updates it as
the replay assumes: it writes an accepted mutation, and refuses the others for
good without a change. -/
theorem faulty_updatesRow (ctx : CreateContext) (id : Nat) (accepts : Mutation → Bool) :
    UpdatesRow ((faulty (decides accepts)).meeting fun _ world => SelectsOnly ctx id world) ctx
      (fun world => world.db.rowColumns id) accepts := by
  rintro mutation before reply after ⟨only, step⟩
  obtain ⟨outcome, permitted, rfl, rfl⟩ := faulty_next step
  cases outcome with
  | ok =>
    have accepted : accepts mutation = true := permitted
    refine ⟨accepted, ?_⟩
    rw [decidedRow, if_pos accepted]
    exact rowColumns_update only mutation
  | fail error landed =>
    obtain ⟨rejected, permanent, rfl⟩ := permitted
    refine ⟨⟨rejected, permanent⟩, ?_⟩
    rw [decidedRow, rejected, if_neg Bool.false_ne_true]
    rfl

/-- A row alone, under a choice of accepted mutations. -/
def rowStore (accepts : Mutation → Bool) (op : service.Op) (columns : Columns) :
    service.Reply op × Columns :=
  match op with
  | .cmdb (.serverUpdate _ mutation) =>
      (if accepts mutation then .ok [0] else .error (.data "rejected"),
        decidedRow accepts columns mutation)
  | .cmdb _ => (.error (.data "no such row"), columns)
  | .started _ => ((), columns)
  | .ack => (.ok (), columns)
  | .nack => (.ok (), columns)

/-- It decides as the results ask for. -/
theorem rowStore_updatesRow (ctx : CreateContext) (accepts : Mutation → Bool) :
    UpdatesRow (fun op before reply after => rowStore accepts op before = (reply, after)) ctx id
      accepts := by
  rintro mutation before reply after ⟨⟩
  refine ⟨?_, rfl⟩
  by_cases taken : accepts mutation = true
  · simp [DecidedReply, taken]
  · simp [DecidedReply, taken, CallError.isTransport]

/-- A host with a flavor and one tag that no step consumes. -/
def roleContext : CreateContext :=
  { sampleContext [] with
    instanceData := { flavor := .value ⟨.value "small"⟩ }
    cmdbTags := Dict.ofList [("role", .str "db")] }

/-- Neither the tenant nor the flavor is accepted. -/
def refusesTenant (mutation : Mutation) : Bool :=
  !mutation.contains "tenant" && !mutation.contains "flavor"

/-- The sample host with one tag, written under that choice. -/
def replayRun : (Except Exn Unit × FieldErrors) × Columns :=
  (AsciiRuntime.handler.writeCreateFields roleContext {}).run (rowStore refusesTenant)
    (fun _ => .null)

/-- The replay records the tenant and the flavor, each with its own flags. -/
theorem batch_replay_tenant :
    replayRun.1.2.entries.map ErrorEntry.attribution =
        [("tenant", false, true), ("flavor", false, false)] ∧
      ∃ writes, AsciiRuntime.handler.createWrites roleContext = .ok writes ∧
        BatchOrReplay refusesTenant writes (fun _ => .null) replayRun.2 {} replayRun.1.2 := by
  refine ⟨by decide, _, rfl, ?_⟩
  exact (batch_replay_agree _ id refusesTenant AsciiRuntime.handler roleContext
    (rowStore_updatesRow roleContext refusesTenant) _ rfl (by decide) {} _ (fun _ => .null) _ _
    (Prog.run_ends (fun _ _ => rfl) _ _)).2

end InstanceLifecycle
