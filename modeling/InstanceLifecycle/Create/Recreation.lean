import InstanceLifecycle.Create.ServerRow

/-!
# Removing the old rows and inserting the new one

A removal only takes rows away, whatever fails on the way, and when it ends normally no
row matches its condition. Its calls raise and record nothing. The insert that follows
adds at most one row, under the next id of the table; what its selector hands back is
read from the store as it then is.
-/

namespace InstanceLifecycle

open Interaction Store InstanceHandler

/-- No key of the condition holds of the row. -/
def unmatched (keys : List ServerKey) (row : Row Columns) : Bool :=
  !keys.any (ServerKey.holds row)

/-- Rows were taken away, servers only where one of the keys holds, and nothing else
happened. -/
structure Shrunk (keys : List ServerKey) (before after : Cmdb) : Prop where
  servers : after.servers.rows.Sublist before.servers.rows
  spared : after.servers.rows.filter (unmatched keys) =
    before.servers.rows.filter (unmatched keys)
  endpoints : after.endpoints.rows.Sublist before.endpoints.rows
  next : after.servers.next = before.servers.next
  reference : after.reference = before.reference

namespace Shrunk

variable {keys : List ServerKey} {before middle after : Cmdb}

/-- Nothing was deleted. -/
theorem refl (db : Cmdb) : Shrunk keys db db :=
  ⟨.refl _, rfl, .refl _, rfl, rfl⟩

/-- Deletions add up. -/
theorem trans (first : Shrunk keys before middle) (rest : Shrunk keys middle after) :
    Shrunk keys before after :=
  ⟨rest.servers.trans first.servers, rest.spared.trans first.spared,
    rest.endpoints.trans first.endpoints, rest.next.trans first.next,
    rest.reference.trans first.reference⟩

/-- A rail is no server, so its delete shrinks nothing. -/
theorem deleteRail (db : Cmdb) (id : Nat) : Shrunk keys db (db.deleteRail id) :=
  ⟨.refl _, rfl, .refl _, rfl, rfl⟩

/-- The delete of a row that the condition matches. -/
theorem deleteServer (db : Cmdb) (id : Nat) (matched : ∀ row ∈ db.servers.rows, row.id = id →
    keys.any (ServerKey.holds row) = true) : Shrunk keys db (db.deleteServer id) := by
  refine ⟨List.filter_sublist, ?_, List.filter_sublist, rfl, rfl⟩
  simp only [Cmdb.deleteServer, Table.keep, List.filter_filter]
  apply List.filter_congr
  intro row stored
  by_cases doomed : row.id = id
  · simp [unmatched, matched row stored doomed]
  · simp [doomed]

end Shrunk

/-- A deleted row is gone. -/
theorem deleteServer_absent (db : Cmdb) (id : Nat) :
    ∀ row ∈ (db.deleteServer id).servers.rows, row.id ≠ id := by
  intro row stored
  simpa using ((db.servers.mem_keep _ row).mp stored).2

section Removal

variable {permits : Faults} {inv : World → Prop} {handler : InstanceHandler}
  {state : FieldErrors} {world : World} {keys : List ServerKey}

/-- A deleting call may be repeated from wherever it led; answered, it took effect. -/
theorem deletion_ensures {options : CallOptions} (op : CmdbOp)
    (raises : options.raiseOnDataError = true) (silent : options.errors = false)
    (admitted : ∀ db : Cmdb, db.admits op = true)
    (shrinks : ∀ db : Cmdb, Shrunk keys world.db db → Shrunk keys db (db.effect op))
    (kept : ∀ after : World, Shrunk keys world.db after.db → inv after) :
    (handler.cmdbCall options (cmdb op)).Ensures (faulty permits) inv
      (fun result final after => final = state ∧ Shrunk keys world.db after.db ∧
        ((∃ value, result = .ok value) →
          ∃ base, after.db = base.effect op ∧ Shrunk keys world.db base)) state world := by
  apply plainCall_ensures (fun current => Shrunk keys world.db current.db) (.refl world.db)
  intro current sinceStart outcome permitted
  have now : Shrunk keys world.db (current.next op outcome).db := by
    rw [World.next_db]
    rcases current.db.answer_db op outcome with same | took
    · rw [same]
      exact sinceStart
    · rw [took]
      exact sinceStart.trans (shrinks current.db sinceStart)
  refine ⟨kept _ now, ?_⟩
  cases outcome with
  | ok =>
    simp only [Cmdb.answer, admitted, if_true, replyExit]
    exact ⟨trivial, now, fun _ => ⟨current.db, rfl, sinceStart⟩⟩
  | fail error landed =>
    have unrecorded : handler.recorded options error.toExn state = state := by
      simp [recorded, silent]
    simp only [Cmdb.answer, replyExit, raises, unrecorded, if_true]
    split
    · exact ⟨now, trivial, now, by simp⟩
    · exact ⟨trivial, now, by simp⟩

/-- Deleting rails only drops rows, and leaves the servers alone. By induction
on the rails; each delete may or may not land, and dropping composes. -/
theorem deleteRails_shrinks (rails : List Nat)
    (kept : ∀ after : World, Shrunk keys world.db after.db → inv after) :
    (handler.deleteRails rails).Ensures (faulty permits) inv
      (fun _ final after => final = state ∧ Shrunk keys world.db after.db) state world := by
  induction rails generalizing state world with
  | nil => exact ⟨rfl, .refl world.db⟩
  | cons rail rest ih =>
    rw [deleteRails]
    refine (deletion_ensures (.railsDelete rail) rfl rfl (fun _ => rfl)
      (fun db _ => .deleteRail db rail) kept).bind ?_ fun _ _ _ held => ⟨held.1, held.2.1⟩
    rintro rows final after ⟨rfl, held, -⟩
    refine (ih fun last further => kept last (held.trans further)).mono ?_
    exact fun _ _ _ rested => ⟨rested.1, held.trans rested.2⟩

/-- The servers that are deleted are gone, and only rows of the condition are deleted. -/
theorem deleteServers_ensures (servers : List ServerItem)
    (matched : ∀ server ∈ servers, ∀ row ∈ world.db.servers.rows, row.id = server.id →
      keys.any (ServerKey.holds row) = true)
    (kept : ∀ after : World, Shrunk keys world.db after.db → inv after) :
    (handler.deleteServers servers).Ensures (faulty permits) inv
      (fun result final after => final = state ∧ Shrunk keys world.db after.db ∧
        (result = .ok () → ∀ server ∈ servers, ∀ row ∈ after.db.servers.rows,
          row.id ≠ server.id)) state world := by
  induction servers generalizing state world with
  | nil => exact ⟨rfl, .refl world.db, by simp⟩
  | cons server rest ih =>
    rw [deleteServers]
    refine (deleteRails_shrinks server.rails kept).bind ?_
      fun _ _ _ held => ⟨held.1, held.2, by simp⟩
    rintro ⟨⟩ middle railed ⟨rfl, since⟩
    have deletes : ∀ db : Cmdb, Shrunk keys railed.db db →
        Shrunk keys db (db.effect (.serverDelete server.id)) := by
      intro db further
      apply Shrunk.deleteServer
      intro row stored
      exact matched server List.mem_cons_self row ((since.trans further).servers.subset stored)
    refine (deletion_ensures (.serverDelete server.id) rfl rfl (fun _ => rfl) deletes
      fun after further => kept after (since.trans further)).bind ?_
      fun _ _ _ held => ⟨held.1, since.trans held.2.1, by simp⟩
    rintro ids final deleted ⟨rfl, now, took⟩
    obtain ⟨base, effect, _⟩ := took ⟨ids, rfl⟩
    have fromStart : Shrunk keys world.db deleted.db := since.trans now
    refine (ih (fun other member row stored => matched other (List.mem_cons_of_mem server member)
      row (fromStart.servers.subset stored)) fun after further =>
        kept after (fromStart.trans further)).mono ?_
    rintro result last after ⟨rfl, further, absent⟩
    refine ⟨rfl, fromStart.trans further, fun normal => ?_⟩
    intro other member row stored
    rcases List.mem_cons.mp member with rfl | later
    · have gone := further.servers.subset stored
      rw [effect] at gone
      exact deleteServer_absent base other.id row gone
    · exact absent normal other later row stored

/-- After a removal no row matches its condition, and the others are all there. -/
def Cleared (before after : Cmdb) (keys : List ServerKey) : Prop :=
  Shrunk keys before after ∧ ∀ row ∈ after.servers.rows, keys.any (ServerKey.holds row) = false

/-- A removal only ever deletes rows of its condition, and after a normal end
none is left. The rows its select returned are all that match, as no other call
inserts meanwhile. -/
theorem removeServer_ensures (uuid hostname : Option String)
    (kept : ∀ after : World, Shrunk (removalKeys uuid hostname) world.db after.db → inv after) :
    (handler.removeServer uuid hostname).Ensures (faulty permits) inv
      (fun result final after => final = state ∧
        Shrunk (removalKeys uuid hostname) world.db after.db ∧
        ((∃ found, result = .ok found) → Cleared world.db after.db (removalKeys uuid hostname)))
      state world := by
  have reading : ∀ after : World, world.Reads after →
      Shrunk (removalKeys uuid hostname) world.db after.db := by
    intro after reads
    rw [reads.db]
    exact .refl world.db
  rw [removeServer, Action.ensures_bind]
  apply readCall_ensures rfl
  · intro current outcome sinceStart _
    exact kept _ (reading _ (sinceStart.trans (next_reads current _ rfl outcome)))
  · intro after reads
    have listed : ∀ row ∈ world.db.servers.rows,
        (removalKeys uuid hostname).any (ServerKey.holds row) = true →
        ∃ item ∈ world.db.rows (.serverSelect (removalKeys uuid hostname)), item.id = row.id := by
      intro row stored matched
      exact ⟨_, List.mem_map_of_mem (List.mem_filter.mpr ⟨stored, matched⟩), rfl⟩
    have matched : ∀ item ∈ world.db.rows (.serverSelect (removalKeys uuid hostname)),
        ∀ row ∈ after.db.servers.rows, row.id = item.id →
          (removalKeys uuid hostname).any (ServerKey.holds row) = true := by
      intro item found row stored same
      obtain ⟨selected, member, rfl⟩ := List.mem_map.mp found
      obtain ⟨present, holds⟩ := List.mem_filter.mp member
      rw [reads.db] at stored
      rw [world.db.servers.row_unique stored present same]
      exact holds
    have cleared : ∀ last : World, Shrunk (removalKeys uuid hostname) world.db last.db →
        (∀ item ∈ world.db.rows (.serverSelect (removalKeys uuid hostname)),
          ∀ row ∈ last.db.servers.rows, row.id ≠ item.id) →
        Cleared world.db last.db (removalKeys uuid hostname) := by
      intro last shrunk absent
      refine ⟨shrunk, fun row stored => ?_⟩
      rw [Bool.eq_false_iff]
      intro matched
      obtain ⟨item, found, same⟩ := listed row (shrunk.servers.subset stored) matched
      exact absent item found row stored same.symm
    simp only [Option.getD_some]
    generalize world.db.rows (.serverSelect (removalKeys uuid hostname)) = items at cleared matched
    cases items with
    | nil =>
      exact ⟨rfl, reading after reads, fun _ => cleared after (reading after reads) (by simp)⟩
    | cons item rest =>
      simp only
      have since := reading after reads
      refine (deleteServers_ensures (item :: rest) matched
        fun last further => kept last (since.trans further)).bind ?_
        fun _ _ _ held => ⟨held.1, since.trans held.2.1, by simp⟩
      rintro ⟨⟩ middle last ⟨rfl, further, absent⟩
      have shrunk := since.trans further
      exact ⟨rfl, shrunk, fun _ => cleared last shrunk (absent rfl)⟩
  · intro after error landed reads _ _
    exact ⟨rfl, reading after reads, by simp⟩
  · intro after error landed reads _ _
    exact ⟨rfl, reading after reads, by simp⟩

/-! ## The insert -/

/-- The condition of the removal in front of an insert. -/
def creationKeys (ctx : CreateContext) : List ServerKey :=
  removalKeys (some ctx.instanceId) (some ctx.hostname)

/-- How the row is recreated: over a cleared store, with a row that was inserted or that
the look-up by hostname found there. -/
def recreatedExit (handler : InstanceHandler) (ctx : CreateContext) (before : Cmdb)
    (result : Except Exn (Option Nat)) (after : Cmdb) : Prop :=
  match result with
  | .ok (some id) => ∃ base, Cleared before base (creationKeys ctx) ∧
      ((after = base.insertServer (handler.serverColumns ctx) ∧ id = base.servers.next) ∨
        ((after = base ∨ after = base.insertServer (handler.serverColumns ctx)) ∧
          after.rows (.serverSelectOneByHostname ctx.hostname) = some id))
  | .ok none => False
  | .error exc => exc.isCmdbException = true → Shrunk (creationKeys ctx) before after

/-- The row the look-up by hostname finds among those the removal leaves. -/
def Cmdb.stranger (db : Cmdb) (hostname instanceId : String) : Option (Row Columns) :=
  (db.servers.rows.filter (unmatched (removalKeys (some instanceId) (some hostname)))).find?
    (ServerKey.hostname hostname).holds

/-- Only an empty hostname is left out of the condition, so a named host meets
no stranger. -/
theorem stranger_named {hostname : String} (named : hostname ≠ "") (db : Cmdb)
    (instanceId : String) : db.stranger hostname instanceId = none := by
  rw [Cmdb.stranger, List.find?_eq_none]
  intro row left
  have free := (List.mem_filter.mp left).2
  have keyed : ServerKey.hostname hostname ∈ removalKeys (some instanceId) (some hostname) := by
    simp [removalKeys, named]
  intro holds
  have matched := List.any_eq_true.mpr ⟨_, keyed, holds⟩
  rw [unmatched, matched] at free
  cases free

/-- The rows left are those that did not match. -/
theorem Cleared.rows {keys : List ServerKey} {before after : Cmdb}
    (cleared : Cleared before after keys) :
    after.servers.rows = before.servers.rows.filter (unmatched keys) := by
  rw [← cleared.1.spared, eq_comm, List.filter_eq_self]
  intro row stored
  rw [unmatched, cleared.2 row stored]
  rfl

/-- Over a cleared store the look-up finds a stranger, or the row that was inserted. -/
theorem lookUp_recreated {ctx : CreateContext} {before base after : Cmdb} {id : Nat}
    (cleared : Cleared before base (creationKeys ctx))
    (either : after = base ∨ after = base.insertServer (handler.serverColumns ctx))
    (found : after.rows (.serverSelectOneByHostname ctx.hostname) = some id) :
    (after = base.insertServer (handler.serverColumns ctx) ∧ id = base.servers.next) ∨
      ∃ row, before.stranger ctx.hostname ctx.instanceId = some row ∧ row.id = id := by
  simp only [Cmdb.rows, Option.map_eq_some_iff] at found
  obtain ⟨row, located, rfl⟩ := found
  have left : base.servers.rows.find? (ServerKey.hostname ctx.hostname).holds =
      before.stranger ctx.hostname ctx.instanceId := by
    rw [cleared.rows]
    rfl
  rcases either with rfl | rfl
  · exact Or.inr ⟨row, left.symm.trans located, rfl⟩
  · simp only [Cmdb.insertServer, Table.insert, List.find?_append, left] at located
    cases stranger : before.stranger ctx.hostname ctx.instanceId with
    | some other =>
      rw [stranger] at located
      exact Or.inr ⟨other, rfl, congrArg Row.id (Option.some.inj located)⟩
    | none =>
      rw [stranger, Option.none_or] at located
      have new := List.mem_singleton.mp (List.mem_of_find?_eq_some located)
      exact Or.inl ⟨rfl, congrArg Row.id new⟩

/-- The row a create goes on with is the one it inserted, or a stranger that is left. -/
theorem recreated_row {ctx : CreateContext} {before after : Cmdb} {id : Nat}
    (exit : recreatedExit handler ctx before (.ok (some id)) after) :
    ∃ base, Cleared before base (creationKeys ctx) ∧
      ((after = base.insertServer (handler.serverColumns ctx) ∧ id = base.servers.next) ∨
        ((after = base ∨ after = base.insertServer (handler.serverColumns ctx)) ∧
          ∃ row, before.stranger ctx.hostname ctx.instanceId = some row ∧ row.id = id ∧
            row ∈ after.servers.rows)) := by
  obtain ⟨base, cleared, ⟨took, own⟩ | ⟨either, selected⟩⟩ := exit
  · exact ⟨base, cleared, Or.inl ⟨took, own⟩⟩
  · refine ⟨base, cleared, ?_⟩
    rcases lookUp_recreated cleared either selected with inserted | ⟨row, found, same⟩
    · exact Or.inl inserted
    · have stored : row ∈ base.servers.rows := by
        rw [cleared.rows]
        exact List.mem_of_find?_eq_some found
      refine Or.inr ⟨either, row, found, same, ?_⟩
      rcases either with unchanged | took
      · rw [unchanged]
        exact stored
      · rw [took]
        exact (base.servers.mem_insert _ row).mpr (Or.inl stored)

/-- The re-select by hostname finds some row once the insert took effect. -/
theorem hostname_detects {ctx : CreateContext} (base : Cmdb) :
    (base.insertServer (handler.serverColumns ctx)).rows
      (.serverSelectOneByHostname ctx.hostname) ≠ none := by
  intro missed
  simp only [Cmdb.rows, Option.map_eq_none_iff, List.find?_eq_none] at missed
  have absent := missed ⟨base.servers.next, insertedColumns handler ctx⟩
    ((base.servers.mem_insert _ _).mpr (Or.inr rfl))
  have named : insertedColumns handler ctx "hostname" = .str ctx.hostname := rfl
  simp [ServerKey.holds, Value.isStr_iff, named] at absent

/-- The re-creation of a row: what holds in between, and what it ends with. The
removal, the insert and its re-select are composed. -/
theorem recreateServerRow_ensures {ctx : CreateContext}
    (within : ∀ op outcome, permits op outcome → anyFaults op outcome)
    (kept : ∀ after : World, Shrunk (creationKeys ctx) world.db after.db → inv after)
    (inserted : ∀ (after : World) base, Cleared world.db base (creationKeys ctx) →
      after.db = base.insertServer (handler.serverColumns ctx) → inv after) :
    (handler.recreateServerRow ctx).Ensures (faulty permits) inv
      (fun result final after => final = state ∧ recreatedExit handler ctx world.db result after.db)
      state world := by
  rw [recreateServerRow]
  refine (removeServer_ensures (some ctx.instanceId) (some ctx.hostname) kept).bind ?_
    fun _ _ _ held => ⟨held.1, fun _ => held.2.1⟩
  rintro found middle removed ⟨rfl, shrunk, cleared⟩
  have clear : Cleared world.db removed.db (creationKeys ctx) := cleared ⟨found, rfl⟩
  have around : ∀ current : World, (current.db = removed.db ∨
      current.db = removed.db.insertServer (handler.serverColumns ctx)) → inv current := by
    rintro current (same | took)
    · exact kept current (same ▸ shrunk)
    · exact inserted current removed.db clear took
  apply recoveredInsert_ensures removed.db (fun _ => True)
    (fun db => db.rows (.serverSelectOneByHostname ctx.hostname)) rfl rfl (within _)
    (hostname_detects removed.db)
  · intro current outcome same _
    refine ⟨around _ ?_, trivial⟩
    rw [World.next_db, ← same]
    exact current.db.answer_db _ outcome
  · intro current either _
    refine probe_ensures rfl _ fun outcome _ => ⟨around _ ?_, trivial⟩
    rw [World.next_db, current.db.answer_read _ rfl]
    exact either
  · exact fun after took => ⟨rfl, removed.db, clear, Or.inl ⟨took, rfl⟩⟩
  · exact fun after row either selected => ⟨rfl, removed.db, clear, Or.inr ⟨either, selected⟩⟩
  · intro after error same _ _
    exact ⟨rfl, fun _ => same ▸ shrunk⟩
  · intro after exc _ foreign
    refine ⟨rfl, fun own => ?_⟩
    rw [foreign] at own
    cases own

end Removal

end InstanceLifecycle
