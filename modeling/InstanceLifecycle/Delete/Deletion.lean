import InstanceLifecycle.Delete.Removal
import InstanceLifecycle.Service.Redelivered

/-!
# Deletions that are interrupted

A deletion lists the servers of its condition with their rails and takes them one by one. The
invariant of the two loops is that the store still leads to the one without these servers and
that the rest of the list names what is left of them. A deletion that is repeated lists what the
ones before it left.
-/

namespace InstanceLifecycle

open Interaction Store InstanceHandler

/-- The item shows a stored server of the condition, with all of its rails. -/
structure Listed (keys : List ServerKey) (db : Cmdb) (item : ServerItem) : Prop where
  stored : db.condemned keys item.id = true
  rails : ∀ rail ∈ db.rails.rows, rail.id ∈ item.rails → rail.data.serverId = item.id

/-- The store leads to the target, and the list names every server that is still to go. -/
structure Removing (keys : List ServerKey) (target : Cmdb) (items : List ServerItem) (db : Cmdb) :
    Prop where
  leads : db.remove keys = target
  named : ∀ server ∈ db.servers.rows, unmatched keys server = false →
    server.id ∈ items.map ServerItem.id
  listed : ∀ item ∈ items, Listed keys db item
  complete : ∀ item ∈ items, ∀ rail ∈ db.rails.rows, rail.data.serverId = item.id →
    rail.id ∈ item.rails
  distinct : (items.map ServerItem.id).Nodup

namespace Removing

variable {keys : List ServerKey} {target db : Cmdb} {item : ServerItem} {items : List ServerItem}

/-- The list that a select shows names what is to go: each matched server once,
and with it every rail that hangs on it. -/
theorem selected (leads : db.remove keys = target) :
    Removing keys target (db.rows (.serverSelect keys)) db := by
  have ids : (db.rows (.serverSelect keys)).map ServerItem.id =
      (db.servers.rows.filter fun server => keys.any (ServerKey.holds server)).map Row.id := by
    rw [Cmdb.rows, List.map_map]
    rfl
  refine ⟨leads, ?_, ?_, ?_, ?_⟩
  · intro server stored matched
    rw [ids]
    exact List.mem_map_of_mem (List.mem_filter.mpr ⟨stored, by simpa [unmatched] using matched⟩)
  · intro item member
    obtain ⟨server, chosen, rfl⟩ := List.mem_map.mp member
    obtain ⟨stored, matched⟩ := List.mem_filter.mp chosen
    refine ⟨?_, ?_⟩
    · rw [db.condemned_stored keys stored, unmatched, matched]
      rfl
    · intro rail there shown
      obtain ⟨other, hangs, same⟩ := List.mem_map.mp shown
      obtain ⟨present, on⟩ := List.mem_filter.mp hangs
      rw [db.rails.row_unique there present same.symm]
      exact of_decide_eq_true on
  · intro item member rail there hangs
    obtain ⟨server, _, rfl⟩ := List.mem_map.mp member
    exact List.mem_map_of_mem (List.mem_filter.mpr ⟨there, decide_eq_true hangs⟩)
  · rw [ids]
    exact db.servers.distinct.sublist (List.filter_sublist.map _)

/-- With an empty list nothing is left to remove. -/
theorem finished (removing : Removing keys target [] db) : db = target := by
  rw [← removing.leads, eq_comm]
  apply db.remove_of_unmatched
  intro server stored
  by_contra matched
  cases removing.named server stored (by simpa using matched)

/-- One rail of the first server is taken, which the removal would have taken
too. The list still names all that is to go. -/
theorem deleteRail (removing : Removing keys target (item :: items) db) {rail : Nat}
    (shown : rail ∈ item.rails) : Removing keys target (item :: items) (db.deleteRail rail) := by
  have fewer : ∀ row ∈ (db.deleteRail rail).rails.rows, row ∈ db.rails.rows :=
    fun row stored => ((db.rails.mem_keep _ row).mp stored).1
  refine ⟨?_, removing.named, ?_, ?_, removing.distinct⟩
  · rw [← removing.leads]
    apply db.remove_deleteRail
    intro row stored same
    have first := removing.listed item List.mem_cons_self
    rw [first.rails row stored (same ▸ shown)]
    exact first.stored
  · intro other member
    have held := removing.listed other member
    exact ⟨held.stored, fun row stored => held.rails row (fewer row stored)⟩
  · exact fun other member row stored => removing.complete other member row (fewer row stored)

/-- The first server is taken once it has no rails left. The removal of what
remains is that of the whole, and the rest of the list still names it. -/
theorem deleteServer (removing : Removing keys target (item :: items) db)
    (bare : ∀ rail ∈ db.rails.rows, rail.data.serverId ≠ item.id) :
    Removing keys target items (db.deleteServer item.id) := by
  have first := removing.listed item List.mem_cons_self
  obtain ⟨absent, distinct⟩ := List.nodup_cons.mp removing.distinct
  refine ⟨?_, ?_, ?_, ?_, distinct⟩
  · rw [← removing.leads]
    exact db.remove_deleteServer keys first.stored bare
  · intro server stored matched
    have other := deleteServer_absent db item.id server stored
    have old := ((db.servers.mem_keep _ server).mp stored).1
    exact (List.mem_cons.mp (removing.named server old matched)).resolve_left other
  · intro later member
    have held := removing.listed later (List.mem_cons_of_mem item member)
    refine ⟨?_, held.rails⟩
    have other : later.id ≠ item.id := by
      intro same
      exact absent (same ▸ List.mem_map_of_mem member)
    obtain ⟨server, stored, same, matched⟩ := (db.servers.passes_iff _ _).mp held.stored
    refine ((db.deleteServer item.id).servers.passes_iff _ _).mpr ⟨server, ?_, same, matched⟩
    exact (db.servers.mem_keep _ server).mpr ⟨stored, by simpa [same] using other⟩
  · exact fun later member => removing.complete later (List.mem_cons_of_mem item member)

end Removing

section Loops

variable {handler : InstanceHandler} {keys : List ServerKey} {target : Cmdb} {state : FieldErrors}
  {world : World}

/-- How a part of a deletion ends: on the way, and normally only with `Done`. -/
def onTheWay (keys : List ServerKey) (target : Cmdb) (Done : Cmdb → Prop) {α : Type}
    (result : Except Exn α) (_ : FieldErrors) (after : World) : Prop :=
  after.db.remove keys = target ∧ ∀ value, result = .ok value → Done after.db

/-- The rails of the first server are taken one by one, by induction on those
not yet taken. A delete that was lost may be repeated, because a rail that is
gone stays gone. -/
theorem deleteRails_removing {item : ServerItem} {items : List ServerItem} (rails : List Nat)
    (within : rails ⊆ item.rails) (removing : Removing keys target (item :: items) world.db)
    (left : ∀ rail ∈ world.db.rails.rows, rail.data.serverId = item.id → rail.id ∈ rails) :
    (handler.deleteRails rails).Ensures (faulty transportFaults)
      (fun after => after.db.remove keys = target)
      (onTheWay keys target fun db => Removing keys target (item :: items) db ∧
        ∀ rail ∈ db.rails.rows, rail.data.serverId ≠ item.id) state world := by
  induction rails generalizing state world with
  | nil =>
    refine ⟨removing.leads, fun _ _ => ⟨removing, fun rail stored hangs => ?_⟩⟩
    cases left rail stored hangs
  | cons rail rest ih =>
    obtain ⟨shown, within⟩ := List.cons_subset.mp within
    have taken : ∀ db : Cmdb, Removing keys target (item :: items) db ∧
        (∀ row ∈ db.rails.rows, row.data.serverId = item.id → row.id ∈ rail :: rest) →
        Removing keys target (item :: items) (db.deleteRail rail) ∧
        ∀ row ∈ (db.deleteRail rail).rails.rows, row.data.serverId = item.id → row.id ∈ rest := by
      rintro db ⟨removing, left⟩
      refine ⟨removing.deleteRail shown, fun row stored hangs => ?_⟩
      obtain ⟨old, other⟩ := (db.rails.mem_keep _ row).mp stored
      exact (List.mem_cons.mp (left row old hangs)).resolve_left (of_decide_eq_true other)
    rw [deleteRails, Action.ensures_bind]
    refine transportCall_ensures (fun after => Removing keys target (item :: items) after.db ∧
        ∀ row ∈ after.db.rails.rows, row.data.serverId = item.id → row.id ∈ rail :: rest)
      (fun _ => rfl) (fun _ permitted => permitted) ⟨removing, left⟩ ?_ ?_ ?_
    · intro current outcome pre
      have kept := @Cmdb.answer_keeps (fun db => Removing keys target (item :: items) db ∧
          ∀ row ∈ db.rails.rows, row.data.serverId = item.id → row.id ∈ rail :: rest) current.db
        (.railsDelete rail) pre
        ⟨(taken current.db pre).1, fun row stored hangs =>
          List.mem_cons_of_mem rail ((taken current.db pre).2 row stored hangs)⟩ outcome
      exact ⟨kept.1.leads, kept⟩
    · intro current pre
      obtain ⟨removing, left⟩ := taken current.db pre
      exact ih within removing left
    · exact fun after exc pre => ⟨pre.1.leads, error_not_ok⟩

/-- The deletes of the listed servers lead to the removal, also when they are
broken off: by induction over the list, with the target fixed. -/
theorem deleteServers_removing (items : List ServerItem)
    (removing : Removing keys target items world.db) :
    (handler.deleteServers items).Ensures (faulty transportFaults)
      (fun after => after.db.remove keys = target)
      (onTheWay keys target fun db => db = target) state world := by
  induction items generalizing state world with
  | nil => exact ⟨removing.leads, fun _ _ => removing.finished⟩
  | cons item rest ih =>
    rw [deleteServers]
    refine (deleteRails_removing item.rails (List.Subset.refl _) removing fun rail stored hangs =>
      removing.complete item List.mem_cons_self rail stored hangs).bind ?_
      fun _ _ _ held => ⟨held.1, error_not_ok⟩
    rintro ⟨⟩ middle railed ⟨_, bare⟩
    obtain ⟨removing, bare⟩ := bare () rfl
    rw [Action.ensures_bind]
    -- A server that was deleted and reported lost is deleted again, which changes nothing.
    refine transportCall_ensures (fun after => after.db.remove keys = target ∧
        Removing keys target rest (after.db.deleteServer item.id)) (fun _ => rfl)
      (fun _ permitted => permitted) ⟨removing.leads, removing.deleteServer bare⟩ ?_ ?_ ?_
    · rintro current outcome ⟨leads, next⟩
      have kept := @Cmdb.answer_keeps (fun db => db.remove keys = target ∧
          Removing keys target rest (db.deleteServer item.id)) current.db (.serverDelete item.id)
        ⟨leads, next⟩ ⟨next.leads, (current.db.deleteServer_twice item.id).symm ▸ next⟩ outcome
      exact ⟨kept.1, kept⟩
    · exact fun current pre => ih pre.2
    · exact fun after exc pre => ⟨pre.1, error_not_ok⟩

/-- Removing the servers under a uuid or a host name leads to the removal by
these keys. It first reads the rows, which changes nothing, then deletes them
one by one. -/
theorem removeServer_removing (uuid hostname : Option String)
    (leads : world.db.remove (removalKeys uuid hostname) = target) :
    (handler.removeServer uuid hostname).Ensures (faulty transportFaults)
      (fun after => after.db.remove (removalKeys uuid hostname) = target)
      (onTheWay (removalKeys uuid hostname) target fun db => db = target) state world := by
  have reading : ∀ after : World, world.Reads after →
      after.db.remove (removalKeys uuid hostname) = target := by
    intro after reads
    rw [reads.db]
    exact leads
  rw [removeServer, Action.ensures_bind]
  refine transportRead_ensures rfl (fun _ permitted => permitted)
    (fun current outcome sinceStart => reading _ (sinceStart.trans (next_reads current _ rfl outcome)))
    ?_ fun after exc reads => ⟨reading after reads, error_not_ok⟩
  intro after reads
  have removing := Removing.selected leads
  simp only [Option.getD_some]
  rw [← reads.db] at removing ⊢
  generalize after.db.rows (.serverSelect (removalKeys uuid hostname)) = items at removing
  cases items with
  | nil => exact ⟨reading after reads, fun _ _ => removing.finished⟩
  | cons item rest =>
    refine (deleteServers_removing (item :: rest) removing).bind ?_
      fun _ _ _ held => ⟨held.1, error_not_ok⟩
    rintro ⟨⟩ middle last ⟨leads, done⟩
    exact ⟨leads, fun _ _ => done () rfl⟩

end Loops

end InstanceLifecycle
