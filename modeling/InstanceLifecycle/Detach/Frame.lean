import InstanceLifecycle.Cmdb.Rows
import InstanceLifecycle.Handler.AsciiRuntime
import InstanceLifecycle.Handler.CallRules

/-!
# What a detach leaves alone

A detach deletes the IPs with its address on its host and then every endpoint of the host
that has no IP. So it stays within the endpoint of the address only as long as no endpoint
of the host was without IPs before; a create leaves such endpoints behind where it found no
prefix.
-/

namespace InstanceLifecycle

open Interaction Store InstanceHandler

/-! ## The store after a detach -/

/-- The store a detach leaves. -/
def Cmdb.detach (db : Cmdb) (address : String) (uuid : Option String) : Cmdb :=
  (db.deleteIps address uuid).deleteEndpointsWithoutIps uuid

/-- A detach without faults returns, records no error and leaves the store that
`detach` describes: the IPs of the address go, then the endpoints left without
any. -/
theorem detachFromInstances_faultless {handler : InstanceHandler} {state : FieldErrors}
    {world : World} {message : Message} {address : String} {uuid : Option String}
    (read : handler.readDetach message = .ok (some (address, uuid))) :
    (handler.detachFromInstances message).Ensures (faulty noFaults) (fun _ => True)
      (fun result final after => result = .ok () ∧ final = state ∧
        after.db = world.db.detach address uuid) state world := by
  rw [detachFromInstances, Action.ensures_bind, Action.ensures_lift, read]
  simp only
  rw [Action.ensures_bind]
  apply faultlessCall_ensures trivial
  · intro _
    rw [Action.ensures_bind]
    exact faultlessCall_ensures trivial (fun _ => ⟨rfl, rfl, rfl⟩) fun refused => nomatch refused
  · exact fun refused => nomatch refused

section Detach

variable {db : Cmdb} {address : String} {uuid : Option String}

/-- The IPs after a detach are the earlier ones but for those of the address on
the host. -/
theorem detach_ips : (db.detach address uuid).ips.rows =
    db.ips.rows.filter (fun ip => !db.attachedTo address uuid ip) := rfl

/-- An endpoint stays exactly if it is on another host or still has an address
once the IPs are gone. -/
theorem mem_detach_endpoints {endpoint : Row Endpoint} :
    endpoint ∈ (db.detach address uuid).endpoints.rows ↔ endpoint ∈ db.endpoints.rows ∧
      (db.endpointOnHost uuid endpoint = true →
        (db.deleteIps address uuid).hasIps endpoint = true) := by
  rw [Cmdb.detach, Cmdb.deleteEndpointsWithoutIps, Table.mem_keep]
  refine and_congr Iff.rfl ?_
  change (!(!(db.deleteIps address uuid).hasIps endpoint && db.endpointOnHost uuid endpoint)) = true
    ↔ _
  cases db.endpointOnHost uuid endpoint <;> simp

/-- Deleting endpoints without IPs changes no endpoint's having some. -/
theorem detach_hasIps {endpoint : Row Endpoint} :
    (db.detach address uuid).hasIps endpoint = (db.deleteIps address uuid).hasIps endpoint := rfl

/-- An IP that a detach takes off an endpoint carries the address of the detach. -/
theorem carried_of_detached {endpoint : Row Endpoint} (used : db.hasIps endpoint = true)
    (empty : (db.deleteIps address uuid).hasIps endpoint = false) :
    ∃ ip ∈ db.ipsOf endpoint.id, ip.data.ip = address := by
  obtain ⟨ip, stored, hangs⟩ := List.any_eq_true.mp used
  refine ⟨ip, List.mem_filter.mpr ⟨stored, hangs⟩, ?_⟩
  by_contra other
  have kept : ip ∈ (db.deleteIps address uuid).ips.rows :=
    (db.ips.mem_keep _ ip).mpr ⟨stored, by simp [Cmdb.attachedTo, other]⟩
  rw [Cmdb.hasIps, List.any_eq_false] at empty
  exact empty ip kept hangs

end Detach

/-! ## The frame -/

/-- A detach that stays within the endpoint of its address. -/
structure DetachFrame (address : String) (uuid : Option String) (before after : Cmdb) : Prop where
  ips : after.ips.rows = before.ips.rows.filter (fun ip => !before.attachedTo address uuid ip)
  endpoints : after.endpoints.rows.Sublist before.endpoints.rows
  removed : ∀ endpoint ∈ before.endpoints.rows, endpoint ∉ after.endpoints.rows →
    before.endpointOnHost uuid endpoint = true ∧
      (∃ ip ∈ before.ipsOf endpoint.id, ip.data.ip = address) ∧ after.hasIps endpoint = false
  servers : after.servers = before.servers
  rails : after.rails = before.rails
  reference : after.reference = before.reference

/-- A detach where nothing fails stays within the endpoint of its address if and only if every
endpoint of the host had an IP before. -/
theorem detach_frame_iff (handler : InstanceHandler) (message : Message) (address : String)
    (uuid : Option String) (read : handler.readDetach message = .ok (some (address, uuid)))
    (state : FieldErrors) (world last : World) (result : Except Exn Unit × FieldErrors)
    (run : Prog.Ends (faulty noFaults) world (handler.detachFromInstances message state) result
      last) :
    DetachFrame address uuid world.db last.db ↔ ∀ endpoint ∈ world.db.endpoints.rows,
      world.db.endpointOnHost uuid endpoint = true → world.db.hasIps endpoint = true := by
  obtain ⟨-, -, done⟩ := (detachFromInstances_faultless read).at_end run
  rw [done]
  constructor
  · intro frame endpoint stored onHost
    by_contra unused
    have empty : (world.db.deleteIps address uuid).hasIps endpoint = false := by
      rw [Cmdb.hasIps, List.any_eq_false]
      intro ip kept hangs
      have before := ((world.db.ips.mem_keep _ ip).mp kept).1
      exact unused (List.any_eq_true.mpr ⟨ip, before, hangs⟩)
    have gone : endpoint ∉ (world.db.detach address uuid).endpoints.rows := by
      rw [mem_detach_endpoints, empty]
      simp [onHost]
    obtain ⟨-, ⟨ip, carried, -⟩, -⟩ := frame.removed endpoint stored gone
    obtain ⟨before, hangs⟩ := List.mem_filter.mp carried
    exact unused (List.any_eq_true.mpr ⟨ip, before, hangs⟩)
  · intro used
    constructor
    · exact detach_ips
    · exact List.filter_sublist
    · intro endpoint stored gone
      rw [mem_detach_endpoints] at gone
      have onHost : world.db.endpointOnHost uuid endpoint = true := by
        by_contra elsewhere
        exact gone ⟨stored, fun onHost => absurd onHost elsewhere⟩
      have empty : (world.db.deleteIps address uuid).hasIps endpoint = false := by
        by_contra left
        exact gone ⟨stored, fun _ => by simpa using left⟩
      exact ⟨onHost, carried_of_detached (used endpoint stored onHost) empty, empty⟩
    · rfl
    · rfl
    · rfl

/-- The host has one endpoint and the detached address on it. -/
theorem detach_frame_occupied :
    let last := ((AsciiRuntime.handler.detachFromInstances
      (AsciiRuntime.detachMessage "10.0.0.9") {}).run (World.answer .ok)
      ⟨AsciiRuntime.occupied "10.0.0.9" "m9", []⟩).2
    DetachFrame "10.0.0.9" (some "u1") (AsciiRuntime.occupied "10.0.0.9" "m9") last.db :=
  (detach_frame_iff AsciiRuntime.handler (AsciiRuntime.detachMessage "10.0.0.9") "10.0.0.9"
    (some "u1") rfl {} ⟨AsciiRuntime.occupied "10.0.0.9" "m9", []⟩ _ _
    (Prog.run_ends faultless_possible _ _)).mpr (by decide)

/-- The host `u1` with the address on one endpoint, beside an endpoint without IPs. -/
def spareEndpoint : Cmdb :=
  (AsciiRuntime.occupied "10.0.0.9" "m9").insertEndpoint ⟨0, none, some "bond1", none, some "m8"⟩

/-- The host has a second endpoint that never carried the address, and the
detach deletes it with the other. So the frame does not hold there. -/
theorem detach_beyond_frame :
    let exit := (AsciiRuntime.handler.detachFromInstances
      (AsciiRuntime.detachMessage "10.0.0.9") {}).run (World.answer .ok)
      ⟨spareEndpoint, []⟩
    Prog.Ends (faulty noFaults) ⟨spareEndpoint, []⟩ (AsciiRuntime.handler.detachFromInstances
        (AsciiRuntime.detachMessage "10.0.0.9") {}) exit.1 exit.2 ∧
      spareEndpoint.ipsOf 1 = [] ∧ exit.2.db.endpoints.rows = [] ∧
      ¬ DetachFrame "10.0.0.9" (some "u1") spareEndpoint exit.2.db := by
  have bare : spareEndpoint.ipsOf 1 = [] := by decide
  refine ⟨Prog.run_ends faultless_possible _ _, bare, by decide, ?_⟩
  intro frame
  obtain ⟨-, ⟨ip, carried, -⟩, -⟩ := frame.removed
    ⟨1, ⟨0, none, some "bond1", none, some "m8"⟩⟩ (by decide) (by decide)
  rw [bare] at carried
  cases carried

end InstanceLifecycle
