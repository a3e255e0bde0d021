import InstanceLifecycle.Addresses.Types
import InstanceLifecycle.Attach.Plan
import InstanceLifecycle.Attach.Restarts
import InstanceLifecycle.Concurrency.OwnEndpoints
import InstanceLifecycle.Concurrency.SparedEndpoints

/-!
# Two attaches to one server

Each attach decides on the server it read, and the other one may have written since. If each
decides as it does where the messages run one after the other, they leave what that serial
run leaves, in every interleaving: the endpoints and IPs are those of the two plans, written
in some order, and up to row ids the order does not show.
-/

namespace InstanceLifecycle

open Interaction Store InstanceHandler

/-- The side that is not this one. -/
def Side.other : Side → Side
  | .left => .right
  | .right => .left

/-- The two sides are different. -/
theorem Side.other_ne (side : Side) : side.other ≠ side := by
  cases side <;> decide

/-- A side that is not the first is the other one. -/
theorem Side.eq_other {side first : Side} (apart : side ≠ first) : side = first.other := by
  cases side <;> cases first <;> first | rfl | exact absurd rfl apart

/-! ## What both have written -/

/-- How far the writes of an attach have come: none, its endpoint, or its
endpoint and its IP. -/
abbrev AttachStrand := Strand EndpointUpdate Endpoint Ip

/-- What an attach with this plan has written in a phase. -/
def Phase.Wrote (plan : Option AttachPlan) (phase : Phase) (written : AttachStrand) : Prop :=
  match phase with
  | .chosen _ id => ∃ own, plan = some own ∧ written = .placed own.target id
  | .attached => match plan with
    | none => written = .none
    | some own => ∃ id, written = .done own.target id (own.ip.onEndpoint id)
  | _ => written = .none

/-- What both sides have written since `base`, told as if `first` had been first. -/
def WovenBy (base : Cmdb) (first : Side) (wrote : Side → AttachStrand)
    (now : Tables Endpoint Ip) : Prop :=
  Woven EndpointUpdate.apply base.tables (wrote first) (wrote first.other) now

section Woven

variable {base : Cmdb} {first side : Side} {wrote : Side → AttachStrand} {now : Tables Endpoint Ip}
  {target : Target EndpointUpdate Endpoint} {id : Nat} {ip : Ip}

/-- A side places its endpoint. Below the other one it must be old, or be inserted, and a
change must commute with that of the other side. -/
theorem WovenBy.write (woven : WovenBy base first wrote now) (nothing : wrote side = .none)
    (fits : target.Fits id now)
    (old : side = first → ∀ row updates, target = .change row updates →
      row < base.endpoints.next)
    (changes : side = first → ∀ row updates later other, target = .change row updates →
      (wrote first.other).target = some (.change row later, other) → ∀ endpoint,
        updates.apply (later.apply endpoint) = later.apply (updates.apply endpoint)) :
    WovenBy base first (Function.update wrote side (.placed target id))
      (now.write EndpointUpdate.apply target id) := by
  rw [WovenBy] at woven ⊢
  by_cases same : side = first
  · subst same
    rw [Function.update_self, Function.update_of_ne side.other_ne]
    rw [nothing] at woven
    exact woven.inner_write fits (old rfl) (changes rfl)
  · have outer := Side.eq_other same
    subst outer
    rw [Function.update_self, Function.update_of_ne first.other_ne.symm]
    rw [nothing] at woven
    exact woven.outer_write fits

/-- A side adds its IP to what both have written. By which of the two sides it
is. -/
theorem WovenBy.hang (woven : WovenBy base first wrote now)
    (placed : wrote side = .placed target id) :
    WovenBy base first (Function.update wrote side (.done target id ip)) (now.hang ip) := by
  rw [WovenBy] at woven ⊢
  by_cases same : side = first
  · subst same
    rw [Function.update_self, Function.update_of_ne side.other_ne]
    rw [placed] at woven
    exact woven.inner_hang
  · have outer := Side.eq_other same
    subst outer
    rw [Function.update_self, Function.update_of_ne first.other_ne.symm]
    rw [placed] at woven
    exact woven.outer_hang

end Woven

/-- What is known while two attaches carry out their plans: where each of them
is, what it has written, and that the store is woven of both. It is the
invariant of the interleaving. -/
structure Weaving (handler : InstanceHandler) (requests : Side → AttachRequest)
    (plans : Side → Option AttachPlan) (base : Cmdb) (host : Row Columns) (first : Side)
    (shared : Shared) : Prop where
  located : ∀ side, shared.db.servers.rows.find? (fun server =>
    hasUuid server (requests side).hostUuid) = some host
  reference : shared.db.reference = base.reference
  unfailed : ∀ side, (shared.heard side).any Event.failed = false
  holds : ∀ side, (attachPhase (shared.heard side)).Holds (requests side) host.id shared.db
  planned : ∀ side server, (attachPhase (shared.heard side)).server = some server →
    base.attached (requests side).ipAddr (requests side).hostUuid = [] →
      plans side = some (attachPlan (requests side) (base.prefixFor handler (requests side)) server)
  addresses : ∀ side, attachPhase (shared.heard side) ≠ .attached →
    shared.db.attached (requests side).ipAddr (requests side).hostUuid =
      base.attached (requests side).ipAddr (requests side).hostUuid
  written : ∃ wrote : Side → AttachStrand,
    (∀ side, (attachPhase (shared.heard side)).Wrote (plans side) (wrote side)) ∧
      WovenBy base first wrote shared.db.tables ∧
        ((∀ side, wrote side = .none) → shared.db = base)

/-- Plans that two attaches can carry out in any order: they write nothing where the address
is attached, the first one finds its endpoint in `base`, and their updates commute. -/
structure Weavable (requests : Side → AttachRequest) (plans : Side → Option AttachPlan)
    (base : Cmdb) (first : Side) : Prop where
  apart : ∀ side : Side, (requests side).ipAddr ≠ (requests side.other).ipAddr
  attached : ∀ side, base.attached (requests side).ipAddr (requests side).hostUuid ≠ [] →
    plans side = none
  old : ∀ plan id updates, plans first = some plan → plan.target = .change id updates →
    id < base.endpoints.next
  changes : ∀ plan later id updates more, plans first = some plan →
    plans first.other = some later → plan.target = .change id updates →
      later.target = .change id more → ∀ endpoint,
        updates.apply (more.apply endpoint) = more.apply (updates.apply endpoint)

/-! ## One call -/

/-- A call of an attach leaves every endpoint of the host on it. By the call: an
update rewrites it in place, and an insert adds another. -/
theorem hostEndpoint_attach {db : Cmdb} {request : AttachRequest} {phase : Phase} {op : CmdbOp}
    {host id : Nat} (allowed : phase.allows request (fun _ => True) op)
    (stored : db.HostEndpoint host id) : (db.effect op).HostEndpoint host id := by
  cases op with
  | endpointUpdate other updates => exact hostEndpoint_update stored other updates
  | endpointInsertOne columns =>
    obtain ⟨endpoint, there, same⟩ := stored
    rw [Cmdb.effect, Cmdb.insertEndpoint]
    split
    · exact ⟨endpoint, (db.endpoints.mem_insert _ endpoint).mpr (Or.inl there), same⟩
    · exact ⟨endpoint, there, same⟩
  | ipInsertOne columns =>
    rw [Cmdb.HostEndpoint, Cmdb.effect, db.insertIp_endpoints]
    exact stored
  | _ => first | exact stored | exact allowed.elim

/-- A call that is allowed with some prefixes is allowed with any. -/
theorem allows_any {request : AttachRequest} {phase : Phase} {op : CmdbOp}
    {prefixes : Option NetworkPrefix → Prop} (allowed : phase.allows request prefixes op) :
    phase.allows request (fun _ => True) op := by
  cases op with
  | ipInsertOne columns =>
    obtain ⟨server, netPrefix, id, -, hangs, rfl⟩ := allowed
    exact ⟨server, netPrefix, id, trivial, hangs, rfl⟩
  | _ => exact allowed

/-- What was written is part of the plan, by the phase that the side has
reached. -/
theorem Phase.Wrote.target {plan : Option AttachPlan} {phase : Phase} {strand : AttachStrand}
    {target : Target EndpointUpdate Endpoint} {id : Nat} (wrote : phase.Wrote plan strand)
    (started : strand.target = some (target, id)) :
    ∃ own, plan = some own ∧ own.target = target := by
  cases phase with
  | chosen server other =>
    obtain ⟨own, planned, rfl⟩ := wrote
    cases started
    exact ⟨own, planned, rfl⟩
  | attached =>
    cases plan with
    | none =>
      have nothing : strand = .none := wrote
      rw [nothing] at started
      cases started
    | some own =>
      obtain ⟨other, rfl⟩ := wrote
      cases started
      exact ⟨own, rfl, rfl⟩
  | _ =>
    have nothing : strand = .none := wrote
    rw [nothing] at started
    cases started

/-- Without a plan nothing is written. -/
theorem Phase.Wrote.nothing {phase : Phase} {strand : AttachStrand}
    (wrote : phase.Wrote none strand) : strand = .none := by
  cases phase with
  | chosen server id =>
    obtain ⟨own, planned, -⟩ := wrote
    cases planned
  | _ => exact wrote

/-- A side that has written nothing can carry out the first write of its plan. -/
theorem Weavable.write {requests : Side → AttachRequest} {plans : Side → Option AttachPlan}
    {base : Cmdb} {first side : Side} {phases : Side → Phase} {wrote : Side → AttachStrand}
    {now : Tables Endpoint Ip} {plan : AttachPlan} {id : Nat}
    (weavable : Weavable requests plans base first)
    (written : ∀ side, (phases side).Wrote (plans side) (wrote side))
    (woven : WovenBy base first wrote now) (own : plans side = some plan)
    (nothing : wrote side = .none) (fits : plan.target.Fits id now) :
    WovenBy base first (Function.update wrote side (.placed plan.target id))
      (now.write EndpointUpdate.apply plan.target id) := by
  apply woven.write nothing fits
  · rintro rfl row updates change
    exact weavable.old plan row updates own change
  · rintro rfl row updates more other change started endpoint
    obtain ⟨later, planned, target⟩ := (written side.other).target started
    exact weavable.changes plan later row updates more own planned change target endpoint

section Step

variable {handler : InstanceHandler} {requests : Side → AttachRequest}
  {plans : Side → Option AttachPlan} {base : Cmdb} {host : Row Columns} {first : Side}
  {before : Shared} {side : Side} {op : CmdbOp}

/-- The phase of a side after a call that succeeds. -/
theorem phase_called (admitted : before.db.admits op = true) :
    attachPhase ((before.called side op .ok).heard side) =
      (attachPhase (before.heard side)).next ⟨.cmdb op, .ok (before.db.rows op)⟩ := by
  rw [Shared.called, Shared.heard_move, attachPhase_append, answer_admitted admitted]

/-- The other side stays in its phase. -/
theorem phase_called_other {other : Side} (apart : other ≠ side) :
    attachPhase ((before.called side op .ok).heard other) = attachPhase (before.heard other) := by
  rw [Shared.called, Shared.heard_move_other _ _ _ _ apart]

/-- What the other side has written stays, and the own side has the strand
given. -/
theorem wrote_called {wrote : Side → AttachStrand} {strand : AttachStrand}
    (admitted : before.db.admits op = true)
    (written : ∀ side, (attachPhase (before.heard side)).Wrote (plans side) (wrote side))
    (own : ((attachPhase (before.heard side)).next ⟨.cmdb op, .ok (before.db.rows op)⟩).Wrote
      (plans side) strand) (other : Side) :
    (attachPhase ((before.called side op .ok).heard other)).Wrote (plans other)
      (Function.update wrote side strand other) := by
  by_cases same : other = side
  · subst same
    rw [phase_called admitted, Function.update_self]
    exact own
  · rw [phase_called_other same, Function.update_of_ne same]
    exact written other

/-- A call that reads keeps what was written, if the phase it leads to does. -/
theorem Weaving.reads (known : Weaving handler requests plans base host first before)
    (admitted : before.db.admits op = true) (reads : before.db.effect op = before.db)
    (keeps : ∀ strand, (attachPhase (before.heard side)).Wrote (plans side) strand →
      ((attachPhase (before.heard side)).next ⟨.cmdb op, .ok (before.db.rows op)⟩).Wrote
        (plans side) strand) :
    ∃ wrote : Side → AttachStrand,
      (∀ other, (attachPhase ((before.called side op .ok).heard other)).Wrote (plans other)
        (wrote other)) ∧ WovenBy base first wrote (before.db.effect op).tables ∧
          ((∀ side, wrote side = .none) → before.db.effect op = base) := by
  obtain ⟨wrote, written, woven, unchanged⟩ := known.written
  refine ⟨wrote, ?_, ?_, ?_⟩
  · intro other
    have after := wrote_called admitted written (keeps _ (written side)) other
    rwa [Function.update_eq_self] at after
  · rw [reads]
    exact woven
  · rw [reads]
    exact unchanged

/-- What an attach decided on the server it works on is its plan. -/
theorem Weaving.plan (known : Weaving handler requests plans base host first before)
    {server : ServerView} (works : (attachPhase (before.heard side)).server = some server)
    (clear : before.db.attached (requests side).ipAddr (requests side).hostUuid = []) :
    plans side =
      some (attachPlan (requests side) (base.prefixFor handler (requests side)) server) := by
  apply known.planned side server works
  rw [← known.addresses side, clear]
  intro attached
  rw [attached] at works
  cases works

/-- What is known of the writes after a call. -/
def WrittenAfter (plans : Side → Option AttachPlan) (base : Cmdb) (first : Side) (after : Shared) :
    Prop :=
  ∃ wrote : Side → AttachStrand,
    (∀ side, (attachPhase (after.heard side)).Wrote (plans side) (wrote side)) ∧
      WovenBy base first wrote after.db.tables ∧ ((∀ side, wrote side = .none) → after.db = base)

/-- A side that settles on its endpoint has carried out the first write of its plan. -/
theorem Weaving.places (known : Weaving handler requests plans base host first before)
    (weavable : Weavable requests plans base first) {server : ServerView} {plan : AttachPlan}
    {id : Nat} (phase : attachPhase (before.heard side) = .clear server)
    (admitted : before.db.admits op = true) (own : plans side = some plan)
    (fits : plan.target.Fits id before.db.tables)
    (effect : (before.db.effect op).tables =
      before.db.tables.write EndpointUpdate.apply plan.target id)
    (chosen : (Phase.clear server).next ⟨.cmdb op, .ok (before.db.rows op)⟩ = .chosen server id) :
    WrittenAfter plans base first (before.called side op .ok) := by
  obtain ⟨wrote, written, woven, -⟩ := known.written
  have nothing : wrote side = .none := by
    have started := written side
    rw [phase] at started
    exact started
  refine ⟨Function.update wrote side (.placed plan.target id), ?_, ?_, ?_⟩
  · apply wrote_called admitted written
    rw [phase, chosen]
    exact ⟨plan, own, rfl⟩
  · have placed := weavable.write written woven own nothing fits
    rw [← effect] at placed
    exact placed
  · intro unwritten
    have placed := unwritten side
    rw [Function.update_self] at placed
    cases placed

/-- A side that inserts its IP has carried out its plan to the end. The endpoint
is stored, so the insert is admitted; where the endpoint needed no update, the
plan is started and ended by this one call. -/
theorem Weaving.hangs (known : Weaving handler requests plans base host first before)
    (weavable : Weavable requests plans base first) {server : ServerView} {plan : AttachPlan}
    {id : Nat} (hangs : (attachPhase (before.heard side)).hangs (requests side) server id)
    (stored : before.db.HostEndpoint host.id id) (own : plans side = some plan)
    (planned : plan = attachPlan (requests side) (base.prefixFor handler (requests side)) server) :
    WrittenAfter plans base first
      (before.called side (.ipInsertOne (plan.ip.onEndpoint id)) .ok) := by
  obtain ⟨wrote, written, woven, -⟩ := known.written
  obtain ⟨endpoint, there, same, -⟩ := stored
  have admitted : before.db.admits (.ipInsertOne (plan.ip.onEndpoint id)) = true :=
    admits_ip ⟨endpoint, there, same⟩
  -- An endpoint that needs no update is placed without a call.
  obtain ⟨placing, placedWoven, placed, others⟩ : ∃ placing : Side → AttachStrand,
      WovenBy base first placing before.db.tables ∧ placing side = .placed plan.target id ∧
        ∀ strand, Function.update placing side strand = Function.update wrote side strand := by
    have started := written side
    rw [Phase.hangs] at hangs
    split at hangs
    · rename_i view chosen
      obtain ⟨rfl, phase | ⟨phase, none⟩⟩ := hangs
      · rw [phase, own] at started
        obtain ⟨_, ⟨⟩, placed⟩ := started
        exact ⟨wrote, woven, placed, fun _ => rfl⟩
      · rw [phase] at started
        have target : plan.target = .change view.id {} := by
          rw [planned, attachPlan]
          simp only [chosen, none]
        have fits : plan.target.Fits view.id before.db.tables := by
          rw [target, ← same]
          exact ⟨rfl, before.db.endpoints.serial endpoint there⟩
        have placed := weavable.write written woven own started fits
        rw [target, Cmdb.tables_unchanged, ← target] at placed
        refine ⟨_, placed, Function.update_self _ _ _, fun strand => ?_⟩
        rw [Function.update_idem]
    · rw [hangs, own] at started
      obtain ⟨_, ⟨⟩, placed⟩ := started
      exact ⟨wrote, woven, placed, fun _ => rfl⟩
  refine ⟨Function.update wrote side (.done plan.target id (plan.ip.onEndpoint id)), ?_, ?_, ?_⟩
  · apply wrote_called admitted written
    have attached : (attachPhase (before.heard side)).next
        ⟨.cmdb (.ipInsertOne (plan.ip.onEndpoint id)),
          .ok (before.db.rows (.ipInsertOne (plan.ip.onEndpoint id)))⟩ = .attached := rfl
    rw [attached, own]
    exact ⟨id, rfl⟩
  · have hung : WovenBy base first
        (Function.update placing side (.done plan.target id (plan.ip.onEndpoint id)))
        (before.db.tables.hang (plan.ip.onEndpoint id)) := placedWoven.hang placed
    rw [others, ← Cmdb.tables_insertIp ⟨endpoint, there, same⟩] at hung
    exact hung
  · intro unwritten
    have done := unwritten side
    rw [Function.update_self] at done
    cases done

/-- The look-up of the address finds it only where the plan is empty. -/
theorem Weaving.looks (known : Weaving handler requests plans base host first before)
    (weavable : Weavable requests plans base first) (row : AttachedIp)
    (found : before.db.rows (.ipSelectAttached (requests side).ipAddr (requests side).hostUuid) =
      some row) {strand : AttachStrand}
    (wrote : (attachPhase (before.heard side)).Wrote (plans side) strand) :
    Phase.attached.Wrote (plans side) strand := by
  have there := before.db.lookUp_some _ _ row found
  have held := known.holds side
  have empty : attachPhase (before.heard side) ≠ .attached → plans side = none := by
    intro waits
    apply weavable.attached side
    rw [← known.addresses side waits]
    exact there
  cases phase : attachPhase (before.heard side) with
  | attached =>
    rw [phase] at wrote
    exact wrote
  | chosen server id =>
    rw [phase] at held
    exact absurd held.2.1 there
  | clear server =>
    rw [phase] at held
    exact absurd held.2.1 there
  | idle =>
    rw [phase] at wrote
    rw [empty (by rw [phase]; exact fun same => nomatch same)]
    exact wrote
  | absent =>
    rw [phase] at wrote
    rw [empty (by rw [phase]; exact fun same => nomatch same)]
    exact wrote
  | read server =>
    rw [phase] at wrote
    rw [empty (by rw [phase]; exact fun same => nomatch same)]
    exact wrote

/-- Every call that the phase allows continues the weaving: reads keep it, and
each of the three writes adds its part. By cases on the call. -/
theorem Weaving.written_called (known : Weaving handler requests plans base host first before)
    (weavable : Weavable requests plans base first)
    (allowed : (attachPhase (before.heard side)).allows (requests side)
      (fun netPrefix => netPrefix = base.prefixFor handler (requests side)) op)
    (calm : op.reselects = false) : WrittenAfter plans base first (before.called side op .ok) := by
  have held := known.holds side
  cases op with
  | serverSelectOneByUuid uuid =>
    obtain ⟨rfl, idle⟩ := allowed
    apply known.reads rfl rfl
    intro strand nothing
    rw [idle] at nothing ⊢
    cases found : before.db.rows (.serverSelectOneByUuid (requests side).hostUuid) with
    | none => exact nothing
    | some server => exact nothing
  | ipSelectAttached address uuid =>
    obtain ⟨rfl, rfl⟩ := allowed
    apply known.reads rfl rfl
    intro strand wrote
    cases found : before.db.rows
        (.ipSelectAttached (requests side).ipAddr (requests side).hostUuid) with
    | some row => exact known.looks weavable row found wrote
    | none =>
      cases phase : attachPhase (before.heard side) with
      | _ =>
        rw [phase] at wrote
        exact wrote
  | datacenterSelectOne region => exact known.reads rfl rfl fun _ wrote => wrote
  | networkPrefixSelect dcName => exact known.reads rfl rfl fun _ wrote => wrote
  | endpointUpdate id updates =>
    obtain ⟨server, view, phase, chosen, rfl, rfl⟩ := allowed
    have works : (attachPhase (before.heard side)).server = some server := by
      rw [phase]
      rfl
    rw [phase] at held
    have own := known.plan works held.2.1
    obtain ⟨endpoint, there, same, -⟩ := held.2.2 view.id (by simp [Phase.pending, chosen])
    have target : (attachPlan (requests side) (base.prefixFor handler (requests side))
        server).target = .change view.id (endpointUpdates (requests side) view) := by
      simp only [attachPlan, chosen]
    refine known.places weavable phase rfl own ?_ ?_ rfl
    · rw [target, ← same]
      exact ⟨rfl, before.db.endpoints.serial endpoint there⟩
    · rw [target]
      exact Cmdb.tables_updateEndpoint _ _
  | endpointInsertOne columns =>
    obtain ⟨server, phase, unchosen, rfl⟩ := allowed
    have works : (attachPhase (before.heard side)).server = some server := by
      rw [phase]
      rfl
    rw [phase] at held
    have own := known.plan works held.2.1
    have present : ∃ row ∈ before.db.servers.rows,
        row.id = (attachColumns (requests side) server).serverId :=
      ⟨host, List.mem_of_find?_eq_some (known.located side), held.1.symm⟩
    have target : (attachPlan (requests side) (base.prefixFor handler (requests side))
        server).target = .insert (attachColumns (requests side) server) := by
      simp only [attachPlan, unchosen]
    refine known.places weavable phase (admits_endpoint present) own ?_ ?_ rfl
    · rw [target]
      exact rfl
    · rw [target]
      exact Cmdb.tables_insertEndpoint present
  | endpointSelectOne serverId key => cases calm
  | ipInsertOne columns =>
    obtain ⟨server, netPrefix, id, rfl, hangs, rfl⟩ := allowed
    obtain ⟨pending, phase⟩ := Phase.hangs_pending hangs
    have works : (attachPhase (before.heard side)).server = some server := by
      rcases phase with phase | phase
      · rw [phase]
        rfl
      · rw [phase]
        rfl
    have ready : before.db.attached (requests side).ipAddr (requests side).hostUuid = [] ∧
        before.db.HostEndpoint host.id id := by
      rcases phase with phase | phase
      · rw [phase] at held
        exact held.2
      · rw [phase] at held pending
        exact ⟨held.2.1, held.2.2 id pending⟩
    exact known.hangs weavable hangs ready.2 (known.plan works ready.1) rfl
  | _ => exact allowed.elim

/-- Until its own IP is there, no call of an attach attaches anything. By the
call: the look-ups change nothing, and endpoints without IPs carry no address.
-/
theorem allows_unattached {db : Cmdb} {request : AttachRequest} {phase : Phase}
    (allowed : phase.allows request (fun _ => True) op)
    (waits : phase.next ⟨.cmdb op, .ok (db.rows op)⟩ ≠ .attached) :
    phase ≠ .attached ∧
      ∀ address uuid, (db.effect op).attached address uuid = db.attached address uuid := by
  cases op with
  | serverSelectOneByUuid uuid =>
    rw [allowed.2]
    exact ⟨fun same => (nomatch same), fun _ _ => rfl⟩
  | ipSelectAttached address uuid =>
    refine ⟨?_, fun _ _ => rfl⟩
    rintro rfl
    apply waits
    cases found : db.rows (.ipSelectAttached address uuid) with
    | none => rfl
    | some row => rfl
  | datacenterSelectOne region => exact ⟨waits, fun _ _ => rfl⟩
  | networkPrefixSelect dcName => exact ⟨waits, fun _ _ => rfl⟩
  | endpointUpdate id updates =>
    obtain ⟨server, view, rfl, -⟩ := allowed
    exact ⟨fun same => (nomatch same), db.attached_updateEndpoint id updates⟩
  | endpointInsertOne columns =>
    obtain ⟨server, rfl, -⟩ := allowed
    exact ⟨fun same => (nomatch same), db.attached_insertEndpoint columns⟩
  | endpointSelectOne serverId key =>
    obtain ⟨server, rfl, -⟩ := allowed
    exact ⟨fun same => (nomatch same), fun _ _ => rfl⟩
  | ipInsertOne columns => exact absurd rfl waits
  | _ => exact allowed.elim

/-- The server that a side works on after its call is the one its plan is made for. -/
theorem Weaving.planned_called (known : Weaving handler requests plans base host first before)
    (allowed : (attachPhase (before.heard side)).allows (requests side) (fun _ => True) op)
    (agrees : ∀ uuid, op = .serverSelectOneByUuid uuid →
      before.db.decides handler (requests side) = plans side) {server : ServerView}
    (works : ((attachPhase (before.heard side)).next ⟨.cmdb op, .ok (before.db.rows op)⟩).server =
      some server)
    (clear : base.attached (requests side).ipAddr (requests side).hostUuid = []) :
    plans side =
      some (attachPlan (requests side) (base.prefixFor handler (requests side)) server) := by
  rcases Phase.next_server _ _ server works with old | ⟨uuid, event⟩
  · exact known.planned side server old clear
  · obtain ⟨ops, replies⟩ := Event.mk.inj event
    cases ops
    obtain ⟨rfl, idle⟩ := allowed
    have read := Except.ok.inj (eq_of_heq replies)
    have waits : attachPhase (before.heard side) ≠ .attached := by
      rw [idle]
      exact fun same => nomatch same
    have none := (known.addresses side waits).trans clear
    have view : before.db.rows (.serverSelectOneByUuid (requests side).hostUuid) =
        some (before.db.serverView host) := by
      simp [Cmdb.rows, known.located side]
    rw [view] at read
    rw [← agrees _ rfl, decides_located none (known.located side),
      prefixFor_reference handler (requests side) known.reference, Option.some.inj read]

/-- The step lemma for a call: everything known of both sides is known after it. -/
theorem Weaving.called (known : Weaving handler requests plans base host first before)
    (weavable : Weavable requests plans base first)
    (allowed : (attachPhase (before.heard side)).allows (requests side)
      (fun netPrefix => netPrefix = base.prefixFor handler (requests side)) op)
    (calm : op.reselects = false)
    (agrees : ∀ uuid, op = .serverSelectOneByUuid uuid →
      before.db.decides handler (requests side) = plans side) :
    Weaving handler requests plans base host first (before.called side op .ok) := by
  have any := allows_any allowed
  obtain ⟨admitted, held⟩ := (known.holds side).call (known.located side) any
  obtain ⟨servers, addresses⟩ := before.db.allows_leaves (weavable.apart side) any
  constructor
  · intro other
    have same : (before.called side op .ok).db.servers = before.db.servers := servers
    rw [same]
    exact known.located other
  · exact (before.db.effect_reference op).trans known.reference
  · exact unfailed_called known.unfailed side admitted
  · intro other
    by_cases own : other = side
    · subst own
      rw [phase_called admitted]
      exact held
    · rw [phase_called_other own]
      obtain rfl := Side.eq_other own
      apply (known.holds side.other).frame (addresses _)
      exact fun _ _ _ stored => hostEndpoint_attach any stored
  · intro other server works clear
    by_cases own : other = side
    · subst own
      rw [phase_called admitted] at works
      exact known.planned_called any agrees works clear
    · rw [phase_called_other own] at works
      exact known.planned other server works clear
  · intro other waits
    by_cases own : other = side
    · subst own
      rw [phase_called admitted] at waits
      obtain ⟨waited, leaves⟩ := allows_unattached any waits
      exact (leaves _ _).trans (known.addresses other waited)
    · rw [phase_called_other own] at waits
      obtain rfl := Side.eq_other own
      exact (addresses _).trans (known.addresses side.other waits)
  · exact known.written_called weavable allowed calm

/-- An event that is no call, and starts no attempt after the first. -/
theorem Weaving.recorded (known : Weaving handler requests plans base host first before)
    {event : Event} (noCall : event.isCall = false)
    (calm : event.resumes = true → before.heard side = []) :
    Weaving handler requests plans base host first (before.move side event before.db) := by
  have phases : ∀ other, attachPhase ((before.move side event before.db).heard other) =
      attachPhase (before.heard other) := by
    intro other
    by_cases own : other = side
    · subst own
      obtain ⟨op, reply⟩ := event
      rw [before.heard_move, attachPhase_append]
      cases op with
      | cmdb op => cases noCall
      | started message =>
        rw [calm rfl]
        rfl
      | ack => rfl
      | nack => rfl
    · rw [before.heard_move_other _ _ _ own]
  constructor
  · exact known.located
  · exact known.reference
  · intro other
    by_cases own : other = side
    · subst own
      obtain ⟨op, reply⟩ := event
      rw [before.heard_move, List.any_append, known.unfailed other]
      cases op with
      | cmdb op => cases noCall
      | _ => rfl
    · rw [before.heard_move_other _ _ _ own]
      exact known.unfailed other
  · intro other
    rw [phases]
    exact known.holds other
  · intro other server works clear
    rw [phases] at works
    exact known.planned other server works clear
  · intro other waits
    rw [phases] at waits
    exact known.addresses other waits
  · obtain ⟨wrote, written, rest⟩ := known.written
    refine ⟨wrote, fun other => ?_, rest⟩
    rw [phases]
    exact written other

end Step

/-! ## Whole runs -/

/-- The step lemma for an event of either side, call or not. The phases are
followed by the rule on the history. -/
theorem Weaving.step {handler : InstanceHandler} {requests : Side → AttachRequest}
    {plans : Side → Option AttachPlan} {base : Cmdb} {host : Row Columns} {first side : Side}
    {before after : Shared} {op : ServiceOp} {reply : op.Reply}
    (known : Weaving handler requests plans base host first before)
    (weavable : Weavable requests plans base first)
    (agrees : ∀ uuid, op = .cmdb (.serverSelectOneByUuid uuid) →
      attachPhase (before.heard side) = .idle →
        before.db.decides handler (requests side) = plans side)
    (step : racing noFaults side op before reply after)
    (followed : Justified (calmRule (fun netPrefix =>
      netPrefix = base.prefixFor handler (requests side)) (requests side)) (after.heard side)) :
    Weaving handler requests plans base host first after := by
  have begins : ∀ event : Event, (event.resumes = true →
      before.heard side = [] ∨ (before.heard side).any Event.failed = true) →
        event.resumes = true → before.heard side = [] := by
    intro event rule resumes
    refine (rule resumes).resolve_right fun failed => ?_
    rw [known.unfailed side] at failed
    cases failed
  revert followed
  apply racing_keeps (fun _ after => Justified (calmRule (fun netPrefix =>
    netPrefix = base.prefixFor handler (requests side)) (requests side)) (after.heard side) →
      Weaving handler requests plans base host first after) ?_ ?_ step
  · rintro call outcome rfl rfl followed
    rw [Shared.called, Shared.heard_move] at followed
    obtain ⟨-, allowed, resumes⟩ := justified_append.mp followed
    apply known.called weavable allowed
    · -- A re-select would be the first event, and it comes with a server that was read.
      cases call with
      | endpointSelectOne serverId key =>
        obtain ⟨server, phase, -⟩ := allowed
        have nothing := begins _ resumes rfl
        rw [nothing] at phase
        cases phase
      | _ => rfl
    · rintro uuid rfl
      exact agrees uuid rfl allowed.2
  · intro event _ noCall followed
    rw [Shared.heard_move] at followed
    exact known.recorded noCall (begins event (justified_append.mp followed).2.2)

/-- At the start nothing is written and nothing is known. -/
theorem weaving_start {handler : InstanceHandler} {requests : Side → AttachRequest}
    {plans : Side → Option AttachPlan} {base : Cmdb} {host : Row Columns} {first : Side}
    (located : ∀ side, base.servers.rows.find? (fun server =>
      hasUuid server (requests side).hostUuid) = some host) :
    Weaving handler requests plans base host first (Shared.start base) := by
  refine ⟨located, rfl, fun _ => rfl, fun _ => trivial, ?_, fun _ _ => rfl, ?_⟩
  · intro side server works
    cases works
  · exact ⟨fun _ => .none, fun _ => rfl, woven_refl _, fun _ => rfl⟩

/-- Two attaches to a registered host, with attempts and confirmations left. -/
structure TwoAttaches (worker : MessageHandlerService) (messages : Side → Message)
    (requests : Side → AttachRequest) : Prop where
  attempts : 0 < worker.maxRetries
  confirms : 0 < worker.ackRetries
  attaches : ∀ side, (messages side).actionType = some "attach"
  reads : ∀ side, worker.handler.readAttach (messages side) = .ok (some (requests side))
  uuid : (requests .left).hostUuid = (requests .right).hostUuid
  apart : (requests .left).ipAddr ≠ (requests .right).ipAddr

/-- If every attach that reads the server decides on its plan, the plans are what is written. -/
theorem attaches_weave {worker : MessageHandlerService} {messages : Side → Message}
    {requests : Side → AttachRequest} {plans : Side → Option AttachPlan} {base : Cmdb}
    {host : Row Columns} {first : Side} {env : Side → Env service Shared} {state : FieldErrors}
    {last : Shared} {rests : Side → Prog service (Except Exn Unit × FieldErrors)}
    (attaching : TwoAttaches worker messages requests)
    (weavable : Weavable requests plans base first)
    (located : ∀ side, base.servers.rows.find? (fun server =>
      hasUuid server (requests side).hostUuid) = some host)
    (within : ∀ side op before reply after, env side op before reply after →
      racing noFaults side op before reply after)
    (agrees : ∀ side uuid before reply after,
      Weaving worker.handler requests plans base host first before →
        env side (.cmdb (.serverSelectOneByUuid uuid)) before reply after →
          attachPhase (before.heard side) = .idle →
            before.db.decides worker.handler (requests side) = plans side)
    (interleaved : Interleaved env (Shared.start base)
      (tasks worker (fun side => .ok (messages side)) state) last rests) :
    Weaving worker.handler requests plans base host first last ∧
      ∀ side value, rests side = .done value →
        attachPhase (last.heard side) = .attached ∧ Acked (last.heard side) := by
  have prefixed : ∀ side state (current : World), current.db = base →
      (worker.handler.attachPrefix (requests side)).Ensures (unsteady noFaults) (fun _ => True)
        (fun result _ _ => ∀ netPrefix, result = .ok netPrefix →
          netPrefix = base.prefixFor worker.handler (requests side)) state current := by
    rintro side state current rfl
    have only : (worker.handler.attachPrefix (requests side)).Only
        (calls fun op => op.ofReference = true) := attachPrefix_only rfl fun _ => rfl
    apply unsteady_reference only
    refine (attachPrefix_reads worker.handler (requests side)).mono ?_
    rintro result final after answered netPrefix found
    rw [answered] at found
    exact (Except.ok.inj found).symm
  obtain ⟨⟨known, -⟩, ends⟩ := tasks_settled
    (fun side => calmRule (fun netPrefix =>
      netPrefix = base.prefixFor worker.handler (requests side)) (requests side))
    (Weaving worker.handler requests plans base host first) _ within
    (fun side op before reply after known step _ followed => known.step weavable
      (fun uuid reads idle => by
        subst reads
        exact agrees side uuid before reply after known step idle) (within _ _ _ _ _ step) followed)
    (weaving_start located)
    (fun side => attach_settles_calm attaching.attempts attaching.confirms
      (attaching.attaches side) (attaching.reads side) (prefixed side)) interleaved
  refine ⟨known, ?_⟩
  intro side value ended
  have unfailed : ¬ Failed (last.known base side) := by
    intro failed
    rw [Failed, Shared.known, known.unfailed side] at failed
    cases failed
  obtain ⟨finished, acked⟩ :=
    (ends side value ended).resolve_right fun nacked => unfailed nacked.1.2
  refine ⟨?_, acked⟩
  rcases finished with absent | attached
  · have held := known.holds side
    have missing : attachPhase (last.heard side) = .absent := absent.phase
    rw [missing] at held
    exact held.elim
  · exact attached.phase

/-! ## One message alone -/

/-- The store after a message that nobody disturbs, with every call succeeding. -/
def MessageHandlerService.alone (worker : MessageHandlerService) (message : Message)
    (db : Cmdb) : Cmdb :=
  (Action.run (World.answer .ok) (worker.handleMessage (.ok message)) {} ⟨db, []⟩).2.db

/-- A scripted move of one side is what the side alone would do to its view. -/
theorem scripted_view (side : Side) (op : service.Op) (shared : Shared) :
    (Shared.scripted faultless side op shared).1 = ((shared.view side).answer .ok op).1 ∧
      (Shared.scripted faultless side op shared).2.view side =
        ((shared.view side).answer .ok op).2 := by
  refine ⟨rfl, ?_⟩
  rw [Shared.scripted, Shared.view, Shared.heard_move]
  cases op with
  | _ => rfl

/-- What a message does that runs alone is what it does beside one that waits. -/
theorem run_view {α : Type} (side : Side) (program : Prog service α) (shared : Shared) :
    ((program.run (Shared.scripted faultless side) shared).2).view side =
      (program.run (fun op world => world.answer .ok op) (shared.view side)).2 := by
  induction program generalizing shared with
  | done value => rfl
  | call op next ih =>
    obtain ⟨reply, after⟩ := scripted_view side op shared
    rw [Prog.run, Prog.run, ih, after, reply]

/-- One that waits has heard nothing. By induction on the program that runs. -/
theorem run_heard_other {α : Type} {side other : Side} (program : Prog service α) (shared : Shared)
    (apart : other ≠ side) :
    ((program.run (Shared.scripted faultless side) shared).2).heard other = shared.heard other := by
  induction program generalizing shared with
  | done value => rfl
  | call op next ih =>
    rw [Prog.run, ih]
    exact shared.heard_move_other side _ _ apart

/-- Where an attach that runs alone leaves the store: its plan is carried out. -/
structure AloneEnd (handler : InstanceHandler) (requests : Side → AttachRequest) (base : Cmdb)
    (host : Row Columns) (side : Side) (after : Cmdb) : Prop where
  located : ∀ other, after.servers.rows.find? (fun server =>
    hasUuid server (requests other).hostUuid) = some host
  other : after.attached (requests side.other).ipAddr (requests side.other).hostUuid =
    base.attached (requests side.other).ipAddr (requests side.other).hostUuid
  written : ∃ strand : AttachStrand,
    Phase.attached.Wrote (base.decides handler (requests side)) strand ∧
      Woven EndpointUpdate.apply base.tables strand .none after.tables

/-- The two attaches are about different addresses, seen from either side. -/
theorem TwoAttaches.addresses {worker : MessageHandlerService} {messages : Side → Message}
    {requests : Side → AttachRequest} (attaching : TwoAttaches worker messages requests)
    (side : Side) : (requests side).ipAddr ≠ (requests side.other).ipAddr := by
  cases side with
  | left => exact attaching.apart
  | right => exact attaching.apart.symm

/-- A side alone decides on the store as it was, for the other one writes nothing. -/
theorem attach_alone {worker : MessageHandlerService} {messages : Side → Message}
    {requests : Side → AttachRequest} {base : Cmdb} {host : Row Columns}
    (attaching : TwoAttaches worker messages requests)
    (located : ∀ side, base.servers.rows.find? (fun server =>
      hasUuid server (requests side).hostUuid) = some host) (side : Side) :
    AloneEnd worker.handler requests base host side (worker.alone (messages side) base) := by
  let plans : Side → Option AttachPlan :=
    Function.update (fun _ => none) side (base.decides worker.handler (requests side))
  let program := tasks worker (fun side => .ok (messages side)) {} side
  let last := (program.run (Shared.scripted faultless side) (Shared.start base)).2
  have own : plans side = base.decides worker.handler (requests side) := Function.update_self _ _ _
  have others : plans side.other = none := Function.update_of_ne side.other_ne _ _
  have weavable : Weavable requests plans base side := by
    constructor
    · exact attaching.addresses
    · intro other attached
      by_cases same : other = side
      · subst same
        rw [own]
        exact decides_attached attached
      · rw [Side.eq_other same]
        exact others
    · intro plan id updates planned change
      rw [own] at planned
      obtain ⟨endpoint, stored, rfl, -⟩ := decides_change planned change
      exact base.endpoints.serial endpoint stored
    · intro plan later id updates more planned plannedLater
      rw [others] at plannedLater
      cases plannedLater
  let env : Side → Env service Shared :=
    fun other => (racing noFaults other).meeting (fun _ _ => other = side)
  have run : Prog.Ends (env side) (Shared.start base) program
      (program.run (Shared.scripted faultless side) (Shared.start base)).1 last :=
    Prog.run_ends (fun op before => ⟨rfl, faultless_racing side op before⟩) program _
  have undecided : ∀ other uuid before reply after,
      Weaving worker.handler requests plans base host side before →
        env other (.cmdb (.serverSelectOneByUuid uuid)) before reply after →
          attachPhase (before.heard other) = .idle →
            before.db.decides worker.handler (requests other) = plans other := by
    rintro other uuid before reply after known ⟨rfl, -⟩ idle
    obtain ⟨wrote, written, -, unchanged⟩ := known.written
    have same : before.db = base := by
      apply unchanged
      intro either
      have strand := written either
      by_cases mine : either = other
      · rw [mine, idle] at strand
        rw [mine]
        exact strand
      · obtain rfl := Side.eq_other mine
        rw [others] at strand
        exact strand.nothing
    rw [own, same]
  obtain ⟨known, ends⟩ := attaches_weave attaching weavable located
    (fun _ _ _ _ _ step => step.2) undecided (Interleaved.stretch rfl run)
  have attached := (ends side _ (Function.update_self _ _ _)).1
  have same : last.db = worker.alone (messages side) base :=
    congrArg World.db (run_view side program (Shared.start base))
  obtain ⟨wrote, written, woven, -⟩ := known.written
  have strand := written side
  have nothing := written side.other
  rw [attached, own] at strand
  rw [others] at nothing
  rw [WovenBy, nothing.nothing] at woven
  have waits : attachPhase (last.heard side.other) ≠ .attached := by
    have heard : last.heard side.other = [] := run_heard_other program _ side.other_ne
    rw [heard]
    exact fun same => nomatch same
  rw [← same]
  exact ⟨known.located, known.addresses side.other waits, wrote side, strand, woven⟩

/-! ## The types of the addresses -/

/-- The types of a server's addresses can be read from its contents: they are
the types of the IPs under its endpoints, whatever ids these have. -/
theorem ipTypes_contents (db : Cmdb) (serverId : Nat) :
    (↑(db.ipTypes serverId) : Multiset (Option String)) =
      (db.contents.filter (fun entry => entry.1.serverId = serverId)).bind
        (fun entry => entry.2.map Ip.type) := by
  have distinct : ((db.endpointsOf serverId).map Row.id).Nodup :=
    db.endpoints.distinct.sublist (List.filter_sublist.map Row.id)
  have rows : db.tables.rows.filter (fun row => row.data.serverId = serverId) =
      ↑(db.endpointsOf serverId) := Multiset.filter_coe _ _
  have types : ∀ id, (dependents Ip.networkEndpointId Ip.withoutEndpoint db.tables.children id).map
      Ip.type = dependents Ip.networkEndpointId Ip.type db.tables.children id :=
    fun _ => Multiset.map_map _ _ _
  have own : (db.contents.filter (fun entry => entry.1.serverId = serverId)).bind
      (fun entry => entry.2.map Ip.type) =
      (↑(db.endpointsOf serverId) : Multiset (Row Endpoint)).bind
        (fun row => dependents Ip.networkEndpointId Ip.type db.tables.children row.id) := by
    rw [Cmdb.contents, Store.contents, Multiset.filter_map, Multiset.bind_map, ← rows]
    exact Multiset.bind_congr fun row _ => types row.id
  rw [own, dependents_bind _ distinct, Cmdb.tables]
  simp only [Multiset.filter_coe, Multiset.map_coe, List.filter_map, List.map_map]
  rw [Cmdb.ipTypes]
  congr 2
  apply List.filter_congr
  intro ip _
  simp [Cmdb.onServer, List.any_eq]

/-- Stores with the same contents bound the types of a server alike. -/
theorem OneOfEach.contents {db other : Cmdb} (single : OneOfEach db)
    (same : other.contents = db.contents) : OneOfEach other := by
  intro serverId type either
  have types : (↑(other.ipTypes serverId) : Multiset (Option String)) =
      ↑(db.ipTypes serverId) := by
    rw [ipTypes_contents, ipTypes_contents, same]
  rw [(Multiset.coe_eq_coe.mp types).count_eq]
  exact single serverId type either

/-- An attach that runs alone gives no server a second `be` or `fe` address, as
the bound for a whole run of messages says of this one. -/
theorem OneOfEach.alone {db : Cmdb} (single : OneOfEach db) (worker : MessageHandlerService)
    {message : Message} (attach : message.actionType = some "attach") :
    OneOfEach (worker.alone message db) := by
  have records := (faulty_within noFaults).records
  have kept : (worker.handleMessage (.ok message)).Ensures (faulty noFaults) Bounded
      (fun _ _ after => Bounded after) {} ⟨db, []⟩ := by
    apply MessageHandlerService.handleMessage_keeps records Bounded
    · intro state world bounded
      have started : Bounded (world.record ⟨.started message, ()⟩) := bounded
      apply MessageHandlerService.processDelivery_ensures records started
      rw [worker.handler.dispatch_attach attach]
      refine attachToInstances_bounded message ?_ started
      rintro op outcome rfl
      trivial
    · exact fun _ _ _ held => ⟨held, held⟩
    · exact single
  exact kept.at_end (Prog.run_ends faultless_possible _ _)

/-! ## Both messages -/

/-- The store on which a side decides when the messages run one after the other. -/
def serialBase (worker : MessageHandlerService) (messages : Side → Message) (db : Cmdb)
    (first side : Side) : Cmdb :=
  if side = first then db else worker.alone (messages first) db

/-- The store after one message and then the other, each alone. -/
def serially (worker : MessageHandlerService) (messages : Side → Message) (db : Cmdb)
    (first : Side) : Cmdb :=
  worker.alone (messages first.other) (worker.alone (messages first) db)

/-- The side that reads the server decides on it as it does on this store. -/
def decidesAs (handler : InstanceHandler) (request : AttachRequest) (serial : Cmdb)
    (op : service.Op) (shared : Shared) : Bool :=
  match op with
  | .cmdb (.serverSelectOneByUuid _) =>
      decide (shared.db.decides handler request = serial.decides handler request)
  | _ => true

/-- The runs without failing calls in which both decide as in the serial run. -/
def deciding (worker : MessageHandlerService) (messages : Side → Message)
    (requests : Side → AttachRequest) (db : Cmdb) (first side : Side) : Env service Shared :=
  (racing noFaults side).meeting (fun op shared => decidesAs worker.handler (requests side)
    (serialBase worker messages db first side) op shared = true)

/-- Two ends of one plan differ in the id of the endpoint at most. -/
theorem wrote_alike {plan : Option AttachPlan} {strand twin : AttachStrand}
    (wrote : Phase.attached.Wrote plan strand) (wroteTwin : Phase.attached.Wrote plan twin) :
    strand.Alike Ip.networkEndpointId Ip.withoutEndpoint twin := by
  cases plan with
  | none =>
    rw [Phase.Wrote.nothing wrote, Phase.Wrote.nothing wroteTwin]
    exact .none
  | some own =>
    obtain ⟨id, rfl⟩ := wrote
    obtain ⟨other, rfl⟩ := wroteTwin
    exact .done own.target rfl rfl rfl

/-- The address of the request is there, on an endpoint with the mac of the request. -/
def Cmdb.Carries (db : Cmdb) (request : AttachRequest) : Prop :=
  ∃ ip ∈ db.ips.rows, ip.data.ip = request.ipAddr ∧
    ∃ endpoint ∈ db.endpoints.rows, endpoint.id = ip.data.networkEndpointId ∧
      endpoint.data.mac = request.mac

section Macs

variable {handler : InstanceHandler} {decided : Cmdb} {request : AttachRequest}
  {strand : AttachStrand} {rows : Multiset (Row Endpoint)}

/-- An attach leaves the macs alone that were there when it decided: what it has
written so far is its plan's first write, or nothing. -/
theorem wrote_keeps_mac
    (wrote : Phase.attached.Wrote (decided.decides handler request) strand)
    (seen : ∀ id updates row, strand.target = some (.change id updates, row) →
      rows = decided.tables.rows)
    {endpoint : Row Endpoint} (stored : endpoint ∈ rows)
    (filled : truthy endpoint.data.mac = true) :
    ∃ kept ∈ strand.place EndpointUpdate.apply rows,
      kept.id = endpoint.id ∧ kept.data.mac = endpoint.data.mac := by
  cases started : strand.target with
  | none =>
    rw [Strand.place, started]
    exact ⟨endpoint, stored, rfl, rfl⟩
  | some entry =>
    obtain ⟨target, row⟩ := entry
    obtain ⟨plan, planned, rfl⟩ := wrote.target started
    rw [Strand.place, started]
    apply decides_keeps_mac planned ?_ stored filled
    intro other updates change
    exact seen other updates row (started.trans (by rw [change]))

/-- An attach hangs its IP on an endpoint with the mac of its request. -/
theorem wrote_mac {plan : AttachPlan} {base now : Tables Endpoint Ip}
    (planned : decided.decides handler request = some plan)
    (wrote : Phase.attached.Wrote (decided.decides handler request) strand)
    (sound : strand.Sound base now)
    (seen : ∀ id updates row, strand.target = some (.change id updates, row) →
      rows = decided.tables.rows)
    (named : truthy request.mac = true) :
    ∃ ip ∈ strand.children, ip.ip = request.ipAddr ∧
      ∃ endpoint ∈ strand.place EndpointUpdate.apply rows,
        endpoint.id = ip.networkEndpointId ∧ endpoint.data.mac = request.mac := by
  rw [planned] at wrote
  obtain ⟨id, rfl⟩ := wrote
  refine ⟨plan.ip.onEndpoint id, Multiset.mem_singleton_self _, decides_ip planned, ?_⟩
  apply decides_mac planned named
  intro other updates change
  rw [Strand.Sound, Strand.target, change] at sound
  exact ⟨sound.1, seen other updates id (by rw [Strand.target, change])⟩

end Macs

section Both

variable {worker : MessageHandlerService} {messages : Side → Message}
  {requests : Side → AttachRequest} {db : Cmdb} {host : Row Columns} {first : Side}

/-- The plans of the serial run can be carried out in any order. -/
theorem serial_weavable (attaching : TwoAttaches worker messages requests)
    (alone : AloneEnd worker.handler requests db host first (worker.alone (messages first) db)) :
    Weavable requests (fun side => (serialBase worker messages db first side).decides
      worker.handler (requests side)) db first := by
  have own : serialBase worker messages db first first = db := if_pos rfl
  have later : serialBase worker messages db first first.other =
      worker.alone (messages first) db := if_neg first.other_ne
  constructor
  · exact attaching.addresses
  · intro side attached
    by_cases same : side = first
    · subst same
      simp only [own]
      exact decides_attached attached
    · obtain rfl := Side.eq_other same
      simp only [later]
      apply decides_attached
      rw [alone.other]
      exact attached
  · intro plan id updates planned change
    simp only [own] at planned
    obtain ⟨endpoint, stored, rfl, -⟩ := decides_change planned change
    exact db.endpoints.serial endpoint stored
  · intro plan second id updates more planned plannedLater change changeLater endpoint
    simp only [own] at planned
    simp only [later] at plannedLater
    obtain ⟨strand, wrote, woven⟩ := alone.written
    rw [planned] at wrote
    obtain ⟨row, rfl⟩ := wrote
    have sound := woven.innerSound
    simp only [Strand.Sound, Strand.target, change] at sound
    have rows : (worker.alone (messages first) db).tables.rows =
        plan.target.place EndpointUpdate.apply id db.tables.rows := by
      rw [← sound.1]
      exact woven.rows
    exact changes_comm planned change rows plannedLater changeLater endpoint

/-- An interleaving and the serial run carry out the same plans. -/
structure SamePlans (worker : MessageHandlerService) (messages : Side → Message)
    (requests : Side → AttachRequest) (db : Cmdb) (first : Side)
    (inner outer innerTwin outerTwin : AttachStrand) (last : Cmdb) : Prop where
  innerWrote : Phase.attached.Wrote (db.decides worker.handler (requests first)) inner
  innerTwinWrote : Phase.attached.Wrote (db.decides worker.handler (requests first)) innerTwin
  outerWrote : Phase.attached.Wrote ((worker.alone (messages first) db).decides worker.handler
    (requests first.other)) outer
  outerTwinWrote : Phase.attached.Wrote ((worker.alone (messages first) db).decides worker.handler
    (requests first.other)) outerTwin
  woven : Woven EndpointUpdate.apply db.tables inner outer last.tables
  alone : Woven EndpointUpdate.apply db.tables innerTwin .none
    (worker.alone (messages first) db).tables
  serial : Woven EndpointUpdate.apply db.tables innerTwin outerTwin
    (serially worker messages db first).tables

/-- At the end of both messages each side has written its plan, in the
interleaving and in the serial run, and the plans are the same. -/
theorem serial_plans (attaching : TwoAttaches worker messages requests)
    (located : ∀ side, db.servers.rows.find? (fun server =>
      hasUuid server (requests side).hostUuid) = some host) {state : FieldErrors} {last : Shared}
    {values : Side → Except Exn Unit × FieldErrors}
    (interleaved : Interleaved (deciding worker messages requests db first) (Shared.start db)
      (tasks worker (fun side => .ok (messages side)) state) last
      (fun side => .done (values side))) :
    (∀ side, Acked (last.heard side)) ∧ ∃ inner outer innerTwin outerTwin,
      SamePlans worker messages requests db first inner outer innerTwin outerTwin last.db := by
  have alone := attach_alone attaching located first
  have second := attach_alone attaching alone.located first.other
  have own : serialBase worker messages db first first = db := if_pos rfl
  have later : serialBase worker messages db first first.other =
      worker.alone (messages first) db := if_neg first.other_ne
  obtain ⟨known, ends⟩ := attaches_weave attaching (serial_weavable attaching alone) located
    (fun _ _ _ _ _ step => step.2)
    (fun side uuid before reply after _ step _ => of_decide_eq_true step.1) interleaved
  refine ⟨fun side => (ends side _ rfl).2, ?_⟩
  obtain ⟨wrote, written, woven, -⟩ := known.written
  obtain ⟨innerTwin, innerWrote, one⟩ := alone.written
  obtain ⟨outerTwin, outerWrote, two⟩ := second.written
  have inner := written first
  have outer := written first.other
  rw [(ends first _ rfl).1, own] at inner
  rw [(ends first.other _ rfl).1, later] at outer
  exact ⟨wrote first, wrote first.other, innerTwin, outerTwin, inner, innerWrote, outer,
    outerWrote, woven, one, one.follow two⟩

section Consequences

variable {inner outer innerTwin outerTwin : AttachStrand} {last : Cmdb}

/-- Same plans, same contents: the ids that were given may differ, and nothing
else. -/
theorem SamePlans.contents
    (same : SamePlans worker messages requests db first inner outer innerTwin outerTwin last) :
    last.contents = (serially worker messages db first).contents :=
  same.woven.contents_eq Ip.determined Cmdb.tables_sound same.serial
    (wrote_alike same.innerWrote same.innerTwinWrote)
    (wrote_alike same.outerWrote same.outerTwinWrote)

/-- Where the second attach changes a row, it decided on the rows that the first one left. -/
theorem SamePlans.seen
    (same : SamePlans worker messages requests db first inner outer innerTwin outerTwin last)
    {id row : Nat} {updates : EndpointUpdate}
    (started : outer.target = some (.change id updates, row)) :
    inner.place EndpointUpdate.apply db.tables.rows =
      (worker.alone (messages first) db).tables.rows := by
  -- The outer side inserts nothing, so the inner one has placed the row it places alone.
  have single : inner.inserted + outer.inserted ≤ 1 := by
    have few := inner.inserted_le
    have none : outer.inserted = 0 := by
      rw [Strand.inserted, started]
      rfl
    omega
  obtain ⟨rfl, -⟩ := same.woven.alike_eq Ip.determined same.serial
    (wrote_alike same.innerWrote same.innerTwinWrote)
    (wrote_alike same.outerWrote same.outerTwinWrote) single
  exact same.alone.rows.symm

/-- No mac is overwritten, since every first write keeps a mac that is there. -/
theorem SamePlans.macs
    (same : SamePlans worker messages requests db first inner outer innerTwin outerTwin last)
    {endpoint : Row Endpoint} (stored : endpoint ∈ db.endpoints.rows)
    (filled : truthy endpoint.data.mac = true) :
    ∃ kept ∈ last.endpoints.rows, kept.id = endpoint.id ∧ kept.data.mac = endpoint.data.mac := by
  obtain ⟨middle, placed, id, mac⟩ := wrote_keeps_mac same.innerWrote (fun _ _ _ _ => rfl)
    (Multiset.mem_coe.mpr stored) filled
  obtain ⟨kept, there, keptId, keptMac⟩ :=
    wrote_keeps_mac same.outerWrote (fun _ _ _ => same.seen) placed (mac ▸ filled)
  rw [← same.woven.rows] at there
  exact ⟨kept, Multiset.mem_coe.mp there, keptId.trans id, keptMac.trans mac⟩

/-- Both addresses end on endpoints with the macs of their requests, if both
attaches carry out the plans they would have alone. The mac is there after the
write of the plan it belongs to, and the other write leaves it. -/
theorem SamePlans.carries (attaching : TwoAttaches worker messages requests)
    (located : ∀ side, db.servers.rows.find? (fun server =>
      hasUuid server (requests side).hostUuid) = some host)
    (same : SamePlans worker messages requests db first inner outer innerTwin outerTwin last)
    (side : Side) (clear : db.attached (requests side).ipAddr (requests side).hostUuid = [])
    (named : truthy (requests side).mac = true) : last.Carries (requests side) := by
  have alone := attach_alone attaching located first
  have stored : ∀ ip, ip ∈ db.tables.children + inner.children + outer.children →
      ∃ row ∈ last.ips.rows, row.data = ip := by
    intro ip member
    rw [← same.woven.children] at member
    exact List.mem_map.mp (Multiset.mem_coe.mp member)
  have there : ∀ endpoint, endpoint ∈ outer.place EndpointUpdate.apply
      (inner.place EndpointUpdate.apply db.tables.rows) → endpoint ∈ last.endpoints.rows := by
    intro endpoint member
    rw [← same.woven.rows] at member
    exact Multiset.mem_coe.mp member
  by_cases own : side = first
  · subst own
    obtain ⟨ip, added, address, endpoint, placed, hangs, mac⟩ := wrote_mac
      (decides_located clear (located side)) same.innerWrote same.woven.innerSound
      (fun _ _ _ _ => rfl) named
    obtain ⟨row, present, rfl⟩ :=
      stored ip (Multiset.mem_add.mpr (Or.inl (Multiset.mem_add.mpr (Or.inr added))))
    obtain ⟨kept, still, keptId, keptMac⟩ :=
      wrote_keeps_mac same.outerWrote (fun _ _ _ => same.seen) placed (mac ▸ named)
    exact ⟨row, present, address, kept, there kept still, keptId.trans hangs, keptMac.trans mac⟩
  · obtain rfl := Side.eq_other own
    rw [← alone.other] at clear
    obtain ⟨ip, added, address, endpoint, placed, hangs, mac⟩ := wrote_mac
      (decides_located clear (alone.located first.other)) same.outerWrote same.woven.outerSound
      (fun _ _ _ => same.seen) named
    obtain ⟨row, present, rfl⟩ := stored ip (Multiset.mem_add.mpr (Or.inr added))
    exact ⟨row, present, address, endpoint, there endpoint placed, hangs, mac⟩

end Consequences

end Both

/-- Both messages are acked and leave what they leave one after the other: the same endpoints
with the same IPs up to row ids, every mac as it was, each new address on an endpoint with the
mac of its request, and no second `be` or `fe` address. -/
structure Serialized (worker : MessageHandlerService) (messages : Side → Message)
    (requests : Side → AttachRequest) (db : Cmdb) (first : Side) (last : Shared) : Prop where
  acked : ∀ side, Acked (last.heard side)
  contents : last.db.contents = (serially worker messages db first).contents
  macs : ∀ endpoint ∈ db.endpoints.rows, truthy endpoint.data.mac = true →
    ∃ kept ∈ last.db.endpoints.rows, kept.id = endpoint.id ∧ kept.data.mac = endpoint.data.mac
  carries : ∀ side, db.attached (requests side).ipAddr (requests side).hostUuid = [] →
    truthy (requests side).mac = true → last.db.Carries (requests side)
  types : OneOfEach db → OneOfEach last.db

/-- Two attaches to a registered host, without failing calls and with attempts left: in every
interleaving in which each decides, when it reads the server, as it does in the serial run in
one order, both are acked and leave what this serial run leaves. -/
theorem attaches_serialize (worker : MessageHandlerService) (messages : Side → Message)
    (requests : Side → AttachRequest) (db : Cmdb) (first : Side)
    (attaching : TwoAttaches worker messages requests)
    (registered : db.servers.rows.any (fun server =>
      hasUuid server (requests .left).hostUuid) = true)
    (state : FieldErrors) (last : Shared) (values : Side → Except Exn Unit × FieldErrors)
    (interleaved : Interleaved (deciding worker messages requests db first) (Shared.start db)
      (tasks worker (fun side => .ok (messages side)) state) last
      (fun side => .done (values side))) :
    Serialized worker messages requests db first last := by
  rw [List.any_eq_true, ← List.find?_isSome, Option.isSome_iff_exists] at registered
  obtain ⟨host, found⟩ := registered
  have located : ∀ side, db.servers.rows.find? (fun server =>
      hasUuid server (requests side).hostUuid) = some host := by
    intro side
    cases side with
    | left => exact found
    | right => exact attaching.uuid ▸ found
  obtain ⟨acked, inner, outer, innerTwin, outerTwin, same⟩ :=
    serial_plans attaching located interleaved
  constructor
  · exact acked
  · exact same.contents
  · exact fun endpoint stored filled => same.macs stored filled
  · exact same.carries attaching located
  · intro single
    have serial := (single.alone worker (attaching.attaches first)).alone worker
      (attaching.attaches first.other)
    exact serial.contents same.contents

/-! ## Runs -/

/-- The sample host with a card for each attach and a `be` address on the first. -/
def twoCards : Cmdb :=
  let left := AsciiRuntime.registered.insertEndpoint ⟨0, none, some "bond0", none, some "m7"⟩
  let both := left.insertEndpoint ⟨0, none, some "bond1", none, some "m8"⟩
  both.insertIp ⟨none, "10.0.0.9", none, none, 0, none, some "be"⟩

/-- Two attaches on a store; the left one waits at a call for the right one. -/
def rivalsEnd (db : Cmdb) (stop : service.Op → Bool) : Shared :=
  race faultless stop (tasks AsciiRuntime.service (fun side => .ok (rivalAttaches side)) {})
    (Shared.start db)

/-- Two attaches each of which finds its own card may overlap: the schedule in
which one stops before its IP meets the condition at every call, so the end is
that of a serial run. -/
theorem attaches_serialize_cards :
    Serialized AsciiRuntime.service rivalAttaches rivalRequests twoCards .left
      (rivalsEnd twoCards insertsIp) := by
  have possible : ∀ side (op : service.Op) (before : Shared),
      decidesAs AsciiRuntime.handler (rivalRequests side)
          (serialBase AsciiRuntime.service rivalAttaches twoCards .left side) op before = true →
        deciding AsciiRuntime.service rivalAttaches rivalRequests twoCards .left side op before
          (Shared.scripted faultless side op before).1
          (Shared.scripted faultless side op before).2 :=
    fun side op before decided => ⟨decided, faultless_racing side op before⟩
  obtain ⟨values, interleaved⟩ := race_interleaved possible insertsIp
    (tasks AsciiRuntime.service (fun side => .ok (rivalAttaches side)) {}) (Shared.start twoCards)
    (by decide +kernel)
  refine attaches_serialize AsciiRuntime.service rivalAttaches rivalRequests twoCards .left ?_
    (by decide) {} _ values interleaved
  constructor
  · decide
  · decide
  · exact fun side => by cases side <;> rfl
  · exact fun side => by cases side <;> rfl
  · rfl
  · decide

/-- The sample host with one endpoint that nothing uses, which both would take. -/
def placeholder : Cmdb :=
  AsciiRuntime.registered.insertEndpoint ⟨0, none, some "bond0", none, none⟩

/-- The call at which one of them is stopped. -/
def updatesEndpoint : service.Op → Bool
  | .cmdb (.endpointUpdate _ _) => true
  | _ => false

/-- Both choose the one free endpoint: the mac that the right attach has set is overwritten,
and the host gets two `be` addresses, which it gets in neither order of the messages. -/
theorem attaches_share_placeholder :
    (∃ values : Side → Except Exn Unit × FieldErrors,
      Interleaved (racing noFaults) (Shared.start placeholder)
        (tasks AsciiRuntime.service (fun side => .ok (rivalAttaches side)) {})
        (rivalsEnd placeholder updatesEndpoint) (fun side => .done (values side))) ∧
      (∀ side, Acked ((rivalsEnd placeholder updatesEndpoint).heard side)) ∧
      (rivalsEnd placeholder updatesEndpoint).db.endpoints.rows.map
        (fun endpoint => (endpoint.id, endpoint.data.mac)) = [(0, some "m7")] ∧
      (rivalsEnd placeholder updatesEndpoint).db.ips.rows.map (fun ip =>
        (ip.data.ip, ip.data.networkEndpointId, ip.data.type)) =
          [("10.0.0.8", 0, some "be"), ("10.0.0.7", 0, some "be")] ∧
      ∀ first, (rivalsEnd placeholder updatesEndpoint).db.contents ≠
        (serially AsciiRuntime.service rivalAttaches placeholder first).contents := by
  have ran : raceMeets faultless (fun _ _ _ => true) updatesEndpoint
      (tasks AsciiRuntime.service (fun side => .ok (rivalAttaches side)) {})
      (Shared.start placeholder) = true := by decide +kernel
  refine ⟨?_, ?_, by decide +kernel, by decide +kernel, ?_⟩
  · exact race_interleaved (fun side op before _ => faultless_racing side op before) _ _ _ ran
  · intro side
    cases side with
    | left => exact ⟨by decide +kernel, by decide +kernel⟩
    | right => exact ⟨by decide +kernel, by decide +kernel⟩
  · intro first same
    -- One endpoint, where the serial run leaves two.
    have few := congrArg Multiset.card same
    cases first with
    | left => exact absurd few (by decide +kernel)
    | right => exact absurd few (by decide +kernel)

end InstanceLifecycle
