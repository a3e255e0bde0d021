import InstanceLifecycle.Attach.Placement

/-!
# An attach that goes on from where another broke off

An attach chooses an endpoint and then hangs the address on it. When it breaks off in between,
the next one reads a server on which the endpoint is filled or inserted. It chooses the same
endpoint, finds nothing to fill, and gives the IP the same columns. So every store an attach
passes through leads to the one it would have left.
-/

namespace InstanceLifecycle

open Interaction Store InstanceHandler

/-! ## The choice, made again -/

/-- What becomes of an endpoint that was chosen. -/
def EndpointView.filled (request : AttachRequest) (view : EndpointView) : EndpointView :=
  { view with
    mac := (endpointUpdates request view).mac.or view.mac
    notes := (endpointUpdates request view).notes.or view.notes }

section Choice

variable {request : AttachRequest} {view : EndpointView} {endpoints : List EndpointView}

/-- A value that is set is not filled again. -/
theorem fill_twice (value current : Option String) :
    (if truthy value && !truthy ((if truthy value && !truthy current then value else none).or
      current) then value else none) = none := by
  by_cases given : truthy value = true
  · by_cases set : truthy current = true
    · simp [given, set]
    · cases value with
      | none => cases given
      | some text => simp [given, set]
  · simp [given]

/-- An endpoint that has been filled needs no update from the same request. -/
theorem filled_updates (request : AttachRequest) (view : EndpointView) :
    endpointUpdates request (view.filled request) = ⟨none, none⟩ := by
  have mac := fill_twice request.mac view.mac
  have notes := fill_twice request.networkName view.notes
  exact congrArg₂ EndpointUpdate.mk mac notes

/-- The choice of an endpoint looks at macs and at whether there are addresses,
so a change that keeps both leads to the same choice, changed. -/
theorem chooseEndpoint_map (mac : Option String) (change : EndpointView → EndpointView)
    (macs : ∀ view ∈ endpoints, (change view).mac = view.mac)
    (ips : ∀ view ∈ endpoints, (change view).ips = view.ips) :
    chooseEndpoint mac (endpoints.map change) = (chooseEndpoint mac endpoints).map change := by
  have same : ∀ view ∈ endpoints,
      (truthy mac && decide ((change view).mac = mac)) = (truthy mac && decide (view.mac = mac)) ∧
        ((change view).ips.isEmpty && !truthy (change view).mac) =
          (view.ips.isEmpty && !truthy view.mac) := by
    intro view member
    rw [macs view member, ips view member]
    exact ⟨rfl, rfl⟩
  rw [chooseEndpoint, chooseEndpoint, List.find?_map, List.find?_map, Option.map_or]
  congr 2
  · rw [← List.head?_filter, ← List.head?_filter]
    exact congrArg List.head? (List.filter_congr fun view member => (same view member).1)
  · rw [← List.head?_filter, ← List.head?_filter]
    exact congrArg List.head? (List.filter_congr fun view member => (same view member).2)

/-- An endpoint that was chosen is chosen again once it is filled. If it was
chosen by its mac nothing about it changes; if it was chosen because it was
empty, it now carries the mac of the message, which no other endpoint does. -/
theorem chooseEndpoint_filled (distinct : (endpoints.map EndpointView.id).Nodup)
    (chosen : chooseEndpoint request.mac endpoints = some view) :
    chooseEndpoint request.mac (endpoints.map fun other =>
      if other.id = view.id then other.filled request else other) = some (view.filled request) := by
  have member := chooseEndpoint_mem chosen
  have own : ∀ other ∈ endpoints, other.id = view.id → other = view :=
    fun other stored same => List.inj_on_of_nodup_map distinct stored member same
  by_cases marked : (endpointUpdates request view).mac = none
  · rw [chooseEndpoint_map, chosen, Option.map_some, if_pos rfl]
    · intro other stored
      split
      · rename_i same
        rw [own other stored same, EndpointView.filled, marked, Option.none_or]
      · rfl
    · intro other _
      split <;> rfl
  · -- It was chosen without a mac, and is the only one that carries the mac of the message now.
    have given : truthy request.mac = true ∧ truthy view.mac = false := by
      by_contra unset
      apply marked
      simp only [endpointUpdates]
      rw [if_neg]
      simpa using unset
    have mac : (view.filled request).mac = request.mac := by
      simp only [EndpointView.filled, endpointUpdates, given.1, given.2]
      cases named : request.mac with
      | none => rw [named] at given; cases given.1
      | some text => rfl
    have missing : endpoints.find? (fun other => truthy request.mac &&
        decide (other.mac = request.mac)) = none := by
      rw [chooseEndpoint, Option.or_eq_some_iff] at chosen
      rcases chosen with byMac | free
      · have carries := List.find?_some byMac
        rw [Bool.and_eq_true, decide_eq_true_eq] at carries
        rw [carries.2, given.1] at given
        cases given.2
      · exact free.1
    have found : (endpoints.map fun other =>
        if other.id = view.id then other.filled request else other).find? (fun other =>
          truthy request.mac && decide (other.mac = request.mac)) = some (view.filled request) := by
      rw [List.find?_map]
      have passes : endpoints.find? ((fun other => truthy request.mac &&
          decide (other.mac = request.mac)) ∘ fun other =>
            if other.id = view.id then other.filled request else other) = some view := by
        have located : (endpoints.find? ((fun other => truthy request.mac &&
            decide (other.mac = request.mac)) ∘ fun other =>
              if other.id = view.id then other.filled request else other)).isSome = true := by
          rw [List.find?_isSome]
          exact ⟨view, member, by simp [mac, given.1]⟩
        obtain ⟨other, is⟩ := Option.isSome_iff_exists.mp located
        have stored := List.mem_of_find?_eq_some is
        have carries := List.find?_some is
        by_cases same : other.id = view.id
        · rw [is, own other stored same]
        · have none := List.find?_eq_none.mp missing other stored
          simp only [Function.comp, if_neg same] at carries
          exact absurd carries none
      rw [passes, Option.map_some, if_pos rfl]
    rw [chooseEndpoint, found, Option.some_or]

/-- An endpoint that was inserted for the attach is chosen. -/
theorem chooseEndpoint_inserted (none : chooseEndpoint request.mac endpoints = none)
    (mac : view.mac = if truthy request.mac then request.mac else Option.none)
    (bare : view.ips = []) : chooseEndpoint request.mac (endpoints ++ [view]) = some view := by
  rw [chooseEndpoint, Option.or_eq_none_iff] at none
  rw [chooseEndpoint, List.find?_append, List.find?_append, none.1, none.2]
  by_cases given : truthy request.mac = true
  · rw [if_pos given] at mac
    simp [given, mac]
  · rw [if_neg given] at mac
    have unset : truthy (Option.none : Option String) = false := rfl
    simp [given, mac, bare, unset]

end Choice

/-! ## The store, read again -/

section Reread

variable {db : Cmdb} {request : AttachRequest} {host : Row Columns} {handler : InstanceHandler}

/-- The endpoints that a server row is read with have distinct ids, being rows
of one table. -/
theorem serverView_ids (db : Cmdb) (host : Row Columns) :
    ((db.serverView host).endpoints.map EndpointView.id).Nodup := by
  have ids : (db.serverView host).endpoints.map EndpointView.id =
      (db.endpointsOf host.id).map Row.id := by
    rw [Cmdb.serverView, List.map_map]
    rfl
  rw [ids]
  exact db.endpoints.distinct.sublist (List.filter_sublist.map _)

/-- The chosen endpoint is filled, and the rest of the server is as it was. -/
theorem serverView_filled {view : EndpointView}
    (chosen : chooseEndpoint request.mac (db.serverView host).endpoints = some view) :
    ((db.updateEndpoint view.id (endpointUpdates request view)).serverView host).endpoints =
      (db.serverView host).endpoints.map (fun other =>
        if other.id = view.id then other.filled request else other) := by
  have member := chooseEndpoint_mem chosen
  simp only [Cmdb.serverView, List.map_map, Cmdb.endpointsOf_updateEndpoint] at member ⊢
  apply List.map_congr_left
  intro endpoint stored
  simp only [Function.comp]
  by_cases same : endpoint.id = view.id
  · have is : db.endpointView endpoint = view :=
      List.inj_on_of_nodup_map (serverView_ids db host) (List.mem_map_of_mem stored) member same
    have viewed : (db.endpointView endpoint).id = view.id := same
    rw [if_pos same, if_pos viewed, ← is]
    rfl
  · have other : (db.endpointView endpoint).id ≠ view.id := same
    rw [if_neg same, if_neg other]
    rfl

/-- A server read after an insert on it shows the new endpoint at the end,
without addresses, and its other endpoints as before. -/
theorem serverView_inserted {columns : Endpoint} (stored : host ∈ db.servers.rows)
    (own : columns.serverId = host.id) :
    ((db.insertEndpoint columns).serverView host).endpoints = (db.serverView host).endpoints ++
      [⟨db.endpoints.next, columns.name, columns.notes, columns.mac, []⟩] := by
  have ips : (db.insertEndpoint columns).ipsOf = db.ipsOf := by
    funext id
    exact db.ipsOf_insertEndpoint columns id
  have views : (db.insertEndpoint columns).endpointView = db.endpointView := by
    funext endpoint
    rw [Cmdb.endpointView, ips]
    rfl
  rw [Cmdb.serverView, db.endpointsOf_insertEndpoint_own columns stored own, List.map_append, views,
    List.map_singleton, Cmdb.endpointView, db.ipsOf_next]
  rfl

/-- An attach that reads the server after the endpoint is settled settles on the same one. -/
theorem withEndpoint_chosen (stored : host ∈ db.servers.rows) (request : AttachRequest) :
    ∃ view, chooseEndpoint request.mac
        ((db.withEndpoint request (db.serverView host)).serverView host).endpoints = some view ∧
      view.id = db.endpointFor request (db.serverView host) ∧
      endpointUpdates request view = ⟨none, none⟩ := by
  rw [Cmdb.withEndpoint, Cmdb.endpointFor]
  cases chosen : chooseEndpoint request.mac (db.serverView host).endpoints with
  | some view =>
    simp only
    rw [serverView_filled chosen]
    exact ⟨_, chooseEndpoint_filled (serverView_ids db host) chosen, rfl,
      filled_updates request view⟩
  | none =>
    simp only
    rw [serverView_inserted stored rfl]
    refine ⟨_, chooseEndpoint_inserted chosen rfl rfl, rfl, ?_⟩
    have mac := fill_twice request.mac none
    have notes := fill_twice request.networkName none
    simp only [Option.or_none, truthy, Bool.not_false, Bool.and_true] at mac notes
    exact congrArg₂ EndpointUpdate.mk mac notes

/-- Seeing to the endpoint adds no IP, so a server read afterwards has the same
types in use. By cases on the choice: a changed endpoint keeps its addresses, a
new one has none. -/
theorem withEndpoint_types (stored : host ∈ db.servers.rows) (request : AttachRequest) :
    usedIpTypes ((db.withEndpoint request (db.serverView host)).serverView host) =
      usedIpTypes (db.serverView host) := by
  rw [usedIpTypes, usedIpTypes, Cmdb.withEndpoint]
  cases chosen : chooseEndpoint request.mac (db.serverView host).endpoints with
  | some view =>
    simp only
    rw [serverView_filled chosen, List.flatMap_map]
    apply List.flatMap_congr
    intro other _
    split <;> rfl
  | none =>
    simp only
    rw [serverView_inserted stored rfl, List.flatMap_append]
    simp

/-- Choosing or inserting an endpoint leaves the reference classes alone. -/
theorem withEndpoint_reference (db : Cmdb) (request : AttachRequest) (server : ServerView) :
    (db.withEndpoint request server).reference = db.reference := by
  rw [Cmdb.withEndpoint]
  split
  · rfl
  · exact db.effect_reference (.endpointInsertOne _)

/-- Once the endpoint has been seen to, hanging the address is all that is left
to do: the endpoint is chosen again, needs no further update, and prefix and
type come out the same. -/
theorem withEndpoint_withAddress (handler : InstanceHandler) (stored : host ∈ db.servers.rows)
    (request : AttachRequest) :
    (db.withEndpoint request (db.serverView host)).withAddress handler request
        ((db.withEndpoint request (db.serverView host)).serverView host) =
      db.withAddress handler request (db.serverView host) := by
  obtain ⟨view, chosen, same, filled⟩ := withEndpoint_chosen stored request
  have types := withEndpoint_types stored request
  have netPrefix := prefixFor_reference handler request
    (withEndpoint_reference db request (db.serverView host))
  have again : (db.withEndpoint request (db.serverView host)).withEndpoint request
      ((db.withEndpoint request (db.serverView host)).serverView host) =
      db.withEndpoint request (db.serverView host) := by
    generalize db.withEndpoint request (db.serverView host) = after at chosen
    rw [Cmdb.withEndpoint, chosen]
    simp only [filled]
    exact updateEndpoint_nothing after view.id rfl rfl
  have id : (db.withEndpoint request (db.serverView host)).endpointFor request
      ((db.withEndpoint request (db.serverView host)).serverView host) =
      db.endpointFor request (db.serverView host) := by
    rw [← same, Cmdb.endpointFor, chosen]
  rw [Cmdb.withAddress, again, id, netPrefix, Cmdb.withAddress, attachIpColumns, attachIpColumns,
    types]

/-- The stores an attach passes through. -/
def Cmdb.AttachedSoFar (db : Cmdb) (handler : InstanceHandler) (request : AttachRequest)
    (server : ServerView) (after : Cmdb) : Prop :=
  after = db ∨ after = db.withEndpoint request server ∨ after = db.withAddress handler request server

/-- All stores in which an attach can be broken off lead to the same one when it
is made again. By cases on how far it came: nothing done, the endpoint seen to,
or the address there already. -/
theorem attach_resumed
    (located : db.servers.rows.find? (fun server => hasUuid server request.hostUuid) = some host)
    (free : db.attached request.ipAddr request.hostUuid = []) {after : Cmdb}
    (reached : db.AttachedSoFar handler request (db.serverView host) after) :
    after.attach handler request = db.withAddress handler request (db.serverView host) := by
  have stored := List.mem_of_find?_eq_some located
  have carries := List.find?_some located
  rcases reached with rfl | rfl | rfl
  · rw [Cmdb.attach, located]
    simp only
    rw [free]
    rfl
  · rw [Cmdb.attach, withEndpoint_servers, located]
    simp only
    rw [withEndpoint_attached, free]
    exact withEndpoint_withAddress handler stored request
  · have attached : (db.withAddress handler request (db.serverView host)).attached request.ipAddr
        request.hostUuid ≠ [] := by
      have hangs := withEndpoint_hangs stored carries
      have added := (db.withEndpoint request (db.serverView host)).attached_insertIp_new
        (attachIpColumns request (db.serverView host) (db.prefixFor handler request)
          (db.endpointFor request (db.serverView host))) request.hostUuid hangs
      change ((db.withEndpoint request (db.serverView host)).insertIp _).attached _ _ ≠ []
      intro none
      rw [show request.ipAddr = (attachIpColumns request (db.serverView host)
        (db.prefixFor handler request) (db.endpointFor request (db.serverView host))).ip from rfl,
        added] at none
      simp at none
    have servers : (db.withAddress handler request (db.serverView host)).servers = db.servers :=
      (Cmdb.insertIp_servers _ _).trans (withEndpoint_servers db request (db.serverView host))
    rw [Cmdb.attach, servers, located]
    simp only
    rw [if_neg]
    simpa using attached

end Reread

/-! ## The run -/

section Calls

variable {permits : Faults} {inv : World → Prop} {handler : InstanceHandler} {state : FieldErrors}
  {world : World}

/-- A truthful read goes by the store, and leaves it alone in every state it passes through. -/
theorem reading_bind {α β : Type} {action : Run α} {next : α → Run β} {answer : α}
    {post : Except Exn β → FieldErrors → World → Prop}
    (only : action.Only (calls fun op => op.writes = false))
    (first : action.Ensures (faulty permits) (fun _ => True)
      (truthExit permits state world.db answer) state world)
    (kept : ∀ after : World, after.db = world.db → inv after)
    (rest : ∀ after : World, after.db = world.db →
      (next answer).Ensures (faulty permits) inv post state after)
    (fails : ∀ exc (after : World), after.db = world.db → post (.error exc) state after) :
    (action >>= next).Ensures (faulty permits) inv post state world := by
  have silent : action.Ensures (faulty permits) inv (fun _ _ after => world.Reads after) state world :=
    reads_ensures only fun after reads => kept after reads.db
  refine ((first.and silent).env_mono (fun _ _ _ _ step => step) fun _ held => held.2).bind ?_ ?_
  · rintro value middle after ⟨⟨rfl, same, rfl⟩, -⟩
    exact rest after same
  · rintro exc middle after ⟨⟨rfl, same, -⟩, -⟩
    exact fails exc after same

/-- An insert whose selector tells what took effect is made at most once. -/
theorem insertCall_between {ρ : Type} {options : CallOptions} {operation : Run ρ}
    {selector : Run (Option ρ)} (start landed : Cmdb) (begins : world.db = start)
    (invokes : ∀ current : World, current.db = start → operation.Ensures (faulty permits) inv
      (fun _ final after => final = state ∧ (after.db = start ∨ after.db = landed)) state current)
    (selects : ∀ current : World, current.db = start ∨ current.db = landed →
      selector.Ensures (faulty permits) inv (fun result final after =>
        final = state ∧ after.db = current.db ∧ (result = .ok none → after.db = start))
        state current) :
    (handler.cmdbCall options operation (some selector)).Ensures (faulty permits) inv
      (fun _ _ after => after.db = start ∨ after.db = landed) state world := by
  refine Action.Ensures.mono (InstanceHandler.cmdbCall_exits (fun current => current.db = start)
    (fun current => current.db = start ∨ current.db = landed)
    (fun _ current => current.db = start ∨ current.db = landed) begins ?_ ?_
    (fun absent => nomatch absent)) ?_
  · intro current same
    refine (invokes current same).mono ?_
    rintro result final after ⟨rfl, either⟩
    cases result <;> exact ⟨rfl, either⟩
  · intro reselection given current either
    obtain rfl := Option.some.inj given
    refine (selects current either).mono ?_
    rintro result final after ⟨rfl, same, missed⟩
    refine ⟨rfl, ?_⟩
    rw [← same] at either
    rcases result with exc | _ | row
    · exact either
    · exact missed rfl
    · exact either
  · rintro result final after ⟨-, exit⟩
    rcases result with exc | _ | row
    · exact exit
    · exact exit.2
    · exact exit

/-- A single call whose reply is mapped leaves the store before it or the one
after it, and nothing between, whether it succeeds or fails. -/
theorem cmdb_between {op : CmdbOp} {ρ : Type} {display : op.Rows → ρ} {start : Cmdb}
    (begins : world.db = start)
    (kept : ∀ after : World, after.db = start ∨ after.db = start.effect op → inv after) :
    (do let row ← cmdb op; pure (display row) : Run ρ).Ensures (faulty permits) inv
      (fun _ final after => final = state ∧ (after.db = start ∨ after.db = start.effect op)) state
      world := by
  rw [Action.ensures_bind]
  apply cmdb_ensures
  intro outcome _
  have either : (world.next op outcome).db = start ∨ (world.next op outcome).db = start.effect op := by
    rw [World.next_db, begins]
    exact start.answer_db op outcome
  refine ⟨kept _ either, ?_⟩
  cases (world.db.answer op outcome).1 with
  | ok row => exact ⟨rfl, either⟩
  | error error => exact ⟨rfl, either⟩

/-- The endpoint of an attach is inserted once, whatever is lost. A repeated
attempt re-selects first; when it finds nothing, the insert had not landed, so
the store is still the one before. -/
theorem insertAttachEndpoint_between
    (lossy : ∀ op outcome, permits op outcome → transportFaults op outcome)
    (request : AttachRequest) {host : Row Columns} (stored : host ∈ world.db.servers.rows)
    (free : world.db.attached request.ipAddr request.hostUuid = [])
    (kept : ∀ after : World, after.db = world.db ∨
      after.db = world.db.insertEndpoint (attachColumns request (world.db.serverView host)) →
        inv after) :
    (handler.insertAttachEndpoint request (world.db.serverView host)).Ensures (faulty permits) inv
      (fun _ _ after => after.db = world.db ∨
        after.db = world.db.insertEndpoint (attachColumns request (world.db.serverView host)))
      state world := by
  rw [insertAttachEndpoint]
  generalize begins : world.db = db at *
  apply insertCall_between db _ begins
  · exact fun current same => cmdb_between same kept
  · intro current either
    have unattached : current.db.attached request.ipAddr request.hostUuid = [] := by
      rcases either with same | landed
      · rw [same]
        exact free
      · rw [landed, db.attached_insertEndpoint]
        exact free
    have only : (handler.attachEndpointSelector request.ipAddr request.hostUuid host.id
        (nextBondName ((db.serverView host).endpoints.map EndpointView.name))).Only
          (calls fun op => op.writes = false) := attachEndpointSelector_only rfl rfl
    have silent : (handler.attachEndpointSelector request.ipAddr request.hostUuid host.id
        (nextBondName ((db.serverView host).endpoints.map EndpointView.name))).Ensures
          (faulty permits) inv (fun _ _ after => current.Reads after) state current :=
      reads_ensures only fun after reads => kept after (reads.db ▸ either)
    refine (((attachEndpointSelector_truth lossy unattached host.id _).and silent).env_mono
      (fun _ _ _ _ step => step) fun _ held => held.2).mono ?_
    rintro result final after ⟨⟨rfl, same, answer⟩, -⟩
    refine ⟨rfl, same, ?_⟩
    rintro rfl
    rcases either with before | landed
    · exact same.trans before
    · rw [landed, freeName_inserted db stored request] at answer
      cases answer

/-- While the endpoint of an attach is found, updated or inserted, the store is
the one before or the one with the endpoint, and nothing between. The cases are
those of the choice: an endpoint to fill, or a new one. -/
theorem attachEndpoint_between
    (lossy : ∀ op outcome, permits op outcome → transportFaults op outcome)
    (request : AttachRequest) {host : Row Columns} (stored : host ∈ world.db.servers.rows)
    (free : world.db.attached request.ipAddr request.hostUuid = [])
    (kept : ∀ after : World, after.db = world.db ∨
      after.db = world.db.withEndpoint request (world.db.serverView host) → inv after) :
    (handler.attachEndpoint request (world.db.serverView host)).Ensures (faulty permits) inv
      (fun _ _ after => after.db = world.db ∨
        after.db = world.db.withEndpoint request (world.db.serverView host)) state world := by
  unfold attachEndpoint
  rw [Cmdb.withEndpoint] at kept ⊢
  cases chosen : chooseEndpoint request.mac (world.db.serverView host).endpoints with
  | some view =>
    simp only [chosen] at kept ⊢
    have only : (handler.reuseEndpoint request view).Only (calls fun op =>
        op = .endpointUpdate view.id (endpointUpdates request view)) := reuseEndpoint_only rfl
    have updated : (handler.reuseEndpoint request view).Ensures (faulty permits) inv
        (fun _ _ after => after.db = world.db ∨
          after.db = world.db.updateEndpoint view.id (endpointUpdates request view)) state world := by
      apply calls_ensures only _ _ kept (Or.inl rfl)
      rintro before held _ rfl outcome _
      refine Cmdb.answer_keeps (fun db => db = world.db ∨
        db = world.db.updateEndpoint view.id (endpointUpdates request view)) held (Or.inr ?_) outcome
      rcases held with same | again
      · rw [same]
        rfl
      · rw [again]
        exact updateEndpoint_twice _ _ _
    exact updated.bind (fun _ _ _ held => held) fun _ _ _ held => held
  | none =>
    simp only [chosen] at kept ⊢
    refine (insertAttachEndpoint_between lossy request stored free kept).bind ?_
      fun _ _ _ held => held
    intro found middle after held
    cases found with
    | none => exact held
    | some pair => exact held

/-- The id of the IP, if the address is attached. -/
theorem attachIpSelector_truth
    (lossy : ∀ op outcome, permits op outcome → transportFaults op outcome) (address : String)
    (uuid : Option String) :
    (handler.attachIpSelector address uuid).Ensures (faulty permits) (fun _ => True)
      (truthExit permits state world.db
        ((world.db.rows (.ipSelectAttached address uuid)).map AttachedIp.id)) state world := by
  rw [attachIpSelector]
  apply truth_bind (findAttachedIp_truth lossy address uuid)
  · exact fun after same => ⟨rfl, same, rfl⟩
  · exact fun exc after same fallible => ⟨rfl, same, fallible⟩

/-- The IP of an attach is inserted once, whatever is lost. A landed insert
attaches the address to the host, so the look-up before another attempt finds
it. -/
theorem insertAttachIp_between
    (lossy : ∀ op outcome, permits op outcome → transportFaults op outcome)
    (request : AttachRequest) (server : ServerView) (netPrefix : Option NetworkPrefix)
    {endpointId : Nat} (hangs : ∃ endpoint ∈ world.db.endpoints.rows, endpoint.id = endpointId ∧
      world.db.endpointOnHost request.hostUuid endpoint = true)
    (kept : ∀ after : World, after.db = world.db ∨ after.db = world.db.insertIp
      (attachIpColumns request server netPrefix endpointId) → inv after) :
    (handler.insertAttachIp request server netPrefix endpointId).Ensures (faulty permits) inv
      (fun _ _ after => after.db = world.db ∨
        after.db = world.db.insertIp (attachIpColumns request server netPrefix endpointId)) state
      world := by
  rw [insertAttachIp]
  generalize begins : world.db = db at *
  have attached : (db.insertIp (attachIpColumns request server netPrefix endpointId)).attached
      request.ipAddr request.hostUuid ≠ [] := by
    have added := db.attached_insertIp_new
      (attachIpColumns request server netPrefix endpointId) request.hostUuid hangs
    intro none
    exact List.append_ne_nil_of_right_ne_nil _ (List.cons_ne_nil _ _) (added.symm.trans none)
  refine Action.Ensures.bind (insertCall_between db _ begins (fun current same => ?_) ?_)
    (fun _ _ _ held => held) fun _ _ _ held => held
  · apply cmdb_ensures
    intro outcome _
    have either := db.answer_db (.ipInsertOne (attachIpColumns request server netPrefix endpointId))
      outcome
    rw [← same, ← World.next_db, same] at either
    exact ⟨kept _ either, rfl, either⟩
  · intro current either
    have only : (handler.attachIpSelector request.ipAddr request.hostUuid).Only
        (calls fun op => op.writes = false) :=
      Action.Only.bind (findAttachedIp_only rfl) fun _ => Action.only_pure _
    have silent : (handler.attachIpSelector request.ipAddr request.hostUuid).Ensures
        (faulty permits) inv (fun _ _ after => current.Reads after) state current :=
      reads_ensures only fun after reads => kept after (reads.db ▸ either)
    refine (((attachIpSelector_truth lossy request.ipAddr request.hostUuid).and silent).env_mono
      (fun _ _ _ _ step => step) fun _ held => held.2).mono ?_
    rintro result final after ⟨⟨rfl, same, answer⟩, -⟩
    refine ⟨rfl, same, ?_⟩
    rintro rfl
    rcases either with before | landed
    · exact same.trans before
    · have missing := current.db.lookUp_none _ _ (Option.map_eq_none_iff.mp answer.symm)
      rw [landed] at missing
      exact absurd missing attached

/-- Every store that an attach passes through on a host without the address is
one of three. The look-ups change nothing, and the endpoint and the IP each have
two stores between which they lead. -/
theorem attachTo_between
    (lossy : ∀ op outcome, permits op outcome → transportFaults op outcome)
    (request : AttachRequest) {host : Row Columns} (stored : host ∈ world.db.servers.rows)
    (carries : hasUuid host request.hostUuid = true)
    (free : world.db.attached request.ipAddr request.hostUuid = [])
    (kept : ∀ after : World, world.db.AttachedSoFar handler request (world.db.serverView host)
      after.db → inv after) :
    (handler.attachTo request (world.db.serverView host)).Ensures (faulty permits) inv
      (fun _ _ after => inv after) state world := by
  have unchanged : ∀ after : World, after.db = world.db → inv after :=
    fun after same => kept after (Or.inl same)
  unfold attachTo
  apply reading_bind (findAttachedIp_only rfl)
    (findAttachedIp_truth lossy request.ipAddr request.hostUuid) unchanged
  · intro after same
    have missing : world.db.rows (.ipSelectAttached request.ipAddr request.hostUuid) = none := by
      cases found : world.db.rows (.ipSelectAttached request.ipAddr request.hostUuid) with
      | none => rfl
      | some row => exact absurd free (world.db.lookUp_some _ _ row found)
    rw [missing]
    simp only
    rw [← same] at stored free kept unchanged ⊢
    apply reading_bind (attachPrefix_only rfl fun _ => rfl) (attachPrefix_truth lossy request)
      unchanged
    · intro later again
      rw [← again] at stored free kept ⊢
      have between : (handler.attachEndpoint request (later.db.serverView host)).Ensures
          (faulty permits) inv (fun _ _ last => last.db = later.db ∨
            last.db = later.db.withEndpoint request (later.db.serverView host)) state later :=
        attachEndpoint_between lossy request stored free
          fun current either => kept current (either.imp id Or.inl)
      refine ((between.and (attachEndpoint_normal lossy request stored free)).env_mono
        (fun _ _ _ _ step => step) fun _ held => held.1).bind ?_ ?_
      · rintro endpointId middle last ⟨-, rfl, rfl, written⟩
        simp only
        have hangs := withEndpoint_hangs stored carries
        rw [← written] at hangs
        refine (insertAttachIp_between lossy request (later.db.serverView host) _ hangs
          fun current either => ?_).mono ?_
        · rw [written] at either
          exact kept current (Or.inr either)
        · intro result final ended either
          rw [written] at either
          exact kept ended (Or.inr either)
      · rintro exc middle last ⟨either, -⟩
        exact kept last (either.imp id Or.inl)
    · exact fun exc later again => unchanged later again
  · exact fun exc after same => unchanged after same

/-- Where the address is attached already, an attach looks it up and does
nothing more, so the store stays as it was also when a reply is lost. -/
theorem attachTo_idle
    (lossy : ∀ op outcome, permits op outcome → transportFaults op outcome)
    {request : AttachRequest} {server : ServerView}
    (attached : world.db.attached request.ipAddr request.hostUuid ≠ [])
    (kept : ∀ after : World, after.db = world.db → inv after) :
    (handler.attachTo request server).Ensures (faulty permits) inv (fun _ _ after => inv after)
      state world := by
  unfold attachTo
  apply reading_bind (findAttachedIp_only rfl)
    (findAttachedIp_truth lossy request.ipAddr request.hostUuid) kept
  · intro after same
    cases found : world.db.rows (.ipSelectAttached request.ipAddr request.hostUuid) with
    | none => exact absurd (world.db.lookUp_none _ _ found) attached
    | some row => exact kept after same
  · exact fun exc after same => kept after same

/-- Every store that an attach passes through leads to the one it would have left. -/
theorem attachToInstances_resumed
    (lossy : ∀ op outcome, permits op outcome → transportFaults op outcome) {message : Message}
    {request : AttachRequest} (read : handler.readAttach message = .ok (some request))
    {target : Cmdb} (leads : world.db.attach handler request = target) :
    (handler.attachToInstances message).Ensures (faulty permits)
      (fun after => after.db.attach handler request = target)
      (fun _ _ after => after.db.attach handler request = target) state world := by
  have unchanged : ∀ after : World, after.db = world.db →
      after.db.attach handler request = target := by
    intro after same
    rw [same]
    exact leads
  unfold attachToInstances
  rw [Action.ensures_bind, Action.ensures_lift, read]
  simp only
  have only : (handler.cmdbCall { field := "server.select_one", raiseOnDataError := true }
      (cmdb (.serverSelectOneByUuid request.hostUuid))).Only (calls fun op => op.writes = false) :=
    plainCall_only rfl
  apply reading_bind only (readCall_truth lossy rfl) unchanged
  · intro after same
    rw [Option.join_some]
    cases located : world.db.servers.rows.find? (fun server =>
        hasUuid server request.hostUuid) with
    | none =>
      simp only [Cmdb.rows, located, Option.map_none]
      exact unchanged after same
    | some host =>
      have stored := List.mem_of_find?_eq_some located
      have carries := List.find?_some located
      simp only [Cmdb.rows, located, Option.map_some]
      rw [← same] at stored located leads unchanged ⊢
      by_cases free : after.db.attached request.ipAddr request.hostUuid = []
      · have goal : after.db.withAddress handler request (after.db.serverView host) = target := by
          rw [← leads, Cmdb.attach, located]
          simp only
          rw [free]
          rfl
        exact attachTo_between lossy request stored carries free fun later reached =>
          (attach_resumed located free reached).trans goal
      · exact attachTo_idle lossy free unchanged
  · exact fun exc after same => unchanged after same

end Calls

end InstanceLifecycle
