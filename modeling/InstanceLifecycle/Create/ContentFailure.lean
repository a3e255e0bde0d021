import InstanceLifecycle.Create.Context
import InstanceLifecycle.Service.Rules
import InstanceLifecycle.Handler.AsciiRuntime

/-!
# Creates that fail by their content

Where no call fails, a create raises only on the content of its message. Everything
but the name of the flavor is read before the first write; the flavor is read when the
old row is gone and the new one inserted.
-/

namespace InstanceLifecycle

open Interaction Store InstanceHandler

/-- A write was issued, whatever became of it. -/
def Issued (world : World) : Prop := world.history.any Event.isWrite = true

/-- A write that was issued stays in the history. -/
theorem issued_next {world : World} (issued : Issued world) (op : CmdbOp) (outcome : Outcome) :
    Issued (world.next op outcome) := by
  rw [Issued, World.next_history, List.any_append, Bool.or_eq_true]
  exact Or.inl issued

/-- A call that writes is in the history once it was made. -/
theorem issued_write {world : World} (op : CmdbOp) (writes : op.writes = true)
    (outcome : Outcome) : Issued (world.next op outcome) := by
  rw [Issued, World.next_history, List.any_append, Bool.or_eq_true]
  exact Or.inr (by simpa [Event.isWrite] using writes)

section Faultless

variable {handler : InstanceHandler} {message : Message} {ctx : CreateContext}
  {state : FieldErrors} {world : World}

/-- A normal end after a write. This is how everything behind the new row ends. -/
def completed {α : Type} (result : Except Exn α) (_ : FieldErrors) (after : World) : Prop :=
  (∃ value, result = .ok value) ∧ Issued after

/-- A call that swallows its rejections ends normally where nothing fails by
transport. -/
theorem call_completed {options : CallOptions} {op : CmdbOp}
    {selector : Option (Run (Option op.Rows))} (swallows : options.raiseOnDataError = false)
    (issued : Issued world) :
    (handler.cmdbCall options (cmdb op) selector).Ensures (faulty noFaults) (fun _ => True)
      completed state world := by
  apply faultlessCall_ensures trivial
  · exact fun _ => ⟨⟨_, rfl⟩, issued_next issued op .ok⟩
  · intro _ exc
    rw [swallows]
    exact ⟨⟨_, rfl⟩, issued_next issued op .ok⟩

/-! ## The new row -/

/-- Rails are deleted without an exception, by induction on them. -/
theorem deleteRails_faultless (rails : List Nat) :
    (handler.deleteRails rails).Ensures (faulty noFaults) (fun _ => True)
      (fun result _ _ => result = .ok ()) state world := by
  induction rails generalizing state world with
  | nil => exact rfl
  | cons rail rest ih =>
    rw [deleteRails, Action.ensures_bind]
    exact faultlessCall_ensures trivial (fun _ => ih) fun refused => nomatch refused

/-- Where no call fails, servers and their rails are deleted without an
exception. The induction is on the servers, each of which goes after its rails.
-/
theorem deleteServers_faultless (servers : List ServerItem) :
    (handler.deleteServers servers).Ensures (faulty noFaults) (fun _ => True)
      (fun result _ _ => result = .ok ()) state world := by
  induction servers generalizing state world with
  | nil => exact rfl
  | cons server rest ih =>
    rw [deleteServers, Action.ensures_bind]
    refine (deleteRails_faultless server.rails).mono ?_
    rintro result middle after rfl
    simp only
    rw [Action.ensures_bind]
    exact faultlessCall_ensures trivial (fun _ => ih) fun refused => nomatch refused

/-- Where no call fails, the removal ends normally, whether it found a server or
not: with none there is nothing to delete. -/
theorem removeServer_faultless (uuid hostname : Option String) :
    (handler.removeServer uuid hostname).Ensures (faulty noFaults) (fun _ => True)
      (fun result _ _ => ∃ found, result = .ok found) state world := by
  rw [removeServer, Action.ensures_bind]
  refine faultlessCall_ensures trivial (fun _ => ?_) fun refused => nomatch refused
  simp only [Option.getD_some]
  split
  · exact ⟨false, rfl⟩
  · rw [Action.ensures_bind]
    refine (deleteServers_faultless _).mono ?_
    rintro result middle after rfl
    exact ⟨true, rfl⟩

/-- The re-creation ends with a row where no call fails, and has written by
then. -/
theorem recreateServerRow_faultless :
    (handler.recreateServerRow ctx).Ensures (faulty noFaults) (fun _ => True)
      (fun result _ after => (∃ id, result = .ok (some id)) ∧ Issued after) state world := by
  rw [recreateServerRow, Action.ensures_bind]
  refine (removeServer_faultless _ _).mono ?_
  rintro result middle after ⟨found, rfl⟩
  apply faultlessCall_ensures trivial
  · exact fun _ => ⟨⟨_, rfl⟩, issued_write _ rfl .ok⟩
  · exact fun refused => nomatch refused

/-! ## After the new row -/

/-- The replay ends normally, for it only records rejections. By induction on
the writes. -/
theorem replayWrites_completed (writes : List FieldWrite) (issued : Issued world) :
    (handler.replayWrites ctx writes).Ensures (faulty noFaults) (fun _ => True) completed state
      world := by
  induction writes generalizing state world with
  | nil => exact ⟨⟨(), rfl⟩, issued⟩
  | cons write rest ih =>
    rw [replayWrites, Action.ensures_bind]
    refine (call_completed rfl issued).mono ?_
    rintro result middle after ⟨⟨rows, rfl⟩, still⟩
    exact ih still

/-- Where no call fails, the fields are written unless the list of writes itself
raises, and then the same exception leaves. A batch that the store refuses is
replayed write by write, where refusals are recorded. -/
theorem writeCreateFields_faultless (issued : Issued world) :
    (handler.writeCreateFields ctx).Ensures (faulty noFaults) (fun _ => True)
      (fun result _ after => Issued after ∧
        match handler.createWrites ctx with
        | .ok _ => result = .ok ()
        | .error exc => result = .error exc) state world := by
  rw [writeCreateFields, Action.ensures_bind, Action.ensures_lift]
  cases returned : handler.createWrites ctx with
  | error exc => exact ⟨issued, rfl⟩
  | ok writes =>
    simp only [mergeWrites_nonempty returned, Bool.false_eq_true, if_false]
    rw [Action.ensures_bind]
    refine (call_completed rfl issued).mono ?_
    rintro result middle after ⟨⟨rows, rfl⟩, still⟩
    cases rows with
    | some ids => exact ⟨still, rfl⟩
    | none =>
      refine (replayWrites_completed writes still).mono ?_
      rintro result final last ⟨⟨⟨⟩, rfl⟩, issuedLast⟩
      exact ⟨issuedLast, rfl⟩

/-- The look-up of a prefix ends normally. -/
theorem getNetPrefixByIp_completed (ipAddr dcName : String) (errors : Bool)
    (issued : Issued world) :
    (handler.getNetPrefixByIp ipAddr dcName errors).Ensures (faulty noFaults) (fun _ => True)
      completed state world := by
  rw [getNetPrefixByIp, Action.ensures_bind]
  refine (call_completed rfl issued).mono ?_
  rintro result middle after ⟨⟨rows, rfl⟩, still⟩
  cases rows with
  | none => exact ⟨⟨_, rfl⟩, still⟩
  | some prefixes => exact ⟨⟨_, rfl⟩, still⟩

/-- Where no call fails, the addresses of a card are gone through to the end, by
induction on them; one without a prefix is skipped, and a refused insert is
recorded. -/
theorem persistAddresses_completed (endpointId : Nat) (used : List (Option String))
    (addresses : List String) (issued : Issued world) :
    (handler.persistAddresses ctx endpointId used addresses).Ensures (faulty noFaults)
      (fun _ => True) completed state world := by
  induction addresses generalizing used state world with
  | nil => exact ⟨⟨used, rfl⟩, issued⟩
  | cons addr rest ih =>
    rw [persistAddresses, Action.ensures_bind]
    refine (getNetPrefixByIp_completed addr ctx.dcName true issued).mono ?_
    rintro result middle after ⟨⟨netPrefix, rfl⟩, still⟩
    cases netPrefix with
    | none => exact ih used still
    | some row =>
      simp only
      rw [Action.ensures_bind]
      refine (call_completed rfl still).mono ?_
      rintro result final last ⟨⟨id, rfl⟩, further⟩
      exact ih _ further

/-- The cards end normally, by induction on them; a card that is refused is
skipped. -/
theorem persistCards_completed (serverId : Nat) (takenNames : List String)
    (used : List (Option String)) (cards : List HostNetwork) (issued : Issued world) :
    (handler.persistCards ctx serverId takenNames used cards).Ensures (faulty noFaults)
      (fun _ => True) completed state world := by
  induction cards generalizing takenNames used state world with
  | nil => exact ⟨⟨(), rfl⟩, issued⟩
  | cons card rest ih =>
    rw [persistCards, Action.ensures_bind]
    refine (call_completed rfl issued).mono ?_
    rintro result middle after ⟨⟨endpoint, rfl⟩, still⟩
    cases endpoint with
    | none => exact ih _ _ still
    | some endpoint =>
      simp only
      rw [Action.ensures_bind]
      refine (persistAddresses_completed endpoint.id used card.addresses still).mono ?_
      rintro result final last ⟨⟨used, rfl⟩, further⟩
      exact ih _ _ further

/-- The final write ends normally. -/
theorem setFinalState_completed (issued : Issued world) :
    (handler.setFinalState ctx).Ensures (faulty noFaults) (fun _ => True) completed state
      world := by
  rw [setFinalState, Action.ensures_bind, Action.ensures_get]
  simp only
  rw [Action.ensures_bind]
  refine (call_completed rfl issued).mono ?_
  rintro result middle after ⟨⟨rows, rfl⟩, still⟩
  exact ⟨⟨(), rfl⟩, still⟩

/-! ## The message -/

/-- How a create ends where no call fails. A payload that cannot be read ends it
before any write; after the new row only the list of writes can raise. -/
def contentExit (handler : InstanceHandler) (message : Message) (db : Cmdb)
    (world : World) (result : Except Exn Unit) (after : World) : Prop :=
  match readCreate handler message with
  | .error exc => result = .error exc ∧ world.Reads after
  | .ok none => result = .ok () ∧ world.Reads after
  | .ok (some content) => Issued after ∧
      match handler.createWrites (content.context handler message db) with
      | .ok _ => result = .ok ()
      | .error exc => result = .error exc

/-- The action ends in one of these ways. The phases are composed, and only the
computation of the writes has two ends. -/
theorem createInstances_faultless :
    (handler.createInstances message).Ensures (faulty noFaults) (fun _ => True)
      (fun result _ after => contentExit handler message world.db world result after) state
      world := by
  rw [createInstances, Action.ensures_bind, Action.ensures_modify]
  simp only
  refine (buildCreateContext_ensures fun _ _ => trivial).bind ?_ ?_
  · rintro found middle after ⟨reads, built⟩
    cases found with
    | none =>
      refine (?_ : contentExit handler message world.db world (.ok ()) after)
      simp only at built
      rw [contentExit, built]
      exact ⟨rfl, reads⟩
    | some ctx =>
      obtain ⟨content, read, rfl, rfl⟩ := built
      simp only
      rw [Action.ensures_bind, Action.ensures_attempt]
      refine recreateServerRow_faultless.mono ?_
      rintro result final recreated ⟨⟨id, rfl⟩, issued⟩
      simp only
      rw [Action.ensures_bind]
      refine (writeCreateFields_faultless issued).mono ?_
      rintro result last written ⟨still, fields⟩
      simp only [contentExit, read]
      cases returned : handler.createWrites (content.context handler message world.db) with
      | error exc =>
        rw [returned] at fields
        simp only at fields
        subst fields
        exact ⟨still, rfl⟩
      | ok writes =>
        rw [returned] at fields
        simp only at fields
        subst fields
        simp only
        rw [Action.ensures_bind]
        refine (persistCards_completed id _ [] _ still).mono ?_
        rintro result carded latest ⟨⟨⟨⟩, rfl⟩, further⟩
        refine (setFinalState_completed further).mono ?_
        rintro result settled ended ⟨⟨⟨⟩, rfl⟩, finished⟩
        exact ⟨finished, rfl⟩
  · rintro exc middle after ⟨reads, failed⟩
    refine (?_ : contentExit handler message world.db world (.error exc) after)
    rw [contentExit, failed noFaults_faultless]
    exact ⟨rfl, reads⟩

/-- The same for the message, whose start is logged before. -/
theorem processMessage_faultless (create : message.actionType = some "create") :
    (handler.processMessage message).Ensures (faulty noFaults) (fun _ => True)
      (fun result _ after => contentExit handler message world.db
        (world.record ⟨.started message, ()⟩) result after) state world := by
  rw [processMessage, Action.ensures_bind]
  apply MessageHandlerService.logStarted_ensures (faulty_within _).records
  refine ⟨trivial, ?_⟩
  simp only
  rw [handler.dispatch_create create]
  exact createInstances_faultless

end Faultless

/-- A create that raises wrote nothing, just when the name of the flavor can be read
in every message that passes the reads before the first write. -/
theorem raising_create_writes_nothing_iff (handler : InstanceHandler) (message : Message)
    (create : message.actionType = some "create") (db : Cmdb)
    (complete : ∀ row ∈ db.reference.resourceClouds, row.id ≠ none) (state : FieldErrors) :
    (∀ exc errors last, Prog.Ends (faulty noFaults) ⟨db, []⟩ (handler.processMessage message state)
        (.error exc, errors) last → last.history.any Event.isWrite = false ∧ last.db = db) ↔
      ∀ content, readCreate handler message = .ok (some content) →
        ∃ name, flavorName content.instanceData = .ok name := by
  have ensured : (handler.processMessage message).Ensures (faulty noFaults) (fun _ => True)
      (fun result _ after => contentExit handler message db
        ((⟨db, []⟩ : World).record ⟨.started message, ()⟩) result after) state ⟨db, []⟩ :=
    processMessage_faultless create
  have cloud : ∀ content : CreateContent, CloudRead (content.context handler message db) := by
    intro content row found
    exact complete row (List.mem_of_find?_eq_some found)
  constructor
  · intro silent content read
    cases flavored : flavorName content.instanceData with
    | ok name => exact ⟨name, rfl⟩
    | error exc =>
      have raises : handler.createWrites (content.context handler message db) = .error exc :=
        createWrites_raises (cloud content) flavored
      obtain ⟨result, errors, last, run⟩ : ∃ result errors last,
          Prog.Ends (faulty noFaults) ⟨db, []⟩ (handler.processMessage message state)
            (result, errors) last :=
        ⟨_, _, _, Prog.run_ends faultless_possible _ _⟩
      have exit := ensured.at_end run
      simp only [contentExit, read, raises] at exit
      obtain ⟨issued, rfl⟩ := exit
      rw [Issued, (silent exc errors last run).1] at issued
      cases issued
  · intro readable exc errors last run
    have exit := ensured.at_end run
    cases read : readCreate handler message with
    | error early =>
      simp only [contentExit, read] at exit
      exact ⟨exit.2.unwritten, exit.2.db⟩
    | ok found =>
      cases found with
      | none =>
        simp only [contentExit, read] at exit
        cases exit.1
      | some content =>
        obtain ⟨name, flavored⟩ := readable content read
        obtain ⟨writes, returned⟩ : ∃ writes,
            handler.createWrites (content.context handler message db) = .ok writes :=
          createWrites_completes (cloud content) flavored
        simp only [contentExit, read, returned] at exit
        cases exit.2

/-- A create of the sample host without a flavor. Everything up to the new row
goes well with it. -/
def flavorless : Message :=
  { AsciiRuntime.createMessage "dc1-b1" [] [] with
    resources := some [{
      resourceType := some "instance"
      resourceBody := .value {
        name := .value "dc1-b1"
        id := .value "u1"
        metadata := .value .empty } }] }

/-- The equivalence at that create on a registered host, where both sides are
false. -/
theorem raising_create_writes_nothing_flavorless :
    (∀ exc errors last, Prog.Ends (faulty noFaults) ⟨AsciiRuntime.registered, []⟩
        (AsciiRuntime.handler.processMessage flavorless {}) (.error exc, errors) last →
      last.history.any Event.isWrite = false ∧ last.db = AsciiRuntime.registered) ↔
      ∀ content, readCreate AsciiRuntime.handler flavorless = .ok (some content) →
        ∃ name, flavorName content.instanceData = .ok name :=
  raising_create_writes_nothing_iff AsciiRuntime.handler flavorless rfl AsciiRuntime.registered
    (by simp [AsciiRuntime.registered, Cmdb.insertServer, Cmdb.empty, AsciiRuntime.reference]) {}

/-- The world after the create without a flavor, with every call answered. -/
def flavorlessEnd : World :=
  ((AsciiRuntime.handler.processMessage flavorless {}).run (World.answer .ok)
    ⟨AsciiRuntime.registered, []⟩).2

/-- The missing flavor raises when the registered row was already replaced. -/
theorem flavorless_replaces_row :
    Prog.Ends (faulty noFaults) ⟨AsciiRuntime.registered, []⟩
        (AsciiRuntime.handler.processMessage flavorless {}) (.error (.keyError "flavor"), {})
        flavorlessEnd ∧
      flavorlessEnd.history.any Event.isWrite = true ∧
      AsciiRuntime.registered.servers.rows.map Row.id = [0] ∧
      flavorlessEnd.db.servers.rows.map Row.id = [1] :=
  ⟨Prog.run_ends faultless_possible _ _, by decide, rfl, rfl⟩

end InstanceLifecycle
