import InstanceLifecycle.Handler.InsertOnce

/-!
# The budget of one call

One run of the engine against an operation and a selector with arbitrary outcomes,
recorded in order. An attempt is used up by a failed invocation or by a failed
re-select. While every attempt was ambiguous the run is still open; the first other
outcome closes it, and what it leaves in the accumulator follows from that outcome.
-/

namespace InstanceLifecycle

open Interaction

variable {ρ : Type}

/-- One call of the engine with its outcome. -/
inductive EngineEvent (ρ : Type) where
  | invoked (outcome : Except Exn ρ)
  | reselected (outcome : Except Exn (Option ρ))

namespace EngineEvent

/-- Does the event use up an attempt? -/
def usesAttempt : EngineEvent ρ → Bool
  | .invoked _ => true
  | .reselected (.error _) => true
  | .reselected (.ok _) => false

/-- The exception the event ended in, if any. -/
def raised : EngineEvent ρ → Option Exn
  | .invoked (.error exc) => some exc
  | .reselected (.error exc) => some exc
  | _ => none

/-- Did an invocation end other than by transport? -/
def settles : EngineEvent ρ → Bool
  | .invoked (.ok _) => true
  | .invoked (.error exc) => decide (classify exc ≠ .transport)
  | .reselected _ => false

/-- Did a re-select find the row? -/
def recovers : EngineEvent ρ → Bool
  | .reselected (.ok (some _)) => true
  | _ => false

/-- The permanent or unknown error an invocation ended in, if any. -/
def permanent : EngineEvent ρ → Option Exn
  | .invoked (.error exc) => if classify exc ≠ .transport then some exc else none
  | _ => none

end EngineEvent

/-- Invocations and failed re-selects. -/
def attemptsUsed (history : List (EngineEvent ρ)) : Nat :=
  (history.filter EngineEvent.usesAttempt).length

/-- Any outcome at any call, but no `_CmdbException` out of the operation. -/
def anyOutcome (ρ : Type) : Env (insertCalls ρ) (List (EngineEvent ρ))
  | .insert, before, reply, after =>
      (∀ exc, (reply : Except Exn ρ) = .error exc → exc.isCmdbException = false) ∧
        after = before ++ [.invoked reply]
  | .reselect, before, reply, after => after = before ++ [.reselected reply]

/-- What a call adds to the accumulator, by its recorded outcomes. -/
def reportOf (handler : InstanceHandler) (options : CallOptions)
    (history : List (EngineEvent ρ)) : List ErrorEntry :=
  match history.findSome? EngineEvent.permanent with
  | some exc =>
      if options.errors then
        [⟨options.label, handler.errorMessage options exc, options.markStateError,
          options.includeInStatusDetails⟩]
      else []
  | none => []

/-- The budget and the report of a finished call. -/
structure CallSettled (handler : InstanceHandler) (options : CallOptions) (state : FieldErrors)
    (result : Except Exn (Option ρ)) (errors : FieldErrors) (history : List (EngineEvent ρ)) :
    Prop where
  bounded : attemptsUsed history ≤ handler.budget options
  exhausted : history.any EngineEvent.settles = false →
    history.any EngineEvent.recovers = false →
    attemptsUsed history = handler.budget options ∧
      ∃ earlier last exc, history = earlier ++ [last] ∧ last.raised = some exc ∧
        result = .error exc
  closed : ∀ earlier event later, history = earlier ++ event :: later → event.settles = true →
    later = []
  reported : errors.entries = state.entries ++ reportOf handler options history

/-- The run is open: every attempt so far was ambiguous. -/
structure Ambiguous (history : List (EngineEvent ρ)) (used : Nat) : Prop where
  unsettled : ∀ event ∈ history, event.settles = false
  missing : ∀ event ∈ history, event.recovers = false
  counted : attemptsUsed history = used

namespace Ambiguous

variable {history : List (EngineEvent ρ)} {used : Nat}

/-- Nothing is recorded while the run is open: a rejection would have settled
it, and only a rejection is recorded. -/
theorem unreported (pending : Ambiguous history used) :
    history.findSome? EngineEvent.permanent = none := by
  rw [List.findSome?_eq_none_iff]
  intro event member
  have quiet := pending.unsettled event member
  cases event with
  | reselected outcome => rfl
  | invoked outcome =>
    cases outcome with
    | ok row => cases quiet
    | error exc =>
      rw [EngineEvent.permanent, if_neg]
      exact of_decide_eq_false quiet

/-- A re-select that found no row uses up no attempt and leaves the run open. -/
theorem absent (pending : Ambiguous history used) :
    Ambiguous (history ++ [.reselected (.ok none)]) used := by
  refine ⟨?_, ?_, ?_⟩
  · intro event member
    rcases List.mem_append.mp member with old | new
    · exact pending.unsettled event old
    · rw [List.mem_singleton.mp new]
      rfl
  · intro event member
    rcases List.mem_append.mp member with old | new
    · exact pending.missing event old
    · rw [List.mem_singleton.mp new]
      rfl
  · simpa [attemptsUsed, EngineEvent.usesAttempt] using pending.counted

/-- A failed re-select or a transport failure uses up one attempt, and the run
is open still. -/
theorem failed (pending : Ambiguous history used) {event : EngineEvent ρ}
    (uses : event.usesAttempt = true) (unsettled : event.settles = false)
    (missing : event.recovers = false) : Ambiguous (history ++ [event]) (used + 1) := by
  refine ⟨?_, ?_, ?_⟩
  · intro other member
    rcases List.mem_append.mp member with old | new
    · exact pending.unsettled other old
    · rw [List.mem_singleton.mp new]
      exact unsettled
  · intro other member
    rcases List.mem_append.mp member with old | new
    · exact pending.missing other old
    · rw [List.mem_singleton.mp new]
      exact missing
  · have counted := pending.counted
    simp only [attemptsUsed] at counted
    simp [attemptsUsed, uses, counted]

/-- The event that settles a run is its last one, because none before it does.
-/
theorem closed (pending : Ambiguous history used) (event : EngineEvent ρ) :
    ∀ earlier settling later, history ++ [event] = earlier ++ settling :: later →
      settling.settles = true → later = [] := by
  intro earlier settling later parts settled
  rcases List.eq_nil_or_concat later with none | ⟨front, last, more⟩
  · exact none
  · rw [more, List.concat_eq_append, ← List.cons_append, ← List.append_assoc] at parts
    have before := List.append_inj_left' parts rfl
    have member : settling ∈ history := by
      rw [before]
      simp
    rw [pending.unsettled settling member] at settled
    cases settled

end Ambiguous

section Exits

variable {handler : InstanceHandler} {options : CallOptions} {state : FieldErrors}
  {history : List (EngineEvent ρ)} {used : Nat}

/-- What one more event of an open run adds to the report. -/
theorem reportOf_append (pending : Ambiguous history used) (event : EngineEvent ρ) :
    reportOf handler options (history ++ [event]) = reportOf handler options [event] := by
  rw [reportOf, List.findSome?_append, pending.unreported]
  rfl

/-- A run that ends with a row, or with an error that is not one of transport. -/
theorem settled_exit (pending : Ambiguous history used) (within : used < handler.budget options)
    (event : EngineEvent ρ) (ends : event.settles = true ∨ event.recovers = true)
    {result : Except Exn (Option ρ)} {errors : FieldErrors}
    (reported : errors.entries = state.entries ++ reportOf handler options [event]) :
    CallSettled handler options state result errors (history ++ [event]) := by
  refine ⟨?_, ?_, pending.closed event, ?_⟩
  · have counted := pending.counted
    have one : ([event].filter EngineEvent.usesAttempt).length ≤ 1 := List.length_filter_le _ _
    simp only [attemptsUsed, List.filter_append, List.length_append] at counted ⊢
    omega
  · intro unsettled missing
    rw [List.any_append, Bool.or_eq_false_iff] at unsettled missing
    simp only [List.any_cons, List.any_nil, Bool.or_false] at unsettled missing
    rcases ends with settles | recovers
    · rw [unsettled.2] at settles
      cases settles
    · rw [missing.2] at recovers
      cases recovers
  · rw [reportOf_append pending]
    exact reported

/-- A run whose last attempt was ambiguous too ends with the exception of that
attempt. The budget is used up to the end, and nothing is recorded. -/
theorem exhausted_exit (pending : Ambiguous history used) (event : EngineEvent ρ) {exc : Exn}
    (last : used + 1 = handler.budget options) (uses : event.usesAttempt = true)
    (unsettled : event.settles = false) (missing : event.recovers = false)
    (raised : event.raised = some exc) :
    CallSettled handler options state (.error exc) state (history ++ [event]) := by
  have further := pending.failed uses unsettled missing
  refine ⟨?_, ?_, pending.closed event, ?_⟩
  · rw [further.counted]
    exact Nat.le_of_eq last
  · intro _ _
    exact ⟨further.counted.trans last, history, event, exc, rfl, raised, rfl⟩
  · rw [reportOf, further.unreported, List.append_nil]

end Exits

/-- A permanent failure is reported once. -/
theorem recorded_entries (handler : InstanceHandler) (options : CallOptions) (state : FieldErrors)
    {exc : Exn} (permanent : classify exc ≠ .transport) :
    (handler.recorded options exc state).entries =
      state.entries ++ reportOf handler options [(.invoked (.error exc) : EngineEvent ρ)] := by
  have found : ([(.invoked (.error exc) : EngineEvent ρ)].findSome? EngineEvent.permanent) =
      some exc := by
    simp [EngineEvent.permanent, permanent]
  rw [reportOf, found, InstanceHandler.recorded]
  by_cases accumulates : options.errors = true
  · simp [accumulates, FieldErrors.add]
  · simp [accumulates]

section Loop

variable {handler : InstanceHandler} {options : CallOptions} {state : FieldErrors}

/-- Before an invocation the run is open; it ends settled, or open with one attempt
more used up. -/
theorem invokeOp_budget {used : Nat} {history : List (EngineEvent ρ)}
    {retry : Action (insertCalls ρ) FieldErrors Exn (Option ρ)} {last : Bool}
    (pending : Ambiguous history used) (within : used < handler.budget options)
    (isLast : last = true → used + 1 = handler.budget options)
    (retried : last = false → ∀ history, Ambiguous history (used + 1) →
      retry.Ensures (anyOutcome ρ) (fun _ => True) (CallSettled handler options state) state
        history) :
    (handler.invokeOp options last (insertOp ρ) retry).Ensures (anyOutcome ρ) (fun _ => True)
      (CallSettled handler options state) state history := by
  rw [InstanceHandler.invokeOp, Action.ensures_bind, Action.ensures_attempt, insertOp,
    Action.ensures_request]
  rintro reply after ⟨foreign, rfl⟩
  refine ⟨trivial, ?_⟩
  cases reply with
  | ok row =>
    have silent : state.entries = state.entries ++
        reportOf handler options [(.invoked (.ok row) : EngineEvent ρ)] := by
      simp [reportOf, EngineEvent.permanent]
    exact settled_exit pending within _ (Or.inl rfl) silent
  | error exc =>
    simp only [foreign exc rfl]
    by_cases transport : classify exc = .transport
    · have unsettled : (EngineEvent.invoked (.error exc) : EngineEvent ρ).settles = false :=
        decide_eq_false (not_not.mpr transport)
      simp only [transport]
      cases last with
      | true => exact exhausted_exit pending _ (isLast rfl) rfl unsettled rfl rfl
      | false => exact retried rfl _ (pending.failed rfl unsettled rfl)
    · have settles : (EngineEvent.invoked (.error exc) : EngineEvent ρ).settles = true :=
        decide_eq_true transport
      rw [if_neg Bool.false_ne_true, if_pos transport, InstanceHandler.reportFailure,
        Action.ensures_bind, Action.ensures_modify]
      simp only
      have reported : (handler.recorded options exc state).entries = state.entries ++
          reportOf handler options [(.invoked (.error exc) : EngineEvent ρ)] :=
        recorded_entries handler options state transport
      split
      · exact settled_exit pending within _ (Or.inl settles) reported
      · exact settled_exit pending within _ (Or.inl settles) reported

/-- One pass of the loop. The first one starts with an invocation, the others re-select. -/
theorem attemptOnce_budget {attempts attempt : Nat} {history : List (EngineEvent ρ)}
    {retry : Action (insertCalls ρ) FieldErrors Exn (Option ρ)} (recovers : Bool)
    (total : attempts = handler.budget options) (positive : 1 ≤ attempt)
    (within : attempt ≤ attempts) (pending : Ambiguous history (attempt - 1))
    (retried : attempt < attempts → ∀ history, Ambiguous history attempt →
      retry.Ensures (anyOutcome ρ) (fun _ => True) (CallSettled handler options state) state
        history) :
    (handler.attemptOnce options (insertOp ρ) (if recovers then some (reselectOp ρ) else none)
      attempts attempt retry).Ensures (anyOutcome ρ) (fun _ => True)
      (CallSettled handler options state) state history := by
  have isLast : decide (attempts ≤ attempt) = true → attempt - 1 + 1 = handler.budget options := by
    intro last
    have bound := of_decide_eq_true last
    omega
  have again : decide (attempts ≤ attempt) = false → ∀ history,
      Ambiguous history (attempt - 1 + 1) → retry.Ensures (anyOutcome ρ) (fun _ => True)
        (CallSettled handler options state) state history := by
    intro more history later
    have bound := of_decide_eq_false more
    rw [Nat.sub_add_cancel positive] at later
    exact retried (by omega) history later
  have invoke : ∀ history, Ambiguous history (attempt - 1) →
      (handler.invokeOp options (decide (attempts ≤ attempt)) (insertOp ρ) retry).Ensures
        (anyOutcome ρ) (fun _ => True) (CallSettled handler options state) state history :=
    fun history pending => invokeOp_budget pending (by omega) isLast again
  unfold InstanceHandler.attemptOnce
  cases recovers with
  | false => exact invoke history pending
  | true =>
    simp only [if_true]
    split
    · -- The re-select: found, missing, or failed.
      rw [InstanceHandler.reselect, recoverInsert, Action.ensures_bind, Action.ensures_attempt,
        reselectOp, Action.ensures_request]
      rintro reply after rfl
      refine ⟨trivial, ?_⟩
      cases reply with
      | ok found =>
        cases found with
        | none => exact invoke _ pending.absent
        | some row =>
          exact settled_exit pending (by omega) _ (Or.inr rfl)
            (by simp [reportOf, EngineEvent.permanent])
      | error exc =>
        simp only
        by_cases last : decide (attempts ≤ attempt) = true
        · rw [if_pos last]
          exact exhausted_exit pending _ (isLast last) rfl rfl rfl rfl
        · rw [if_neg last]
          exact again (Bool.not_eq_true _ ▸ last) _ (pending.failed rfl rfl rfl)
    · exact invoke history pending

/-- The loop of `cmdb_call` settles the call within its budget. By induction on
the attempts left; what it carries is that the events so far are ambiguous and
how many of them count. -/
theorem attemptLoop_budget (recovers : Bool) (left : Nat)
    (within : left < handler.budget options) (history : List (EngineEvent ρ))
    (pending : Ambiguous history (handler.budget options - left - 1)) :
    (handler.attemptLoop options (insertOp ρ) (if recovers then some (reselectOp ρ) else none)
      (handler.budget options) (left + 1)).Ensures (anyOutcome ρ) (fun _ => True)
      (CallSettled handler options state) state history := by
  induction left generalizing history with
  | zero =>
    apply attemptOnce_budget recovers rfl (by omega) (by omega) pending
    intro more
    omega
  | succ left ih =>
    apply attemptOnce_budget recovers rfl (by omega) (by omega) pending
    intro more history later
    apply ih (by omega) history
    rw [Nat.sub_sub]
    exact later

end Loop

/-- For every number of attempts, with or without a selector, and for every sequence of
outcomes: invocations and failed re-selects stay within `max(1, attempts)`, and use it up
when none of them settles the call, whose last exception is then raised; the first
outcome of the operation that is not a transport failure is the last event; and the
accumulator gains one entry for a permanent or unknown error and nothing otherwise. -/
theorem call_budget_settled (handler : InstanceHandler) (options : CallOptions) (recovers : Bool)
    (state errors : FieldErrors) (result : Except Exn (Option ρ))
    (history : List (EngineEvent ρ))
    (run : Prog.Ends (anyOutcome ρ) []
      (handler.cmdbCall options (insertOp ρ) (if recovers then some (reselectOp ρ) else none) state)
      (result, errors) history) :
    CallSettled handler options state result errors history := by
  have positive := handler.budget_positive options
  obtain ⟨left, counted⟩ : ∃ left, handler.budget options = left + 1 :=
    ⟨handler.budget options - 1, by omega⟩
  have fresh : Ambiguous ([] : List (EngineEvent ρ)) (handler.budget options - left - 1) := by
    rw [counted, Nat.add_sub_cancel_left]
    exact ⟨by simp, by simp, rfl⟩
  have call : (handler.attemptLoop options (insertOp ρ)
      (if recovers then some (reselectOp ρ) else none) (handler.budget options) (left + 1)).Ensures
      (anyOutcome ρ) (fun _ => True) (CallSettled handler options state) state [] :=
    attemptLoop_budget recovers left (by omega) [] fresh
  rw [← counted] at call
  exact call.at_end run

/-- The request is lost, the row is missing, and the second invocation is rejected. -/
def rejectedLater : (op : InsertCall) → List (EngineEvent Nat) →
    (insertCalls Nat).Reply op × List (EngineEvent Nat)
  | .insert, [] =>
      (.error (.requestException "lost"), [.invoked (.error (.requestException "lost"))])
  | .insert, history =>
      (.error (.cmdbError "rejected"), history ++ [.invoked (.error (.cmdbError "rejected"))])
  | .reselect, history => (.ok none, history ++ [.reselected (.ok none)])

/-- An insert lost at first and rejected later is a possible sequence of
outcomes. -/
theorem rejectedLater_possible (op : (insertCalls Nat).Op) (history : List (EngineEvent Nat)) :
    anyOutcome Nat op history (rejectedLater op history).1 (rejectedLater op history).2 := by
  cases op with
  | insert =>
    cases history with
    | nil =>
      refine ⟨?_, rfl⟩
      rintro exc ⟨⟩
      rfl
    | cons first rest =>
      refine ⟨?_, rfl⟩
      rintro exc ⟨⟩
      rfl
  | reselect => rfl

/-- A lost insert, a re-select that finds nothing and a rejection: one entry is
recorded, and the call returns no row. -/
theorem call_budget_settled_rejected :
    CallSettled AsciiRuntime.handler { field := "ip", errors := true } {} (.ok none)
      ⟨[⟨"ip", "Error while saving \"ip\" rejected. \n", true, true⟩]⟩
      [.invoked (.error (.requestException "lost")), .reselected (.ok none),
        (.invoked (.error (.cmdbError "rejected")) : EngineEvent Nat)] :=
  call_budget_settled AsciiRuntime.handler { field := "ip", errors := true } true {} _ _ _
    (Prog.ends_of_run rejectedLater rejectedLater_possible rfl)

end InstanceLifecycle
