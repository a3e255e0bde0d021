import InstanceLifecycle.Handler.InsertOnce

/-!
# The exceptions that leave the engine

One call against outcomes fixed in advance: what the operation and the selector
answer at each attempt. In an attempt each of them is asked at most once, so this
covers every sequence of outcomes. The world is the number of attempts used up.

An exception of the operation leaves the call as a `_CmdbException` or as a transport
error. One of the selector is raised as it is, whatever its kind, when the attempt was
the last.
-/

namespace InstanceLifecycle

open Interaction

/-- What the operation and the selector answer at each attempt. -/
structure CallOutcomes (ρ : Type) where
  op : Nat → Except Exn ρ
  selector : Nat → Except Exn (Option ρ)

namespace CallOutcomes

variable {ρ : Type} (outcomes : CallOutcomes ρ)

/-- An invocation and a failed re-select use up an attempt. -/
def answer : (op : InsertCall) → Nat → (insertCalls ρ).Reply op × Nat
  | .insert, used => (outcomes.op (used + 1), used + 1)
  | .reselect, used =>
      (outcomes.selector (used + 1),
        match outcomes.selector (used + 1) with
        | .error _ => used + 1
        | .ok _ => used)

/-- The outcomes as an environment. -/
def env : Env (insertCalls ρ) Nat := fun op before reply after =>
  reply = (outcomes.answer op before).1 ∧ after = (outcomes.answer op before).2

/-- Is the selector asked at this attempt? -/
def asks (recovers : Bool) (attempt : Nat) : Bool := recovers && decide (1 < attempt)

/-- The re-select of the attempt failed. -/
def reselectFails (recovers : Bool) (attempt : Nat) : Prop :=
  asks recovers attempt = true ∧ ∃ exc, outcomes.selector attempt = .error exc

/-- The attempt found no row and its invocation failed by transport. -/
def invocationLost (recovers : Bool) (attempt : Nat) : Prop :=
  (asks recovers attempt = true → outcomes.selector attempt = .ok none) ∧
    ∃ exc, outcomes.op attempt = .error exc ∧ classify exc = .transport

/-- The attempt leaves open whether the operation took effect. -/
def ambiguous (recovers : Bool) (attempt : Nat) : Prop :=
  outcomes.reselectFails recovers attempt ∨ outcomes.invocationLost recovers attempt

/-- Every attempt but the last is ambiguous, and the re-select of the last one raises
an exception that is not one of transport. -/
def lastReselectRaises (recovers : Bool) (budget : Nat) : Prop :=
  (∀ attempt, 1 ≤ attempt → attempt < budget → outcomes.ambiguous recovers attempt) ∧
    asks recovers budget = true ∧
    ∃ exc, outcomes.selector budget = .error exc ∧ classify exc ≠ .transport

end CallOutcomes

/-- An exception that leaves the call is a `_CmdbException` the caller asked for, or
one of transport. -/
def Deliberate {ρ : Type} (options : CallOptions) (result : Except Exn (Option ρ)) : Prop :=
  ∀ exc, result = .error exc →
    (exc.isCmdbException = true ∧ options.raiseOnDataError = true) ∨ classify exc = .transport

section Exits

variable {ρ : Type} {handler : InstanceHandler} {options : CallOptions} {recovers : Bool}
  {outcomes : CallOutcomes ρ} {state : FieldErrors} {attempt : Nat}

/-- How a call ends against these outcomes. -/
def deliberateExit (outcomes : CallOutcomes ρ) (options : CallOptions) (recovers : Bool)
    (budget : Nat) (result : Except Exn (Option ρ)) : Prop :=
  Deliberate options result ↔ ¬ outcomes.lastReselectRaises recovers budget

/-- A returned row is no exception, so nothing is asked of it. -/
theorem deliberate_row (row : ρ) : Deliberate options (.ok (some row)) := by
  intro exc same
  cases same

/-- An exception of the transport may leave the call by design. -/
theorem deliberate_transport {exc : Exn} (transport : classify exc = .transport) :
    Deliberate options (.error exc : Except Exn (Option ρ)) := by
  rintro _ ⟨⟩
  exact Or.inr transport

/-- A reported failure is raised on demand only. -/
theorem deliberate_reported (options : CallOptions) (text : String) :
    Deliberate options (if options.raiseOnDataError then
      .error (.cmdbException text) else .ok none : Except Exn (Option ρ)) := by
  intro exc same
  by_cases raises : options.raiseOnDataError = true
  · rw [if_pos raises] at same
    cases same
    exact Or.inl ⟨rfl, raises⟩
  · rw [if_neg raises] at same
    cases same

/-- The re-select of the attempt did not fail. -/
theorem unfailed_of_answer (asked : CallOutcomes.asks recovers attempt = true →
      ∃ found, outcomes.selector attempt = .ok found) :
    ¬ outcomes.reselectFails recovers attempt := by
  rintro ⟨asks, exc, failed⟩
  obtain ⟨found, answered⟩ := asked asks
  rw [answered] at failed
  cases failed

/-- A call that ends at an attempt without a failed re-select: a lost invocation was
the last one. -/
theorem exit_unfailed {budget : Nat} (within : attempt ≤ budget) (positive : 1 ≤ attempt)
    (unfailed : ¬ outcomes.reselectFails recovers attempt)
    (ended : ¬ outcomes.invocationLost recovers attempt ∨ attempt = budget)
    {result : Except Exn (Option ρ)} (deliberate : Deliberate options result) :
    deliberateExit outcomes options recovers budget result := by
  refine ⟨fun _ raises => ?_, fun _ => deliberate⟩
  obtain ⟨earlier, asks, exc, failed, _⟩ := raises
  have last : attempt ≠ budget := by
    rintro rfl
    exact unfailed ⟨asks, exc, failed⟩
  rcases earlier attempt positive (by omega) with fails | lost
  · exact unfailed fails
  · exact ended.elim (fun settled => settled lost) last

/-- No own exception comes out of the operation or the selector. -/
structure Foreign (outcomes : CallOutcomes ρ) : Prop where
  op : ∀ attempt exc, outcomes.op attempt = .error exc → exc.isCmdbException = false
  selector : ∀ attempt exc, outcomes.selector attempt = .error exc → exc.isCmdbException = false

/-- One invocation of the insert leaves the call as it should: a lost one is
repeated unless it was the last, and the exception of the last is one of
transport. -/
theorem invokeOp_exit {used : Nat} {last : Bool}
    {retry : Action (insertCalls ρ) FieldErrors Exn (Option ρ)} (foreign : Foreign outcomes)
    (within : used < handler.budget options)
    (missing : CallOutcomes.asks recovers (used + 1) = true →
      outcomes.selector (used + 1) = .ok none)
    (isLast : last = true → used + 1 = handler.budget options)
    (retried : last = false → outcomes.ambiguous recovers (used + 1) →
      retry.Ensures outcomes.env (fun _ => True)
        (fun result _ _ => deliberateExit outcomes options recovers (handler.budget options) result)
        state (used + 1)) :
    (handler.invokeOp options last (insertOp ρ) retry).Ensures outcomes.env (fun _ => True)
      (fun result _ _ => deliberateExit outcomes options recovers (handler.budget options) result)
      state used := by
  have unfailed : ¬ outcomes.reselectFails recovers (used + 1) :=
    unfailed_of_answer fun asks => ⟨none, missing asks⟩
  rw [InstanceHandler.invokeOp, Action.ensures_bind, Action.ensures_attempt, insertOp,
    Action.ensures_request]
  rintro reply after ⟨replied, rfl⟩
  refine ⟨trivial, ?_⟩
  simp only [CallOutcomes.answer] at replied ⊢
  cases answered : outcomes.op (used + 1) with
  | ok row =>
    have settled : ¬ outcomes.invocationLost recovers (used + 1) := by
      rintro ⟨_, exc, lost, _⟩
      rw [answered] at lost
      cases lost
    rw [replied, answered]
    exact exit_unfailed within (Nat.le_add_left 1 used) unfailed (Or.inl settled)
      (deliberate_row row)
  | error exc =>
    rw [replied, answered]
    simp only [foreign.op _ exc answered]
    by_cases transport : classify exc = .transport
    · have lost : outcomes.invocationLost recovers (used + 1) :=
        ⟨missing, exc, answered, transport⟩
      simp only [transport]
      cases last with
      | true =>
        exact exit_unfailed within (Nat.le_add_left 1 used) unfailed (Or.inr (isLast rfl))
          (deliberate_transport transport)
      | false => exact retried rfl (Or.inr lost)
    · have settled : ¬ outcomes.invocationLost recovers (used + 1) := by
        rintro ⟨_, other, lost, kind⟩
        rw [answered] at lost
        cases lost
        exact transport kind
      rw [if_neg Bool.false_ne_true, if_pos transport, InstanceHandler.reportFailure,
        Action.ensures_bind, Action.ensures_modify]
      have reported := exit_unfailed within (Nat.le_add_left 1 used) unfailed (Or.inl settled)
        (deliberate_reported (ρ := ρ) options (handler.errorMessage options exc))
      simp only
      split
      · rename_i raises
        rw [if_pos raises] at reported
        exact reported
      · rename_i swallows
        rw [if_neg swallows] at reported
        exact reported

/-- One pass of the loop: a failed re-select is repeated unless it was the last. -/
theorem attemptOnce_exit {attempts : Nat}
    {retry : Action (insertCalls ρ) FieldErrors Exn (Option ρ)} (foreign : Foreign outcomes)
    (total : attempts = handler.budget options) (positive : 1 ≤ attempt)
    (within : attempt ≤ attempts)
    (pending : ∀ earlier, 1 ≤ earlier → earlier < attempt → outcomes.ambiguous recovers earlier)
    (retried : attempt < attempts → outcomes.ambiguous recovers attempt →
      retry.Ensures outcomes.env (fun _ => True)
        (fun result _ _ => deliberateExit outcomes options recovers (handler.budget options) result)
        state attempt) :
    (handler.attemptOnce options (insertOp ρ) (if recovers then some (reselectOp ρ) else none)
      attempts attempt retry).Ensures outcomes.env (fun _ => True)
      (fun result _ _ => deliberateExit outcomes options recovers (handler.budget options) result)
      state (attempt - 1) := by
  obtain ⟨used, rfl⟩ : ∃ used, attempt = used + 1 := ⟨attempt - 1, by omega⟩
  rw [Nat.add_sub_cancel]
  have isLast : decide (attempts ≤ used + 1) = true → used + 1 = handler.budget options := by
    intro last
    have bound := of_decide_eq_true last
    omega
  have again : decide (attempts ≤ used + 1) = false → outcomes.ambiguous recovers (used + 1) →
      retry.Ensures outcomes.env (fun _ => True)
        (fun result _ _ => deliberateExit outcomes options recovers (handler.budget options) result)
        state (used + 1) := by
    intro more ambiguous
    have bound := of_decide_eq_false more
    exact retried (by omega) ambiguous
  have invoke : (CallOutcomes.asks recovers (used + 1) = true →
        outcomes.selector (used + 1) = .ok none) →
      (handler.invokeOp options (decide (attempts ≤ used + 1)) (insertOp ρ) retry).Ensures
        outcomes.env (fun _ => True)
        (fun result _ _ => deliberateExit outcomes options recovers (handler.budget options) result)
        state used :=
    fun missing => invokeOp_exit foreign (by omega) missing isLast again
  unfold InstanceHandler.attemptOnce
  cases recovers with
  | false => exact invoke fun asks => by cases asks
  | true =>
    simp only [if_true]
    by_cases later : 1 < used + 1
    · have asks : CallOutcomes.asks true (used + 1) = true := decide_eq_true later
      rw [if_pos later, InstanceHandler.reselect, recoverInsert, Action.ensures_bind,
        Action.ensures_attempt, reselectOp, Action.ensures_request]
      rintro reply after ⟨replied, rfl⟩
      refine ⟨trivial, ?_⟩
      simp only [CallOutcomes.answer] at replied ⊢
      cases answered : outcomes.selector (used + 1) with
      | ok found =>
        rw [replied, answered]
        cases found with
        | none => exact invoke fun _ => answered
        | some row =>
          have settled : ¬ outcomes.invocationLost true (used + 1) := by
            rintro ⟨missing, _⟩
            rw [missing asks] at answered
            cases answered
          exact exit_unfailed (by omega) positive (unfailed_of_answer fun _ => ⟨_, answered⟩)
            (Or.inl settled) (deliberate_row row)
      | error exc =>
        have fails : outcomes.reselectFails true (used + 1) := ⟨asks, exc, answered⟩
        rw [replied, answered]
        simp only
        by_cases last : decide (attempts ≤ used + 1) = true
        · -- The exit of the defect: the exception of the selector is raised as it is.
          have same := isLast last
          rw [if_pos last]
          constructor
          · rintro deliberate ⟨_, _, other, failed, kind⟩
            rw [← same, answered] at failed
            cases failed
            rcases deliberate exc rfl with ⟨own, _⟩ | transport
            · rw [foreign.selector _ exc answered] at own
              cases own
            · exact kind transport
          · rintro unraised _ ⟨⟩
            refine Or.inr (Decidable.byContradiction fun kind => unraised ⟨?_, ?_, exc, ?_, kind⟩)
            · rw [← same]
              exact pending
            · rw [← same]
              exact asks
            · rw [← same]
              exact answered
        · rw [if_neg last]
          exact again (Bool.not_eq_true _ ▸ last) (Or.inl fails)
    · rw [if_neg later]
      exact invoke fun asks => absurd (of_decide_eq_true asks) later

/-- The loop leaves the call as it should. By induction on the attempts left;
what it carries is that every earlier attempt was ambiguous. -/
theorem attemptLoop_exit (foreign : Foreign outcomes) (left : Nat)
    (within : left < handler.budget options)
    (pending : ∀ earlier, 1 ≤ earlier → earlier < handler.budget options - left →
      outcomes.ambiguous recovers earlier) :
    (handler.attemptLoop options (insertOp ρ) (if recovers then some (reselectOp ρ) else none)
      (handler.budget options) (left + 1)).Ensures outcomes.env (fun _ => True)
      (fun result _ _ => deliberateExit outcomes options recovers (handler.budget options) result)
      state (handler.budget options - left - 1) := by
  induction left with
  | zero =>
    apply attemptOnce_exit foreign rfl (by omega) (by omega) pending
    intro more
    omega
  | succ left ih =>
    apply attemptOnce_exit foreign rfl (by omega) (by omega) pending
    intro more ambiguous
    have next := ih (by omega) fun earlier positive before => by
      by_cases last : earlier = handler.budget options - (left + 1)
      · exact last ▸ ambiguous
      · exact pending earlier positive (by omega)
    rw [Nat.sub_sub] at next
    exact next

end Exits

/-- The result of one call against these outcomes. -/
def callResult {ρ : Type} (handler : InstanceHandler) (options : CallOptions) (recovers : Bool)
    (outcomes : CallOutcomes ρ) (state : FieldErrors) : Except Exn (Option ρ) :=
  ((handler.cmdbCall options (insertOp ρ) (if recovers then some (reselectOp ρ) else none)
    state).run outcomes.answer 0).1.1

/-- For every sequence of outcomes of the operation and the selector, none of them the
service's own exception: an exception that leaves the call is deliberate or retryable,
unless the call re-selects at its last attempt and that raises something else. -/
theorem leaving_exceptions_deliberate {ρ : Type} (handler : InstanceHandler)
    (options : CallOptions) (recovers : Bool) (outcomes : CallOutcomes ρ)
    (foreign : Foreign outcomes) (state : FieldErrors) :
    Deliberate options (callResult handler options recovers outcomes state) ↔
      ¬ outcomes.lastReselectRaises recovers (handler.budget options) := by
  have positive := handler.budget_positive options
  obtain ⟨left, counted⟩ : ∃ left, handler.budget options = left + 1 :=
    ⟨handler.budget options - 1, by omega⟩
  have call : (handler.attemptLoop options (insertOp ρ)
      (if recovers then some (reselectOp ρ) else none) (handler.budget options) (left + 1)).Ensures
      outcomes.env (fun _ => True)
      (fun result _ _ => deliberateExit outcomes options recovers (handler.budget options) result)
      state (handler.budget options - left - 1) := by
    apply attemptLoop_exit foreign left (by omega)
    intro earlier first before
    omega
  have fresh : handler.budget options - left - 1 = 0 := by omega
  rw [← counted, fresh] at call
  exact call.at_end (Prog.run_ends (fun _ _ => ⟨rfl, rfl⟩) _ _)

/-- The request of the insert is lost and the re-select raises a bare `KeyError`. -/
def reselectKeyError : CallOutcomes Nat where
  op := fun _ => .error (.requestException "lost")
  selector := fun _ => .error (.keyError "errors")

/-- A KeyError of the re-select is foreign: neither transport nor an answer of
the CMDB. -/
theorem reselectKeyError_foreign : Foreign reselectKeyError := by
  constructor
  · rintro _ _ ⟨⟩
    rfl
  · rintro _ _ ⟨⟩
    rfl

/-- With one attempt there is no re-select, so its KeyError is never raised and
the exits are deliberate. -/
theorem leaving_exceptions_deliberate_once :
    Deliberate { field := "ip.insert", raiseOnDataError := true, attempts := some 1 }
      (callResult AsciiRuntime.handler
        { field := "ip.insert", raiseOnDataError := true, attempts := some 1 } true
        reselectKeyError {}) := by
  refine (leaving_exceptions_deliberate AsciiRuntime.handler _ true reselectKeyError
    reselectKeyError_foreign {}).mpr ?_
  rintro ⟨_, asks, _⟩
  cases asks

/-- With two attempts the `KeyError` leaves the call, and the message is rejected
without a retry. -/
theorem reselect_keyError_leaves :
    Foreign reselectKeyError ∧
      callResult AsciiRuntime.handler
        { field := "ip.insert", raiseOnDataError := true, attempts := some 2 } true
        reselectKeyError {} = .error (.keyError "errors") ∧
      (Exn.keyError "errors").abortsMessage = true ∧
      ¬ Deliberate { field := "ip.insert", raiseOnDataError := true, attempts := some 2 }
        (callResult AsciiRuntime.handler
          { field := "ip.insert", raiseOnDataError := true, attempts := some 2 } true
          reselectKeyError {}) := by
  have raised : callResult AsciiRuntime.handler
      { field := "ip.insert", raiseOnDataError := true, attempts := some 2 } true
      reselectKeyError {} = .error (.keyError "errors") := rfl
  refine ⟨reselectKeyError_foreign, raised, rfl, ?_⟩
  intro deliberate
  rw [raised] at deliberate
  rcases deliberate _ rfl with ⟨own, _⟩ | transport
  · cases own
  · cases transport

end InstanceLifecycle
