import InstanceLifecycle.Handler.Utils

/-!
# The retry and reporting engine

One CMDB operation is invoked up to a budget of attempts. A transport failure is
ambiguous: the operation may have taken effect. An insert therefore carries a
selector that looks for the row before every repeated invocation; a failing
selector uses up an attempt without an invocation. Every other failure ends the
call at once, recorded and reported as the caller's flags say.

`attemptLoop_ensures` is the rule for all calls. `Pre` holds where the operation
may be invoked and `Amb` after an ambiguous failure; the selector leads from
`Amb` back to `Pre` or to the found row. The postcondition is met at each of the
exits separately.
-/

namespace InstanceLifecycle

open Interaction

/-- The keyword arguments of `_cmdb_call` and the `__qualname__` of the operation, which
names the call when the field is empty; `errors` says whether the accumulator is handed
over. -/
structure CallOptions where
  field : String
  operation : String := ""
  raiseOnDataError : Bool := false
  attempts : Option Int := none
  errors : Bool := false
  subject : Option Value := none
  markStateError : Bool := true
  includeInStatusDetails : Bool := true

/-- `field or op.__qualname__`. -/
def CallOptions.label (options : CallOptions) : String :=
  if options.field = "" then options.operation else options.field

variable {S : Signature} {W ρ : Type}

/-- The row an ambiguous insert left behind, if the selector finds one. -/
def recoverInsert (selector : Action S FieldErrors Exn (Option ρ)) :
    Action S FieldErrors Exn (Option ρ) :=
  selector

namespace InstanceHandler

variable (handler : InstanceHandler)

/-- `_error_msg_template.format(subject or label, exc)`. -/
def errorMessage (options : CallOptions) (exc : Exn) : String :=
  "Error while saving \"" ++ ((options.subject.map handler.runtime.repr).getD options.label) ++
    "\" " ++ exc.text ++ ". \n"

/-- The accumulator after a permanent failure of this call. -/
def recorded (options : CallOptions) (exc : Exn) (errors : FieldErrors) : FieldErrors :=
  if options.errors then
    errors.add options.label (handler.errorMessage options exc) options.markStateError
      options.includeInStatusDetails
  else errors

/-- A failure that is not one of transport is recorded, then raised or swallowed. -/
def reportFailure (options : CallOptions) (exc : Exn) : Action S FieldErrors Exn (Option ρ) := do
  Action.modify (handler.recorded options exc)
  if options.raiseOnDataError then
    Action.raise (.cmdbException (handler.errorMessage options exc))
  else pure none

/-- One invocation of the operation; `retry` is the rest of the loop. -/
def invokeOp (options : CallOptions) (last : Bool) (op : Action S FieldErrors Exn ρ)
    (retry : Action S FieldErrors Exn (Option ρ)) : Action S FieldErrors Exn (Option ρ) := do
  match ← Action.attempt op with
  | .ok row => pure (some row)
  | .error exc =>
      if exc.isCmdbException then Action.raise exc
      else if classify exc ≠ .transport then handler.reportFailure options exc
      else if last then Action.raise exc
      else retry

/-- The re-select in front of a repeated insert. -/
def reselect (last : Bool) (selector : Action S FieldErrors Exn (Option ρ))
    (invoke retry : Action S FieldErrors Exn (Option ρ)) : Action S FieldErrors Exn (Option ρ) := do
  match ← Action.attempt (recoverInsert selector) with
  | .error exc => if last then Action.raise exc else retry
  | .ok (some row) => pure (some row)
  | .ok none => invoke

/-- One pass of the attempt loop, with the rest of the loop as `retry`. -/
def attemptOnce (options : CallOptions) (op : Action S FieldErrors Exn ρ)
    (selector : Option (Action S FieldErrors Exn (Option ρ))) (attempts attempt : Nat)
    (retry : Action S FieldErrors Exn (Option ρ)) : Action S FieldErrors Exn (Option ρ) :=
  let last := decide (attempts ≤ attempt)
  let invoke := handler.invokeOp options last op retry
  match selector with
  | some selector => if 1 < attempt then reselect last selector invoke retry else invoke
  | none => invoke

/-- `for attempt in range(1, attempts + 1)`, counted by the attempts left. -/
def attemptLoop (options : CallOptions) (op : Action S FieldErrors Exn ρ)
    (selector : Option (Action S FieldErrors Exn (Option ρ))) (attempts : Nat) :
    Nat → Action S FieldErrors Exn (Option ρ)
  | 0 => pure none
  | left + 1 =>
      handler.attemptOnce options op selector attempts (attempts - left)
        (attemptLoop options op selector attempts left)

/-- `max(1, attempts)`. -/
def budget (options : CallOptions) : Nat :=
  (max 1 (options.attempts.getD handler.cmdbTransportAttempts)).toNat

/-- Run one operation with retry, classification and reporting. -/
def cmdbCall (options : CallOptions) (op : Action S FieldErrors Exn ρ)
    (selector : Option (Action S FieldErrors Exn (Option ρ)) := none) :
    Action S FieldErrors Exn (Option ρ) :=
  handler.attemptLoop options op selector (handler.budget options) (handler.budget options)

/-- There is at least one attempt, whatever the options say. -/
theorem budget_positive (options : CallOptions) : 0 < handler.budget options := by
  unfold budget
  omega

variable {handler} {env : Env S W} {inv : W → Prop}

/-- What ends a call with `exc` if the operation raises it. -/
def failureExit (handler : InstanceHandler) (options : CallOptions)
    (post : Except Exn (Option ρ) → FieldErrors → W → Prop) (Amb : W → Prop) (state : FieldErrors)
    (exc : Exn) (world : W) : Prop :=
  if exc.isCmdbException then post (.error exc) state world
  else if classify exc ≠ .transport then
    post (if options.raiseOnDataError then .error (.cmdbException (handler.errorMessage options exc))
      else .ok none) (handler.recorded options exc state) world
  else Amb world ∧ post (.error exc) state world

/-- How one invocation of the operation leaves the call. -/
def opExit (handler : InstanceHandler) (options : CallOptions)
    (post : Except Exn (Option ρ) → FieldErrors → W → Prop) (Amb : W → Prop) (state : FieldErrors)
    (result : Except Exn ρ) (after : FieldErrors) (world : W) : Prop :=
  after = state ∧
    match result with
    | .ok row => post (.ok (some row)) state world
    | .error exc => handler.failureExit options post Amb state exc world

/-- How one run of the selector leaves the call, or leads to an invocation. -/
def selectorExit (post : Except Exn (Option ρ) → FieldErrors → W → Prop) (Pre Amb : W → Prop)
    (state : FieldErrors) (result : Except Exn (Option ρ)) (after : FieldErrors) (world : W) :
    Prop :=
  after = state ∧
    match result with
    | .ok (some row) => post (.ok (some row)) state world
    | .ok none => Pre world
    | .error exc => Amb world ∧ post (.error exc) state world

/-- One invocation of `op`: it is enough that each of its outcomes is settled at
the exit, or leaves a world in which another attempt does so. The last attempt
has no other after it. -/
theorem invokeOp_ensures {options : CallOptions} {last : Bool} {op : Action S FieldErrors Exn ρ}
    {retry : Action S FieldErrors Exn (Option ρ)} {Amb : W → Prop} {state : FieldErrors}
    {post : Except Exn (Option ρ) → FieldErrors → W → Prop} {world : W}
    (invoked : op.Ensures env inv (handler.opExit options post Amb state) state world)
    (retried : last = false → ∀ world, Amb world → retry.Ensures env inv post state world) :
    (handler.invokeOp options last op retry).Ensures env inv post state world := by
  unfold invokeOp
  rw [Action.ensures_bind, Action.ensures_attempt]
  refine invoked.mono ?_
  rintro result after world ⟨rfl, held⟩
  cases result with
  | ok row => exact held
  | error exc =>
    simp only [failureExit] at held
    simp only
    split
    · rename_i own
      rw [if_pos own] at held
      exact held
    · rename_i notOwn
      rw [if_neg notOwn] at held
      split
      · rename_i permanent
        rw [if_pos permanent] at held
        unfold reportFailure
        rw [Action.ensures_bind, Action.ensures_modify]
        split at held <;> rename_i raises <;> simp only [raises] <;> exact held
      · rename_i transport
        rw [if_neg transport] at held
        cases last with
        | false => exact retried rfl world held.1
        | true => exact held.2

/-- One re-select: a row ends the call, no row leads to the invocation, and a
failure leads to another attempt, or ends the call when it was the last. -/
theorem reselect_ensures {last : Bool} {selector : Action S FieldErrors Exn (Option ρ)}
    {invoke retry : Action S FieldErrors Exn (Option ρ)} {Pre Amb : W → Prop}
    {state : FieldErrors} {post : Except Exn (Option ρ) → FieldErrors → W → Prop} {world : W}
    (selected : selector.Ensures env inv (selectorExit post Pre Amb state) state world)
    (invoked : ∀ world, Pre world → invoke.Ensures env inv post state world)
    (retried : last = false → ∀ world, Amb world → retry.Ensures env inv post state world) :
    (reselect last selector invoke retry).Ensures env inv post state world := by
  unfold reselect recoverInsert
  rw [Action.ensures_bind, Action.ensures_attempt]
  refine selected.mono ?_
  rintro result after world ⟨rfl, held⟩
  cases result with
  | error exc =>
    cases last with
    | false => exact retried rfl world held.1
    | true => exact held.2
  | ok found =>
    cases found with
    | some row => exact held
    | none => exact invoked world held

/-- One attempt of `cmdb_call`: the first starts from `Pre` and invokes, every
later one starts from `Amb` and re-selects before it invokes, if there is a
selector. -/
theorem attemptOnce_ensures (Pre Amb : W → Prop) {options : CallOptions}
    {op : Action S FieldErrors Exn ρ} {selector : Option (Action S FieldErrors Exn (Option ρ))}
    {state : FieldErrors} {post : Except Exn (Option ρ) → FieldErrors → W → Prop}
    {retry : Action S FieldErrors Exn (Option ρ)} {attempts attempt : Nat} {world : W}
    (invoked : ∀ world, Pre world →
      op.Ensures env inv (handler.opExit options post Amb state) state world)
    (selected : ∀ reselection, selector = some reselection → ∀ world, Amb world →
      reselection.Ensures env inv (selectorExit post Pre Amb state) state world)
    (repeatable : selector = none → ∀ world, Amb world → Pre world)
    (retried : attempt < attempts → ∀ world, Amb world →
      retry.Ensures env inv post state world)
    (start : if 1 < attempt then Amb world else Pre world) :
    (handler.attemptOnce options op selector attempts attempt retry).Ensures env inv post state
      world := by
  have notLast : decide (attempts ≤ attempt) = false → ∀ world, Amb world →
      retry.Ensures env inv post state world := by
    intro earlier
    exact retried (by simpa using earlier)
  have runs : ∀ world, Pre world → (handler.invokeOp options (decide (attempts ≤ attempt)) op
      retry).Ensures env inv post state world :=
    fun world pre => invokeOp_ensures (invoked world pre) notLast
  unfold attemptOnce
  cases selector with
  | none =>
    split at start
    · exact runs world (repeatable rfl world start)
    · exact runs world start
  | some reselection =>
    simp only
    split
    · rename_i later
      rw [if_pos later] at start
      exact reselect_ensures (selected reselection rfl world start) runs notLast
    · rename_i first
      rw [if_neg first] at start
      exact runs world start

/-- The loop rule, by induction on the attempts left. The last attempt raises, so
the end of the range is never reached. -/
theorem attemptLoop_ensures (Pre Amb : W → Prop) {options : CallOptions}
    {op : Action S FieldErrors Exn ρ} {selector : Option (Action S FieldErrors Exn (Option ρ))}
    {state : FieldErrors} {post : Except Exn (Option ρ) → FieldErrors → W → Prop}
    (invoked : ∀ world, Pre world →
      op.Ensures env inv (handler.opExit options post Amb state) state world)
    (selected : ∀ reselection, selector = some reselection → ∀ world, Amb world →
      reselection.Ensures env inv (selectorExit post Pre Amb state) state world)
    (repeatable : selector = none → ∀ world, Amb world → Pre world)
    (attempts left : Nat) (within : left < attempts) (world : W)
    (start : if 1 < attempts - left then Amb world else Pre world) :
    (handler.attemptLoop options op selector attempts (left + 1)).Ensures env inv post state
      world := by
  induction left generalizing world with
  | zero =>
    refine attemptOnce_ensures Pre Amb invoked selected repeatable ?_ start
    intro earlier
    exact absurd earlier (by simp)
  | succ left ih =>
    refine attemptOnce_ensures Pre Amb invoked selected repeatable ?_ start
    intro _ world amb
    apply ih (by omega) world
    rw [if_pos (by omega)]
    exact amb

/-- The rule of `cmdb_call`. `Pre` holds before an invocation and `Amb` after
one whose effect is unknown; each invocation leads from the one to an exit or to
the other, and a re-select leads back. The induction over the attempts is made
here, and no caller makes it again. -/
theorem cmdbCall_ensures (Pre Amb : W → Prop) {options : CallOptions}
    {op : Action S FieldErrors Exn ρ} {selector : Option (Action S FieldErrors Exn (Option ρ))}
    {state : FieldErrors} {post : Except Exn (Option ρ) → FieldErrors → W → Prop} {world : W}
    (start : Pre world)
    (invoked : ∀ world, Pre world →
      op.Ensures env inv (handler.opExit options post Amb state) state world)
    (selected : ∀ reselection, selector = some reselection → ∀ world, Amb world →
      reselection.Ensures env inv (selectorExit post Pre Amb state) state world)
    (repeatable : selector = none → ∀ world, Amb world → Pre world) :
    (handler.cmdbCall options op selector).Ensures env inv post state world := by
  unfold cmdbCall
  have positive := handler.budget_positive options
  obtain ⟨left, counted⟩ : ∃ left, handler.budget options = left + 1 :=
    ⟨handler.budget options - 1, by omega⟩
  rw [counted]
  refine attemptLoop_ensures Pre Amb invoked selected repeatable (left + 1) left (by omega) world ?_
  rw [if_neg (by omega)]
  exact start

/-- How a call ends: with a row, swallowed after a failure, or by an exception. -/
def callExit (options : CallOptions) (Found : ρ → W → Prop) (Amb : W → Prop)
    (result : Except Exn (Option ρ)) (after : W) : Prop :=
  match result with
  | .ok (some row) => Found row after
  | .ok none => options.raiseOnDataError = false ∧ Amb after
  | .error _ => Amb after

/-- How a re-select ends: with the row, without one, or by an exception. -/
def reselectExit (Found : ρ → W → Prop) (Pre Amb : W → Prop) (result : Except Exn (Option ρ))
    (after : W) : Prop :=
  match result with
  | .ok (some row) => Found row after
  | .ok none => Pre after
  | .error _ => Amb after

/-- The rule where only the row that is handed back matters: a failing invocation leads to
`Amb`, and so does a failing re-select. -/
theorem cmdbCall_exits (Pre Amb : W → Prop) (Found : ρ → W → Prop) {options : CallOptions}
    {op : Action S FieldErrors Exn ρ} {selector : Option (Action S FieldErrors Exn (Option ρ))}
    {state : FieldErrors} {world : W} (start : Pre world)
    (invoked : ∀ world, Pre world → op.Ensures env inv (fun result final after =>
      final = state ∧ match result with
        | .ok row => Found row after
        | .error _ => Amb after) state world)
    (selected : ∀ reselection, selector = some reselection → ∀ world, Amb world →
      reselection.Ensures env inv (fun result final after =>
        final = state ∧ reselectExit Found Pre Amb result after) state world)
    (repeatable : selector = none → ∀ world, Amb world → Pre world) :
    (handler.cmdbCall options op selector).Ensures env inv (fun result final after =>
      (options.errors = false → final = state) ∧ callExit options Found Amb result after) state
      world := by
  apply cmdbCall_ensures Pre Amb start
  · intro world holds
    refine (invoked world holds).mono ?_
    rintro result final after ⟨rfl, held⟩
    refine ⟨rfl, ?_⟩
    cases result with
    | ok row => exact ⟨fun _ => rfl, held⟩
    | error exc =>
      have unrecorded : options.errors = false → handler.recorded options exc final = final :=
        fun silent => by simp [recorded, silent]
      simp only [failureExit]
      split
      · exact ⟨fun _ => trivial, held⟩
      · split
        · refine ⟨unrecorded, ?_⟩
          by_cases raises : options.raiseOnDataError = true
          · simpa [raises, callExit] using held
          · simpa [raises, callExit] using held
        · exact ⟨held, fun _ => trivial, held⟩
  · intro reselection given world holds
    refine (selected reselection given world holds).mono ?_
    rintro result final after ⟨rfl, held⟩
    refine ⟨rfl, ?_⟩
    cases result with
    | error exc => exact ⟨held, fun _ => rfl, held⟩
    | ok row =>
      cases row with
      | none => exact held
      | some row => exact ⟨fun _ => rfl, held⟩
  · exact repeatable

/-- What every invocation and every re-select keeps, a call keeps; `found` is known of a row
that either of them hands back. -/
theorem cmdbCall_found (held : W → Prop) (found : ρ → W → Prop) {options : CallOptions}
    {op : Action S FieldErrors Exn ρ} {selector : Option (Action S FieldErrors Exn (Option ρ))}
    {state : FieldErrors} {world : W} (start : held world)
    (invoked : ∀ world, held world → op.Ensures env inv (fun result final after =>
      final = state ∧ held after ∧ ∀ row, result = .ok row → found row after) state world)
    (selected : ∀ reselection, selector = some reselection → ∀ world, held world →
      reselection.Ensures env inv (fun result final after =>
        final = state ∧ held after ∧ ∀ row, result = .ok (some row) → found row after) state
        world) :
    (handler.cmdbCall options op selector).Ensures env inv (fun result _ after =>
      held after ∧ ∀ row, result = .ok (some row) → found row after) state world := by
  refine (cmdbCall_exits held held (fun row after => held after ∧ found row after) start ?_ ?_
    fun _ _ holds => holds).mono ?_
  · intro world holds
    refine (invoked world holds).mono ?_
    rintro (exc | row) final after ⟨same, kept, known⟩
    · exact ⟨same, kept⟩
    · exact ⟨same, kept, known row rfl⟩
  · intro reselection given world holds
    refine (selected reselection given world holds).mono ?_
    rintro (exc | _ | row) final after ⟨same, kept, known⟩
    · exact ⟨same, kept⟩
    · exact ⟨same, kept⟩
    · exact ⟨same, kept, known row rfl⟩
  · rintro (exc | _ | row) final after ⟨-, exit⟩
    · exact ⟨exit, by simp⟩
    · exact ⟨exit.2, by simp⟩
    · refine ⟨exit.1, ?_⟩
      rintro other ⟨⟩
      exact exit.2

/-- A call is built from its operation and its selector, tried, and from the record of a
failure; by induction on the attempts left. -/
theorem cmdbCall_closed {options : CallOptions} {op : Action S FieldErrors Exn ρ}
    {selector : Option (Action S FieldErrors Exn (Option ρ))}
    (good : Action S FieldErrors Exn (Option ρ) → Prop) (returns : ∀ row, good (pure row))
    (raises : ∀ exc, good (Action.raise exc))
    (tries : ∀ next, (∀ result, good (next result)) → good (Action.attempt op >>= next))
    (looks : ∀ reselection, selector = some reselection → ∀ next, (∀ result, good (next result)) →
      good (Action.attempt reselection >>= next))
    (records : ∀ exc next, (∀ value, good (next value)) →
      good (Action.modify (handler.recorded options exc) >>= next)) :
    good (handler.cmdbCall options op selector) := by
  have loop : ∀ attempts left, good (handler.attemptLoop options op selector attempts left) := by
    intro attempts left
    induction left with
    | zero => exact returns none
    | succ left ih =>
      have invoke : ∀ last, good (handler.invokeOp options last op
          (handler.attemptLoop options op selector attempts left)) := by
        intro last
        apply tries
        intro result
        cases result with
        | ok row => exact returns _
        | error exc =>
          simp only
          split
          · exact raises exc
          · split
            · apply records
              intro _
              split
              · exact raises _
              · exact returns _
            · split
              · exact raises exc
              · exact ih
      unfold attemptLoop attemptOnce
      cases selector with
      | none => exact invoke _
      | some reselection =>
        simp only
        split
        · apply looks reselection rfl
          intro result
          cases result with
          | error exc =>
            simp only
            split
            · exact raises exc
            · exact ih
          | ok found =>
            cases found with
            | some row => exact returns _
            | none => exact invoke _
        · exact invoke _
  exact loop _ _

/-- A call issues no operation but those of its operation and its selector. -/
theorem cmdbCall_only {options : CallOptions} {op : Action S FieldErrors Exn ρ}
    {selector : Option (Action S FieldErrors Exn (Option ρ))} {allowed : S.Op → Prop}
    (opOnly : op.Only allowed)
    (selectorOnly : ∀ reselection, selector = some reselection → reselection.Only allowed) :
    (handler.cmdbCall options op selector).Only allowed := by
  apply cmdbCall_closed (Action.Only allowed)
  · exact Action.only_pure
  · exact Action.only_raise
  · exact fun _ rest => opOnly.attempt.bind rest
  · exact fun reselection given _ rest => (selectorOnly reselection given).attempt.bind rest
  · exact fun _ _ rest => (Action.only_modify _).bind rest

/-- What a call may do its operation may do, since the first attempt invokes it.
-/
theorem only_of_cmdbCall {options : CallOptions} {op : Action S FieldErrors Exn ρ}
    {selector : Option (Action S FieldErrors Exn (Option ρ))} {allowed : S.Op → Prop}
    {state : FieldErrors} (only : (handler.cmdbCall options op selector state).Only allowed) :
    (op state).Only allowed := by
  have positive := handler.budget_positive options
  obtain ⟨left, counted⟩ : ∃ left, handler.budget options = left + 1 :=
    ⟨handler.budget options - 1, by omega⟩
  have first : ¬ 1 < left + 1 - left := by omega
  unfold cmdbCall at only
  rw [counted, attemptLoop] at only
  cases selector with
  | none => exact only.of_bind.of_bind
  | some reselection =>
    simp only [attemptOnce, if_neg first] at only
    exact only.of_bind.of_bind

/-- A call leaves the accumulator as it is or with its own entry. -/
theorem cmdbCall_keeps {options : CallOptions} {op : Action S FieldErrors Exn ρ}
    {selector : Option (Action S FieldErrors Exn (Option ρ))} {held : FieldErrors → Prop}
    (opKeeps : op.Keeps held)
    (selectorKeeps : ∀ reselection, selector = some reselection → reselection.Keeps held)
    (records : ∀ exc state, held state → held (handler.recorded options exc state)) :
    (handler.cmdbCall options op selector).Keeps held := by
  apply cmdbCall_closed (Action.Keeps held)
  · exact Action.keeps_pure
  · exact Action.keeps_raise
  · exact fun _ rest => opKeeps.attempt.bind rest
  · exact fun reselection given _ rest => (selectorKeeps reselection given).attempt.bind rest
  · exact fun exc _ rest => (Action.keeps_modify _ (records exc)).bind rest

end InstanceHandler

end InstanceLifecycle
