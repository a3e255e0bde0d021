import InstanceLifecycle.Handler.AsciiRuntime
import InstanceLifecycle.Interaction.Runs

/-!
# How a delivery is settled

The message loop around any process and in any environment: a finished run is a number
of runs of the process, up to the first one that ends normally or in a permanent error
or up to the budget, and then runs of one confirmation, chosen by the last of them.
-/

namespace InstanceLifecycle

open Interaction

/-- Is there no further attempt after this outcome? -/
def settlesMessage : Except Exn Unit → Bool
  | .ok _ => true
  | .error exc => exc.abortsMessage

/-- Whether a confirmation went through. -/
def succeeded : Except Exn Unit → Bool
  | .ok _ => true
  | .error _ => false

namespace MessageHandlerService

/-- The message loop with the process left open. -/
def settle (service : MessageHandlerService) (process : Run Unit) : Run Unit := do
  match ← Action.attempt (processAttempts process service.maxRetries) with
  | .ok _ => confirm ack service.ackRetries
  | .error _ => confirm nack service.ackRetries

/-- `handle_message` is the general settlement of a delivery at the handler's
own process, by definition. -/
theorem handleMessage_settles (service : MessageHandlerService) (delivery : Delivery) :
    service.handleMessage delivery = service.settle (service.processDelivery delivery) :=
  rfl

/-- The confirmation that answers an outcome. -/
def confirmation : Except Exn Unit → Run Unit
  | .ok _ => ack
  | .error _ => nack

variable {W : Type} {env : Env service W} {process action : Run Unit} {state final : FieldErrors}
  {world last : W} {result : Except Exn Unit}

/-- The runs of the attempts, taken apart at the first: it is the last one if it
settles the message or no other is left, and is followed by the rest otherwise.
-/
theorem processAttempts_ends {left : Nat}
    (run : Action.Ends env state world (processAttempts process (left + 1)) result final last) :
    ∃ outcome mid middle, Action.Ends env state world process outcome mid middle ∧
      ((settlesMessage outcome = true ∨ left = 0) ∧
          result = outcome ∧ final = mid ∧ last = middle ∨
        settlesMessage outcome = false ∧ left ≠ 0 ∧
          Action.Ends env mid middle (processAttempts process left) result final last) := by
  rw [processAttempts] at run
  obtain ⟨outcome, mid, middle, first, rest⟩ := Action.ends_attempt_bind.mp run
  refine ⟨outcome, mid, middle, first, ?_⟩
  cases outcome with
  | ok value => exact Or.inl ⟨Or.inl rfl, Action.ends_pure.mp rest⟩
  | error exc =>
    simp only at rest
    by_cases aborts : exc.abortsMessage = true
    · rw [if_pos aborts] at rest
      exact Or.inl ⟨Or.inl aborts, Action.ends_raise.mp rest⟩
    · rw [if_neg aborts] at rest
      by_cases spent : left = 0
      · rw [if_pos spent] at rest
        exact Or.inl ⟨Or.inr spent, Action.ends_raise.mp rest⟩
      · rw [if_neg spent] at rest
        exact Or.inr ⟨Bool.not_eq_true _ ▸ aborts, spent, rest⟩

/-- The attempts, by induction on those left; the last outcome is the one handed on. -/
theorem processAttempts_settles (left : Nat)
    (run : Action.Ends env state world (processAttempts process (left + 1)) result final last) :
    ∃ outcomes, Action.Repeats env process state world outcomes final last ∧
      UpToFirst settlesMessage (left + 1) outcomes ∧ outcomes.getLast? = some result := by
  induction left generalizing state world with
  | zero =>
    obtain ⟨outcome, mid, middle, first, ⟨_, rfl, rfl, rfl⟩ | ⟨_, more, _⟩⟩ :=
      processAttempts_ends run
    · refine ⟨[result], .next first (.none _ _), ?_, rfl⟩
      by_cases settles : settlesMessage result = true
      · exact .settled settles
      · exact .retried (Bool.not_eq_true _ ▸ settles) .exhausted
    · exact absurd rfl more
  | succ left ih =>
    obtain ⟨outcome, mid, middle, first, ⟨ended, rfl, rfl, rfl⟩ | ⟨unsettled, _, rest⟩⟩ :=
      processAttempts_ends run
    · have settles := ended.resolve_right (Nat.succ_ne_zero left)
      exact ⟨[result], .next first (.none _ _), .settled settles, rfl⟩
    · obtain ⟨outcomes, repeated, within, handed⟩ := ih rest
      refine ⟨outcome :: outcomes, .next first repeated, .retried unsettled within, ?_⟩
      rw [List.getLast?_cons, handed]
      rfl

/-- The confirmation is repeated up to its first success, within the attempts
that it has. By induction on the attempts left. -/
theorem confirm_settles (left : Nat)
    (run : Action.Ends env state world (confirm action left) result final last) :
    ∃ confirmations, Action.Repeats env action state world confirmations final last ∧
      UpToFirst succeeded left confirmations := by
  induction left generalizing state world with
  | zero =>
    obtain ⟨rfl, rfl, rfl⟩ := Action.ends_pure.mp run
    exact ⟨[], .none _ _, .exhausted⟩
  | succ left ih =>
    rw [confirm] at run
    obtain ⟨outcome, mid, middle, first, rest⟩ := Action.ends_attempt_bind.mp run
    cases outcome with
    | ok value =>
      obtain ⟨rfl, rfl, rfl⟩ := Action.ends_pure.mp rest
      exact ⟨[.ok value], .next first (.none _ _), .settled rfl⟩
    | error exc =>
      obtain ⟨confirmations, repeated, within⟩ := ih rest
      exact ⟨.error exc :: confirmations, .next first repeated, .retried rfl within⟩

end MessageHandlerService

open MessageHandlerService in
/-- For every process, in every environment and from every state: the process is run up
to and including its first outcome that is normal or permanent, or `max_retries` times;
then, and only then, the confirmation that answers the last outcome is called up to its
first success, or `ack_retries` times. -/
theorem delivery_settled_once {W : Type} (env : Env service W) (worker : MessageHandlerService)
    (attempts : 1 ≤ worker.maxRetries) (confirms : 1 ≤ worker.ackRetries) (process : Run Unit)
    (state final : FieldErrors) (world last : W) (result : Except Exn Unit)
    (run : Action.Ends env state world (worker.settle process) result final last) :
    ∃ outcomes outcome mid middle confirmations,
      Action.Repeats env process state world outcomes mid middle ∧
      UpToFirst settlesMessage worker.maxRetries outcomes ∧
      outcomes.getLast? = some outcome ∧
      Action.Repeats env (confirmation outcome) mid middle confirmations final last ∧
      UpToFirst succeeded worker.ackRetries confirmations ∧ confirmations ≠ [] := by
  obtain ⟨left, counted⟩ : ∃ left, worker.maxRetries = left + 1 :=
    ⟨worker.maxRetries - 1, by omega⟩
  rw [settle] at run
  obtain ⟨outcome, mid, middle, processed, rest⟩ := Action.ends_attempt_bind.mp run
  rw [counted] at processed
  obtain ⟨outcomes, repeated, within, handed⟩ := processAttempts_settles left processed
  have chosen : Action.Ends env mid middle (confirm (confirmation outcome) worker.ackRetries)
      result final last := by
    cases outcome with
    | ok value => exact rest
    | error exc => exact rest
  obtain ⟨confirmations, confirmed, budget⟩ := confirm_settles worker.ackRetries chosen
  refine ⟨outcomes, outcome, mid, middle, confirmations, repeated, counted ▸ within, handed,
    confirmed, budget, ?_⟩
  rintro rfl
  obtain ⟨none, absent, _⟩ := budget.ended confirms
  cases absent

/-- An attach whose look-up of the server is lost five times, so that it is retried. -/
def retriedAttach : Run Unit :=
  AsciiRuntime.service.processDelivery (.ok (AsciiRuntime.attachMessage "10.0.0.9" "m9"))

/-- The world after it is settled, with the result of the message loop. -/
def retriedAttachEnd : (Except Exn Unit × FieldErrors) × World :=
  (AsciiRuntime.service.settle retriedAttach {}).run
    (World.scripted ([1, 2, 3, 4, 5].map fun position => (position, .fail (.transport "lost") false)))
    ⟨AsciiRuntime.registered, []⟩

open MessageHandlerService in
/-- An attach whose first attempt fails and whose second succeeds is acked once. -/
theorem delivery_settled_once_retried :
    ∃ outcomes outcome mid middle confirmations,
      Action.Repeats (faulty transportFaults) retriedAttach {} ⟨AsciiRuntime.registered, []⟩
        outcomes mid middle ∧
      UpToFirst settlesMessage 3 outcomes ∧ outcomes.getLast? = some outcome ∧
      Action.Repeats (faulty transportFaults) (confirmation outcome) mid middle confirmations
        retriedAttachEnd.1.2 retriedAttachEnd.2 ∧
      UpToFirst succeeded 3 confirmations ∧ confirmations ≠ [] :=
  delivery_settled_once (faulty transportFaults) AsciiRuntime.service (by decide) (by decide)
    retriedAttach {} _ _ _ _
    (Prog.run_ends (scripted_possible _ (fun _ => trivial)
      (by simp [transportFaults, CallError.isTransport])) _ _)

end InstanceLifecycle
