import InstanceLifecycle.Interaction.Action

/-!
# Decomposing finished runs

A finished run of a sequence is a finished run of its first part and one of the
continuation from there. Each way of building an action has one lemma that takes its
finished runs apart; nothing is assumed about the environment.

`Repeats` is a number of finished runs of one action, each from where the last one
ended, with their results in order. `UpToFirst` says which lists of results a loop
leaves that ends with the first result that settles it, or with its budget.
-/

namespace Interaction

namespace Prog

variable {S : Signature} {W α β : Type} {env : Env S W} {world last : W}

/-- A program that is done ends at once, with its value and in the world it is
in. -/
theorem ends_done {value result : α} :
    Ends env world (.done value) result last ↔ value = result ∧ world = last := by
  constructor
  · rintro ⟨⟩
    exact ⟨rfl, rfl⟩
  · rintro ⟨rfl, rfl⟩
    exact .refl world (.done value)

/-- A program that calls ends as its continuation does, after some answer the
environment may give. -/
theorem ends_call {op : S.Op} {next : S.Reply op → Prog S α} {result : α} :
    Ends env world (.call op next) result last ↔
      ∃ reply after, env op world reply after ∧ Ends env after (next reply) result last := by
  constructor
  · intro run
    cases run with
    | call step tail => exact ⟨_, _, step, tail⟩
  · rintro ⟨reply, after, step, tail⟩
    exact .call step tail

/-- The first calls of an executed run, and the rest of the program. -/
def advance (answer : (op : S.Op) → W → S.Reply op × W) : Nat → Prog S α → W → W × Prog S α
  | 0, program, world => (world, program)
  | _ + 1, .done value, world => (world, .done value)
  | count + 1, .call op next, world =>
      advance answer count (next (answer op world).1) (answer op world).2

/-- Advancing a program by a number of answered calls is a run of the small
steps, where every answer given is a possible one. -/
theorem advance_steps {answer : (op : S.Op) → W → S.Reply op × W}
    (possible : ∀ op before, env op before (answer op before).1 (answer op before).2)
    (count : Nat) (program : Prog S α) (world : W) :
    Steps env world program (program.advance answer count world).1
      (program.advance answer count world).2 := by
  induction count generalizing program world with
  | zero => exact .refl world program
  | succ count ih =>
    cases program with
    | done value => exact .refl world (.done value)
    | call op next => exact .call (possible op world) (ih _ _)

/-- A composition ends as its second part does from an end of the first. By
induction on the first part, one answer of the environment after the other. -/
theorem ends_bind {program : Prog S α} {next : α → Prog S β} {result : β} :
    Ends env world (program.bind next) result last ↔
      ∃ value middle, Ends env world program value middle ∧
        Ends env middle (next value) result last := by
  induction program generalizing world with
  | done value =>
    constructor
    · exact fun rest => ⟨value, world, .refl world (.done value), rest⟩
    · rintro ⟨other, middle, first, rest⟩
      obtain ⟨rfl, rfl⟩ := ends_done.mp first
      exact rest
  | call op continuation ih =>
    rw [Prog.bind, ends_call]
    constructor
    · rintro ⟨reply, after, step, run⟩
      obtain ⟨value, middle, first, rest⟩ := (ih reply).mp run
      exact ⟨value, middle, ends_call.mpr ⟨reply, after, step, first⟩, rest⟩
    · rintro ⟨value, middle, first, rest⟩
      obtain ⟨reply, after, step, tail⟩ := ends_call.mp first
      exact ⟨reply, after, step, (ih reply).mpr ⟨value, middle, tail, rest⟩⟩

/-- A run of a sequence is still in its first part, or has finished it. -/
theorem steps_bind {program : Prog S α} {next : α → Prog S β} {rest : Prog S β}
    (run : Steps env world (program.bind next) last rest) :
    (∃ left, Steps env world program last left) ∨
      ∃ value middle, Ends env world program value middle ∧
        Steps env middle (next value) last rest := by
  induction program generalizing world with
  | done value => exact Or.inr ⟨value, world, .refl world (.done value), run⟩
  | call op continuation ih =>
    cases run with
    | refl => exact Or.inl ⟨_, .refl _ _⟩
    | call step tail =>
      rcases ih _ tail with ⟨left, still⟩ | ⟨value, middle, ended, onward⟩
      · exact Or.inl ⟨left, .call step still⟩
      · exact Or.inr ⟨value, middle, .call step ended, onward⟩

/-- What is left of a program issues what the program may issue. -/
theorem Only.steps {allowed : S.Op → Prop} {program rest : Prog S α} (only : program.Only allowed)
    (run : Steps env world program last rest) : rest.Only allowed := by
  induction run with
  | refl world program => exact only
  | call step tail ih => exact ih (only.2 _)

/-- A program ends where its finished runs end. -/
theorem ensures_ends (env : Env S W) (program : Prog S α) (world : W) :
    program.Ensures env (fun _ => True) (fun value after => Ends env world program value after)
      world := by
  induction program generalizing world with
  | done value => exact .refl world (.done value)
  | call op next ih =>
    intro reply after step
    refine ⟨trivial, (ih reply after).mono ?_⟩
    exact fun value last tail => .call step tail

end Prog

namespace Action

variable {S : Signature} {σ ε W α β : Type} {env : Env S W} {state final : σ} {world last : W}

/-- A finished run of an action, with its local state before and after. -/
def Ends (env : Env S W) (state : σ) (world : W) (action : Action S σ ε α) (result : Except ε α)
    (final : σ) (last : W) : Prop :=
  Prog.Ends env world (action state) (result, final) last

/-- A pure action ends at once with its value, and leaves the state and the
world alone. -/
theorem ends_pure {value : α} {result : Except ε α} :
    Ends env state world (pure value : Action S σ ε α) result final last ↔
      result = .ok value ∧ final = state ∧ last = world := by
  refine Prog.ends_done.trans ?_
  rw [Prod.mk.injEq]
  constructor
  · rintro ⟨⟨rfl, rfl⟩, rfl⟩
    exact ⟨rfl, rfl, rfl⟩
  · rintro ⟨rfl, rfl, rfl⟩
    exact ⟨⟨rfl, rfl⟩, rfl⟩

/-- A raise ends at once with its exception, and leaves the state and the world
alone. -/
theorem ends_raise {exc : ε} {result : Except ε α} :
    Ends env state world (raise exc : Action S σ ε α) result final last ↔
      result = .error exc ∧ final = state ∧ last = world := by
  refine Prog.ends_done.trans ?_
  rw [Prod.mk.injEq]
  constructor
  · rintro ⟨⟨rfl, rfl⟩, rfl⟩
    exact ⟨rfl, rfl, rfl⟩
  · rintro ⟨rfl, rfl, rfl⟩
    exact ⟨⟨rfl, rfl⟩, rfl⟩

/-- An attempt hands its result on as a value, normal or raised, with the state
and the world it ended in. -/
theorem ends_attempt_bind {action : Action S σ ε α} {next : Except ε α → Action S σ ε β}
    {result : Except ε β} :
    Ends env state world (attempt action >>= next) result final last ↔
      ∃ outcome mid middle, Ends env state world action outcome mid middle ∧
        Ends env mid middle (next outcome) result final last := by
  unfold Ends
  change Prog.Ends env world (((action state).bind _).bind _) _ _ ↔ _
  rw [Prog.ends_bind]
  constructor
  · rintro ⟨tried, middle, first, rest⟩
    obtain ⟨⟨outcome, mid⟩, between, ran, done⟩ := Prog.ends_bind.mp first
    obtain ⟨rfl, rfl⟩ := Prog.ends_done.mp done
    exact ⟨outcome, mid, between, ran, rest⟩
  · rintro ⟨outcome, mid, middle, ran, rest⟩
    exact ⟨_, middle, Prog.ends_bind.mpr ⟨(outcome, mid), middle, ran, .refl _ _⟩, rest⟩

/-- An action ends where its runs end: that is its strongest postcondition, and
it holds after every run by definition. -/
theorem ensures_ends (env : Env S W) (action : Action S σ ε α) (state : σ) (world : W) :
    Ensures env (fun _ => True) action
      (fun result final last => Ends env state world action result final last) state world :=
  Prog.ensures_ends env (action state) world

/-- Whatever the replies, the action raises nothing. -/
def Returns (action : Action S σ ε α) : Prop :=
  ∀ state, (action state).Leaves fun result => ∃ value, result.1 = .ok value

/-- A pure action returns a value, whatever the state is. -/
theorem returns_pure (value : α) : Returns (pure value : Action S σ ε α) :=
  fun _ => ⟨value, rfl⟩

/-- A raised exception is a value of the attempt. -/
theorem returns_attempt_bind {action : Action S σ ε α} {next : Except ε α → Action S σ ε β}
    (rest : ∀ outcome, Returns (next outcome)) : Returns (attempt action >>= next) := by
  have tried : Returns (attempt action) := by
    intro state
    refine Prog.Leaves.bind (keeps_any action state) ?_
    exact fun result _ => ⟨result.1, rfl⟩
  intro state
  refine Prog.Leaves.bind (tried state) ?_
  rintro ⟨result, after⟩ ⟨outcome, rfl⟩
  exact rest outcome after

/-- Finished runs of one action, one after the other. -/
inductive Repeats (env : Env S W) (action : Action S σ ε α) :
    σ → W → List (Except ε α) → σ → W → Prop where
  | none (state : σ) (world : W) : Repeats env action state world [] state world
  | next {state mid final : σ} {world middle last : W} {outcome : Except ε α}
      {outcomes : List (Except ε α)} (run : Ends env state world action outcome mid middle)
      (later : Repeats env action mid middle outcomes final last) :
      Repeats env action state world (outcome :: outcomes) final last

end Action

/-- The results of a loop that ends with the first one that settles it, or with its
budget. -/
structure UpToFirst {α : Type} (settles : α → Bool) (budget : Nat) (outcomes : List α) : Prop where
  bounded : outcomes.length ≤ budget
  earlier : ∀ outcome ∈ outcomes.dropLast, settles outcome = false
  ended : outcomes.length < budget → ∃ last, outcomes.getLast? = some last ∧ settles last = true

namespace UpToFirst

variable {α : Type} {settles : α → Bool} {budget : Nat}

/-- With no attempt left, no outcome has been seen yet, and none is owed. -/
theorem exhausted : UpToFirst settles 0 [] :=
  ⟨Nat.le_refl 0, by simp, by simp⟩

/-- The first result settles the loop. -/
theorem settled {outcome : α} (settling : settles outcome = true) :
    UpToFirst settles (budget + 1) [outcome] :=
  ⟨by simp, by simp, fun _ => ⟨outcome, rfl, settling⟩⟩

/-- The first outcome does not settle, so the loop goes on, and the outcomes
that follow are those of the loop with one attempt less. -/
theorem retried {outcome : α} {outcomes : List α} (unsettled : settles outcome = false)
    (rest : UpToFirst settles budget outcomes) :
    UpToFirst settles (budget + 1) (outcome :: outcomes) := by
  refine ⟨by simpa using rest.bounded, ?_, ?_⟩
  · intro other member
    cases outcomes with
    | nil => simp at member
    | cons second later =>
      rw [List.dropLast_cons_cons] at member
      rcases List.mem_cons.mp member with rfl | earlier
      · exact unsettled
      · exact rest.earlier other earlier
  · intro fewer
    obtain ⟨last, found, settling⟩ := rest.ended (by simpa using fewer)
    refine ⟨last, ?_, settling⟩
    cases outcomes with
    | nil => cases found
    | cons second later => simpa using found

end UpToFirst

end Interaction
