/-!
# Programs that call an environment

A program is a tree: it is done, or it issues one operation and continues with
the reply. What the environment may reply, and how the world changes under an
operation, is a relation; a run follows one choice of the environment at every
call, so a statement about every run is a statement about every pattern of
replies. Programs are well founded, hence every run is finite.

`Ensures` is the weakest precondition over all runs, with an invariant that must
hold in every world a run passes through. `run_ensures` turns it into facts about
the states of runs; `Only` bounds the operations a program can issue at all.
Nothing here knows which operations exist.
-/

namespace Interaction

/-- The operations of an interface, each with the type of its replies. -/
structure Signature where
  Op : Type
  Reply : Op → Type

/-- Finite interaction with an environment, ending in a value. A call carries
the rest of the program as a function of the reply, so what is left of a run is
again a program. -/
inductive Prog (S : Signature) (α : Type) : Type where
  | done (value : α) : Prog S α
  | call (op : S.Op) (next : S.Reply op → Prog S α) : Prog S α

/-- What the environment may do at one operation: world before, reply, world after. -/
def Env (S : Signature) (W : Type) : Type :=
  (op : S.Op) → W → S.Reply op → W → Prop

/-- The runs of the environment in which every call meets a condition. -/
def Env.meeting {S : Signature} {W : Type} (env : Env S W) (meets : S.Op → W → Prop) : Env S W :=
  fun op before reply after => meets op before ∧ env op before reply after

namespace Prog

variable {S : Signature} {W α β : Type}

/-- Go on with the value of the first program. -/
def bind (program : Prog S α) (next : α → Prog S β) : Prog S β :=
  match program with
  | .done value => next value
  | .call op rest => .call op (fun reply => (rest reply).bind next)

/-- Sequencing is associative. By induction on the first program. -/
theorem bind_assoc {γ : Type} (program : Prog S α) (next : α → Prog S β) (later : β → Prog S γ) :
    (program.bind next).bind later = program.bind (fun value => (next value).bind later) := by
  induction program with
  | done value => rfl
  | call op rest ih => exact congrArg (Prog.call op) (funext ih)

/-- Every run keeps `inv` in each world it reaches and ends in `post`. -/
def Ensures (env : Env S W) (inv : W → Prop) : Prog S α → (α → W → Prop) → W → Prop
  | .done value, post, world => post value world
  | .call op next, post, world => ∀ reply after, env op world reply after →
      inv after ∧ (next reply).Ensures env inv post after

/-- The consequence rule, by induction on the program. -/
theorem Ensures.mono {env : Env S W} {inv : W → Prop} {program : Prog S α}
    {post weaker : α → W → Prop} {world : W}
    (ensured : program.Ensures env inv post world)
    (implied : ∀ value after, post value after → weaker value after) :
    program.Ensures env inv weaker world := by
  induction program generalizing world with
  | done value => exact implied value world ensured
  | call op next ih =>
    intro reply after step
    exact ⟨(ensured reply after step).1, ih reply (ensured reply after step).2⟩

/-- What is ensured in an environment is ensured in a smaller one, with a weaker
invariant. By induction on the program: each step of the smaller is a step of
the larger. -/
theorem Ensures.env_mono {env smaller : Env S W} {inv weaker : W → Prop}
    {program : Prog S α} {post : α → W → Prop} {world : W}
    (ensured : program.Ensures env inv post world)
    (within : ∀ op before reply after,
      smaller op before reply after → env op before reply after)
    (implied : ∀ after, inv after → weaker after) :
    program.Ensures smaller weaker post world := by
  induction program generalizing world with
  | done value => exact ensured
  | call op next ih =>
    intro reply after step
    obtain ⟨kept, rest⟩ := ensured reply after (within op world reply after step)
    exact ⟨implied after kept, ih reply rest⟩

/-- Runs always come to an end in some value. -/
theorem ensures_trivial (env : Env S W) (program : Prog S α) (world : W) :
    program.Ensures env (fun _ => True) (fun _ _ => True) world := by
  induction program generalizing world with
  | done value => trivial
  | call op next ih => exact fun reply after _ => ⟨trivial, ih reply after⟩

/-- Two facts about the same program hold together, in every state and at its
end. By induction on the program, with the same step taken in both. -/
theorem Ensures.and {env : Env S W} {inv other : W → Prop} {program : Prog S α}
    {post also : α → W → Prop} {world : W}
    (left : program.Ensures env inv post world)
    (right : program.Ensures env other also world) :
    program.Ensures env (fun after => inv after ∧ other after)
      (fun value after => post value after ∧ also value after) world := by
  induction program generalizing world with
  | done value => exact ⟨left, right⟩
  | call op next ih =>
    intro reply after step
    obtain ⟨leftKept, leftRest⟩ := left reply after step
    obtain ⟨rightKept, rightRest⟩ := right reply after step
    exact ⟨⟨leftKept, rightKept⟩, ih reply leftRest rightRest⟩

/-- What holds throughout holds at the end. By induction on the program. -/
theorem Ensures.kept {env : Env S W} {inv : W → Prop} {program : Prog S α}
    {post : α → W → Prop} {world : W} (ensured : program.Ensures env inv post world)
    (holds : inv world) :
    program.Ensures env inv (fun value after => post value after ∧ inv after) world := by
  induction program generalizing world with
  | done value => exact ⟨ensured, holds⟩
  | call op next ih =>
    intro reply after step
    obtain ⟨still, rest⟩ := ensured reply after step
    exact ⟨still, ih reply rest still⟩

/-- The sequence rule is an equivalence: nothing is lost at a composition, so a
program may be cut anywhere. By induction on its first part. -/
theorem ensures_bind {env : Env S W} {inv : W → Prop} (program : Prog S α)
    (next : α → Prog S β) (post : β → W → Prop) (world : W) :
    (program.bind next).Ensures env inv post world ↔
      program.Ensures env inv (fun value after => (next value).Ensures env inv post after)
        world := by
  induction program generalizing world with
  | done value => rfl
  | call op rest ih =>
    constructor
    · intro ensured reply after step
      exact ⟨(ensured reply after step).1, (ih reply after).mp (ensured reply after step).2⟩
    · intro ensured reply after step
      exact ⟨(ensured reply after step).1, (ih reply after).mpr (ensured reply after step).2⟩

/-- Every operation the program can issue, whatever the replies, is allowed. -/
def Only (allowed : S.Op → Prop) : Prog S α → Prop
  | .done _ => True
  | .call op next => allowed op ∧ ∀ reply, (next reply).Only allowed

/-- A sequence stays inside a footprint when its parts do. By induction on the
first. -/
theorem Only.bind {allowed : S.Op → Prop} {program : Prog S α} {next : α → Prog S β}
    (first : program.Only allowed) (rest : ∀ value, (next value).Only allowed) :
    (program.bind next).Only allowed := by
  induction program with
  | done value => exact rest value
  | call op tail ih => exact ⟨first.1, fun reply => ih reply (first.2 reply)⟩

/-- The operations of a sequence include those of its first part. -/
theorem Only.of_bind {allowed : S.Op → Prop} {program : Prog S α} {next : α → Prog S β}
    (only : (program.bind next).Only allowed) : program.Only allowed := by
  induction program with
  | done value => trivial
  | call op tail ih => exact ⟨only.1, fun reply => ih reply (only.2 reply)⟩

/-- Every program is inside the footprint of all operations. -/
theorem only_any (program : Prog S α) : program.Only (fun _ => True) := by
  induction program with
  | done value => trivial
  | call op next ih => exact ⟨trivial, ih⟩

/-- An invariant that every allowed operation keeps holds along a program that
issues only allowed operations, and at its end. -/
theorem Only.ensures {env : Env S W} {inv : W → Prop} {allowed : S.Op → Prop}
    {program : Prog S α} {world : W} (only : program.Only allowed)
    (kept : ∀ op, allowed op → ∀ before reply after, inv before →
      env op before reply after → inv after) (holds : inv world) :
    program.Ensures env inv (fun _ after => inv after) world := by
  induction program generalizing world with
  | done value => exact holds
  | call op next ih =>
    intro reply after step
    have next_holds : inv after := kept op only.1 world reply after holds step
    exact ⟨next_holds, ih reply (only.2 reply) next_holds⟩

/-- Another environment keeps what was ensured, if it agrees on the allowed operations. -/
theorem Only.env_mono {env other : Env S W} {inv : W → Prop} {allowed : S.Op → Prop}
    {program : Prog S α} {post : α → W → Prop} {world : W} (only : program.Only allowed)
    (ensured : program.Ensures env inv post world)
    (within : ∀ op, allowed op → ∀ before reply after,
      other op before reply after → env op before reply after) :
    program.Ensures other inv post world := by
  induction program generalizing world with
  | done value => exact ensured
  | call op next ih =>
    intro reply after step
    obtain ⟨kept, rest⟩ := ensured reply after (within op only.1 world reply after step)
    exact ⟨kept, ih reply (only.2 reply) rest⟩

/-- Every value the program can end in, whatever the replies, meets a condition. -/
def Leaves (post : α → Prop) : Prog S α → Prop
  | .done value => post value
  | .call _ next => ∀ reply, (next reply).Leaves post

/-- What a sequence leaves is what its second part leaves. By induction on the
first. -/
theorem Leaves.bind {mid : α → Prop} {post : β → Prop} {program : Prog S α} {next : α → Prog S β}
    (first : program.Leaves mid) (rest : ∀ value, mid value → (next value).Leaves post) :
    (program.bind next).Leaves post := by
  induction program with
  | done value => exact rest value first
  | call op tail ih => exact fun reply => ih reply (first reply)

/-- What a program leaves it ensures in every environment. -/
theorem Leaves.ensures {env : Env S W} {post : α → Prop} {program : Prog S α} {world : W}
    (leaves : program.Leaves post) :
    program.Ensures env (fun _ => True) (fun value _ => post value) world := by
  induction program generalizing world with
  | done value => exact leaves
  | call op next ih => exact fun reply after _ => ⟨trivial, ih reply (leaves reply)⟩

/-- The states a run passes through, each with the rest of the program. -/
inductive Steps (env : Env S W) : W → Prog S α → W → Prog S α → Prop where
  | refl (world : W) (program : Prog S α) : Steps env world program world program
  | call {op : S.Op} {next : S.Reply op → Prog S α} {world after last : W}
      {reply : S.Reply op} {rest : Prog S α} (step : env op world reply after)
      (tail : Steps env after (next reply) last rest) :
      Steps env world (.call op next) last rest

/-- A run that has come to its end. -/
def Ends (env : Env S W) (world : W) (program : Prog S α) (value : α) (last : W) : Prop :=
  Steps env world program last (.done value)

/-- A run carries its guarantees along: the invariant holds where it has got to,
and the rest still ensures the postcondition. By induction on the run. -/
theorem run_ensures {env : Env S W} {inv : W → Prop} {program rest : Prog S α}
    {post : α → W → Prop} {world last : W} (run : Steps env world program last rest)
    (holds : inv world) (ensured : program.Ensures env inv post world) :
    inv last ∧ rest.Ensures env inv post last := by
  induction run with
  | refl world program => exact ⟨holds, ensured⟩
  | call step tail ih =>
    obtain ⟨kept, next_ensured⟩ := ensured _ _ step
    exact ih kept next_ensured

/-- The invariant holds in every state of every run. -/
theorem Ensures.always {env : Env S W} {inv : W → Prop} {program rest : Prog S α}
    {post : α → W → Prop} {world last : W} (ensured : program.Ensures env inv post world)
    (holds : inv world) (run : Steps env world program last rest) : inv last :=
  (run_ensures run holds ensured).1

/-- The postcondition holds at the end of every run. -/
theorem Ensures.at_end {env : Env S W} {inv : W → Prop} {program : Prog S α}
    {post : α → W → Prop} {world last : W} {value : α}
    (ensured : program.Ensures env inv post world)
    (run : Ends env world program value last) : post value last := by
  unfold Ends at run
  generalize finished : Prog.done value = rest at run
  induction run with
  | refl world program =>
    subst finished
    exact ensured
  | call step tail ih => exact ih (ensured _ _ step).2 finished

/-- Run against replies computed from the world. -/
def run (answer : (op : S.Op) → W → S.Reply op × W) : Prog S α → W → α × W
  | .done value, world => (value, world)
  | .call op next, world => (next (answer op world).1).run answer (answer op world).2

/-- A sequence runs its first part and then its second. By induction on the
first. -/
theorem run_bind (answer : (op : S.Op) → W → S.Reply op × W) (program : Prog S α)
    (next : α → Prog S β) (world : W) :
    (program.bind next).run answer world =
      (next (program.run answer world).1).run answer (program.run answer world).2 := by
  induction program generalizing world with
  | done value => rfl
  | call op rest ih => exact ih (answer op world).1 (answer op world).2

/-- An executed run is a run of every environment that may give its replies. -/
theorem run_ends {env : Env S W} {answer : (op : S.Op) → W → S.Reply op × W}
    (possible : ∀ op before, env op before (answer op before).1 (answer op before).2)
    (program : Prog S α) (world : W) :
    Ends env world program (program.run answer world).1 (program.run answer world).2 := by
  induction program generalizing world with
  | done value => exact .refl world (.done value)
  | call op next ih => exact .call (possible op world) (ih _ _)

/-- Do all operations of the executed run pass a test? -/
def runs (answer : (op : S.Op) → W → S.Reply op × W) (test : S.Op → Bool) : Prog S α → W → Bool
  | .done _, _ => true
  | .call op next, world =>
      test op && (next (answer op world).1).runs answer test (answer op world).2

/-- An executed run only needs the replies to its own operations. -/
theorem run_ends_where {env : Env S W} {answer : (op : S.Op) → W → S.Reply op × W}
    {test : S.Op → Bool}
    (possible : ∀ op before, test op = true →
      env op before (answer op before).1 (answer op before).2)
    (program : Prog S α) (world : W) (passes : program.runs answer test world = true) :
    Ends env world program (program.run answer world).1 (program.run answer world).2 := by
  induction program generalizing world with
  | done value => exact .refl world (.done value)
  | call op next ih =>
    rw [runs, Bool.and_eq_true] at passes
    exact .call (possible op world passes.1) (ih _ _ passes.2)

/-- A computed run, given by its end, is a run in every environment that permits
its replies. -/
theorem ends_of_run {env : Env S W} (answer : (op : S.Op) → W → S.Reply op × W)
    (possible : ∀ op before, env op before (answer op before).1 (answer op before).2)
    {program : Prog S α} {world last : W} {value : α}
    (computed : program.run answer world = (value, last)) :
    Ends env world program value last := by
  have executed := run_ends possible program world
  rwa [computed] at executed

end Prog

end Interaction
