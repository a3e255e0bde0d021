import InstanceLifecycle.Interaction.Program

/-!
# Actions: programs with local state and exceptions

An action carries a piece of local state through a program and may end by an
exception. The state survives an exception, as a mutable object does that is
still referenced where the exception is caught; `attempt` is the `try` block that
hands the exception over as a value.

Each way of building an action has one rule for its weakest precondition, so a
proof about an action follows the shape of its definition.
-/

namespace Interaction

/-- A program over local state `σ` that ends in a value or an exception. -/
def Action (S : Signature) (σ ε α : Type) : Type :=
  σ → Prog S (Except ε α × σ)

namespace Action

variable {S : Signature} {σ ε W α β : Type}

/-- End normally with this value, leaving the local state alone. -/
def ret (value : α) : Action S σ ε α := fun state => .done (.ok value, state)

/-- End with this exception, again without a change of the local state. -/
def raise (exc : ε) : Action S σ ε α := fun state => .done (.error exc, state)

/-- Go on with the value of the first action, or end with its exception. The
local state is threaded through in both cases, so what was recorded before the
exception is kept. -/
def bind (action : Action S σ ε α) (next : α → Action S σ ε β) : Action S σ ε β :=
  fun state => (action state).bind fun result =>
    match result with
    | (.ok value, after) => next value after
    | (.error exc, after) => .done (.error exc, after)

instance : Monad (Action S σ ε) where
  pure := ret
  bind := bind

/-- Sequencing is associative. It comes down to the same law of interaction
trees, with one look at how the result was handed on. -/
theorem bind_assoc {γ : Type} (action : Action S σ ε α) (next : α → Action S σ ε β)
    (later : β → Action S σ ε γ) :
    action >>= next >>= later = action >>= fun value => next value >>= later := by
  funext state
  refine (Prog.bind_assoc (action state) _ _).trans ?_
  congr 1
  funext result
  obtain ⟨value | exc, after⟩ := result
  · rfl
  · rfl

/-- Run an action and hand over its exception as a value, which is how an
`except` clause gets to see it. -/
def attempt (action : Action S σ ε α) : Action S σ ε (Except ε α) :=
  fun state => (action state).bind fun result => .done (.ok result.1, result.2)

/-- Change the local state. -/
def modify (change : σ → σ) : Action S σ ε Unit := fun state => .done (.ok (), change state)

/-- Read the local state. -/
def get : Action S σ ε σ := fun state => .done (.ok state, state)

/-- A pure computation that may raise. It makes no call and does not touch the
local state. -/
def lift : Except ε α → Action S σ ε α
  | .ok value => ret value
  | .error exc => raise exc

/-- Issue one operation and read its reply as a value or an exception. -/
def request (op : S.Op) (read : S.Reply op → Except ε α) : Action S σ ε α :=
  fun state => .call op fun reply => .done (read reply, state)

/-- Every run of the action keeps `inv` and ends in `post`, which sees the value
or exception, the local state and the world. -/
def Ensures (env : Env S W) (inv : W → Prop) (action : Action S σ ε α)
    (post : Except ε α → σ → W → Prop) (state : σ) (world : W) : Prop :=
  (action state).Ensures env inv (fun result after => post result.1 result.2 after) world

variable {env : Env S W} {inv : W → Prop} {post : Except ε α → σ → W → Prop}
  {state : σ} {world : W}

/-- What a pure value ensures is the postcondition of that value, here and now. -/
theorem ensures_pure (value : α) :
    Ensures env inv (pure value : Action S σ ε α) post state world ↔ post (.ok value) state world :=
  Iff.rfl

/-- A change of the local state ensures what holds after the change. -/
theorem ensures_modify (change : σ → σ) {post : Except ε Unit → σ → W → Prop} :
    Ensures env inv (modify change : Action S σ ε Unit) post state world ↔
      post (.ok ()) (change state) world :=
  Iff.rfl

/-- Reading the local state ensures what holds of the state read. -/
theorem ensures_get {post : Except ε σ → σ → W → Prop} :
    Ensures env inv (get : Action S σ ε σ) post state world ↔ post (.ok state) state world :=
  Iff.rfl

/-- A lifted computation ensures what holds of its result, value or exception. -/
theorem ensures_lift (computed : Except ε α) :
    Ensures env inv (lift computed : Action S σ ε α) post state world ↔
      post computed state world := by
  cases computed <;> rfl

/-- A request ensures what holds after every reply that the environment may
give. The invariant has to be met right then, before the action goes on. -/
theorem ensures_request (op : S.Op) (read : S.Reply op → Except ε α) :
    Ensures env inv (request op read : Action S σ ε α) post state world ↔
      ∀ reply after, env op world reply after → inv after ∧ post (read reply) state after :=
  Iff.rfl

/-- The consequence rule: a postcondition may be weakened at will. -/
theorem Ensures.mono {action : Action S σ ε α} {weaker : Except ε α → σ → W → Prop}
    (ensured : Ensures env inv action post state world)
    (implied : ∀ result final after, post result final after → weaker result final after) :
    Ensures env inv action weaker state world :=
  Prog.Ensures.mono ensured fun result after => implied result.1 result.2 after

/-- Fewer environments and a weaker invariant: what was ensured under all
replies of the larger environment is ensured under those of the smaller. -/
theorem Ensures.env_mono {smaller : Env S W} {weaker : W → Prop} {action : Action S σ ε α}
    (ensured : Ensures env inv action post state world)
    (within : ∀ op before reply after,
      smaller op before reply after → env op before reply after)
    (implied : ∀ after, inv after → weaker after) :
    Ensures smaller weaker action post state world :=
  Prog.Ensures.env_mono ensured within implied

/-- Every action ensures that it ends somehow. -/
theorem ensures_trivial (action : Action S σ ε α) :
    Ensures env (fun _ => True) action (fun _ _ _ => True) state world :=
  Prog.ensures_trivial env (action state) world

/-- Two invariants and two postconditions, shown separately, hold together. -/
theorem Ensures.and {other : W → Prop} {action : Action S σ ε α}
    {also : Except ε α → σ → W → Prop}
    (left : Ensures env inv action post state world)
    (right : Ensures env other action also state world) :
    Ensures env (fun after => inv after ∧ other after) action
      (fun result final after => post result final after ∧ also result final after)
      state world :=
  Prog.Ensures.and left right

/-- An invariant that holds at the start also holds at the end. Between the two
it is part of what is ensured anyway. -/
theorem Ensures.kept {action : Action S σ ε α}
    (ensured : Ensures env inv action post state world) (holds : inv world) :
    Ensures env inv action (fun result final after => post result final after ∧ inv after)
      state world :=
  Prog.Ensures.kept ensured holds

/-- The sequence rule as an equivalence: the second action is ensured from
wherever the first ends normally, and an exception of the first ends the whole. -/
theorem ensures_bind (action : Action S σ ε α) (next : α → Action S σ ε β)
    {post : Except ε β → σ → W → Prop} :
    Ensures env inv (action >>= next) post state world ↔
      Ensures env inv action (fun result middle after =>
        match result with
        | .ok value => Ensures env inv (next value) post middle after
        | .error exc => post (.error exc) middle after) state world := by
  unfold Ensures
  change ((action state).bind _).Ensures env inv _ world ↔ _
  rw [Prog.ensures_bind]
  constructor <;> intro ensured <;> refine Prog.Ensures.mono ensured ?_ <;>
    rintro ⟨result, middle⟩ after held <;> cases result <;> exact held

/-- The sequence rule with the intermediate condition named by the caller. This
is the form that the proofs about the program apply, one obligation for each way
out of the first part. -/
theorem Ensures.bind {action : Action S σ ε α} {next : α → Action S σ ε β}
    {mid : Except ε α → σ → W → Prop} {post : Except ε β → σ → W → Prop}
    (first : Ensures env inv action mid state world)
    (normal : ∀ value middle after, mid (.ok value) middle after →
      Ensures env inv (next value) post middle after)
    (raised : ∀ exc middle after, mid (.error exc) middle after →
      post (.error exc) middle after) :
    Ensures env inv (action >>= next) post state world := by
  rw [ensures_bind]
  refine first.mono ?_
  intro result middle after held
  cases result with
  | ok value => exact normal value middle after held
  | error exc => exact raised exc middle after held

/-- Catching exceptions moves them into the value: the postcondition is asked of
the result as a whole, and the attempt itself never raises. -/
theorem ensures_attempt (action : Action S σ ε α) {post : Except ε (Except ε α) → σ → W → Prop} :
    Ensures env inv (attempt action) post state world ↔
      Ensures env inv action (fun result middle after => post (.ok result) middle after)
        state world := by
  unfold Ensures attempt
  rw [Prog.ensures_bind]
  rfl

/-! ## Executed runs -/

section Run

variable (answer : (op : S.Op) → W → S.Reply op × W)

/-- Run an action against replies computed from the world. Nothing else than the
given function decides the replies, so the run can be evaluated. -/
def run (action : Action S σ ε α) (state : σ) (world : W) : (Except ε α × σ) × W :=
  (action state).run answer world

/-- A pure value runs to itself and calls nothing. -/
theorem run_pure (value : α) :
    run answer (pure value : Action S σ ε α) state world = ((.ok value, state), world) :=
  rfl

/-- A computation that succeeds runs to its value and calls nothing. -/
theorem run_lift_ok (value : α) :
    run answer (lift (.ok value) : Action S σ ε α) state world = ((.ok value, state), world) :=
  rfl

/-- A sequence whose first part ends normally goes on from there, in the state
and world that part left. -/
theorem run_bind_ok {action : Action S σ ε α} {next : α → Action S σ ε β} {value : α} {middle : σ}
    {after : W} (first : run answer action state world = ((.ok value, middle), after)) :
    run answer (action >>= next) state world = run answer (next value) middle after := by
  unfold run at first ⊢
  change (Prog.bind (action state) _).run answer world = _
  rw [Prog.run_bind, first]

/-- A sequence whose first part raises ends with its exception, and the second
part is never run. -/
theorem run_bind_error {action : Action S σ ε α} {next : α → Action S σ ε β} {exc : ε} {middle : σ}
    {after : W} (first : run answer action state world = ((.error exc, middle), after)) :
    run answer (action >>= next) state world = ((.error exc, middle), after) := by
  unfold run at first ⊢
  change (Prog.bind (action state) _).run answer world = _
  rw [Prog.run_bind, first]
  rfl

end Run

/-! ## Footprints -/

/-- Every operation the action can issue is allowed, whatever its local state. -/
def Only (allowed : S.Op → Prop) (action : Action S σ ε α) : Prop :=
  ∀ state, (action state).Only allowed

variable {allowed : S.Op → Prop}

/-- A pure value makes no call, so it is inside any footprint. -/
theorem only_pure (value : α) : Only allowed (pure value : Action S σ ε α) :=
  fun _ => trivial

/-- Nor does raising make one. -/
theorem only_raise (exc : ε) : Only allowed (raise exc : Action S σ ε α) :=
  fun _ => trivial

/-- Nor does a change of the local state. -/
theorem only_modify (change : σ → σ) : Only allowed (modify change : Action S σ ε Unit) :=
  fun _ => trivial

/-- Nor does reading it. -/
theorem only_get : Only allowed (get : Action S σ ε σ) :=
  fun _ => trivial

/-- Nor does a pure computation, whether it raises or not. -/
theorem only_lift (computed : Except ε α) : Only allowed (lift computed : Action S σ ε α) := by
  intro state
  cases computed <;> trivial

/-- A request is inside the footprint of its own operation. -/
theorem only_request (op : S.Op) (read : S.Reply op → Except ε α) (permitted : allowed op) :
    Only allowed (request op read : Action S σ ε α) :=
  fun _ => ⟨permitted, fun _ => trivial⟩

/-- A sequence stays inside a footprint when its parts do, the second for every
value of the first. -/
theorem Only.bind {action : Action S σ ε α} {next : α → Action S σ ε β}
    (first : Only allowed action) (rest : ∀ value, Only allowed (next value)) :
    Only allowed (action >>= next) := by
  intro state
  refine Prog.Only.bind (first state) ?_
  rintro ⟨result, after⟩
  cases result with
  | ok value => exact rest value after
  | error exc => trivial

/-- After a pure computation only its own value counts. The bind rule would ask
for all values, which is too much where the footprint depends on the one
computed. -/
theorem only_lift_bind (computed : Except ε α) {next : α → Action S σ ε β}
    (rest : ∀ value, computed = .ok value → Only allowed (next value)) :
    Only allowed (lift computed >>= next) := by
  cases computed with
  | error exc => exact fun _ => trivial
  | ok value => exact rest value rfl

/-- Catching exceptions makes no call of its own. -/
theorem Only.attempt {action : Action S σ ε α} (first : Only allowed action) :
    Only allowed (Action.attempt action) :=
  fun state => Prog.Only.bind (first state) fun _ => trivial

/-- Nothing is asked of the operations, so every action qualifies. -/
theorem only_any (action : Action S σ ε α) : Only (fun _ => True) action :=
  fun state => (action state).only_any

/-! ## Local state -/

/-- Whatever the replies, the local state keeps a property, also where an exception ends it. -/
def Keeps (held : σ → Prop) (action : Action S σ ε α) : Prop :=
  ∀ state, held state → (action state).Leaves fun result => held result.2

variable {held : σ → Prop}

/-- A pure value leaves the local state alone, hence keeps any property of it. -/
theorem keeps_pure (value : α) : Keeps held (pure value : Action S σ ε α) :=
  fun _ holds => holds

/-- So does raising. -/
theorem keeps_raise (exc : ε) : Keeps held (raise exc : Action S σ ε α) :=
  fun _ holds => holds

/-- A change keeps what it preserves. Every proof that an action keeps a
property gets its content here. -/
theorem keeps_modify (change : σ → σ) (kept : ∀ state, held state → held (change state)) :
    Keeps held (modify change : Action S σ ε Unit) :=
  kept

/-- A pure computation keeps any property, whether it raises or not. -/
theorem keeps_lift (computed : Except ε α) : Keeps held (lift computed : Action S σ ε α) := by
  intro state holds
  cases computed <;> exact holds

/-- A single request keeps any property of the local state, whatever the reply. -/
theorem keeps_request (op : S.Op) (read : S.Reply op → Except ε α) :
    Keeps held (request op read : Action S σ ε α) :=
  fun _ holds _ => holds

/-- Nothing is asked of the local state, so every action qualifies. By induction
on the tree. -/
theorem keeps_any (action : Action S σ ε α) (state : σ) :
    (action state).Leaves fun _ => True := by
  induction action state with
  | done result => trivial
  | call op next ih => exact fun reply => ih reply

/-- A sequence keeps what its parts keep, the second for every value of the
first. -/
theorem Keeps.bind {action : Action S σ ε α} {next : α → Action S σ ε β}
    (first : Keeps held action) (rest : ∀ value, Keeps held (next value)) :
    Keeps held (action >>= next) := by
  intro state holds
  refine Prog.Leaves.bind (first state holds) ?_
  rintro ⟨result, after⟩ still
  cases result with
  | ok value => exact rest value after still
  | error exc => exact still

/-- After a pure computation only its own value counts, as for footprints. -/
theorem keeps_lift_bind (computed : Except ε α) {next : α → Action S σ ε β}
    (rest : ∀ value, computed = .ok value → Keeps held (next value)) :
    Keeps held (lift computed >>= next) := by
  cases computed with
  | error exc => exact fun _ holds => holds
  | ok value => exact rest value rfl

/-- Catching exceptions keeps what the action keeps, for the local state is
threaded through either way. -/
theorem Keeps.attempt {action : Action S σ ε α} (first : Keeps held action) :
    Keeps held (Action.attempt action) :=
  fun state holds => Prog.Leaves.bind (first state holds) fun _ still => still

/-- A property that the action keeps and that holds at the start holds at the
end of every run, whatever the world does. -/
theorem Keeps.ensures {action : Action S σ ε α} (keeps : Keeps held action) (holds : held state) :
    Ensures env (fun _ => True) action (fun _ final _ => held final) state world :=
  (keeps state holds).ensures

/-! ## Invariants of the world -/

/-- What every allowed operation keeps holds throughout and at the end. A
footprint thus turns a fact about single operations into one about whole runs. -/
theorem Only.ensures {action : Action S σ ε α} (only : Only allowed action)
    (kept : ∀ op, allowed op → ∀ before reply after, inv before →
      env op before reply after → inv after) (holds : inv world) :
    Ensures env inv action (fun _ _ after => inv after) state world :=
  (only state).ensures kept holds

/-- Another environment keeps what was ensured, if it agrees on the allowed operations. -/
theorem Only.env_mono {other : Env S W} {action : Action S σ ε α}
    {post : Except ε α → σ → W → Prop} (only : Only allowed action)
    (ensured : Ensures env inv action post state world)
    (within : ∀ op, allowed op → ∀ before reply after,
      other op before reply after → env op before reply after) :
    Ensures other inv action post state world :=
  Prog.Only.env_mono (only state) ensured within

end Action

end Interaction
