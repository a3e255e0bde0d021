import InstanceLifecycle.Interaction.Program
import Mathlib.Logic.Function.Basic

/-!
# Programs that share a world

Several programs run on one world, one call at a time and in any order, and every call
meets the environment of the program that issues it. What a program knows by itself is a
view of the world that the calls of the others leave alone, and whatever it ensures about
its view it ensures in every interleaving. `Interleaved.ensures` joins these local facts
with an invariant of the whole world: a single call only has to keep it where the local
facts hold.

An interleaving is put together from stretches of single programs.
-/

namespace Interaction

variable {S : Signature} {ι W V α : Type} [DecidableEq ι]

/-- The states the programs pass through together, each with what is left of them. -/
inductive Interleaved (env : ι → Env S W) :
    W → (ι → Prog S α) → W → (ι → Prog S α) → Prop where
  | refl (world : W) (programs : ι → Prog S α) : Interleaved env world programs world programs
  | call {task : ι} {op : S.Op} {next : S.Reply op → Prog S α} {world after last : W}
      {reply : S.Reply op} {programs rests : ι → Prog S α}
      (turn : programs task = .call op next) (step : env task op world reply after)
      (tail : Interleaved env after (Function.update programs task (next reply)) last rests) :
      Interleaved env world programs last rests

/-- What is left of some of the programs, while the others have not begun. -/
def onlyOf (mine : ι → Bool) (rests programs : ι → Prog S α) (task : ι) : Prog S α :=
  if mine task then rests task else programs task

section OnlyOf

variable {mine : ι → Bool} {rests programs : ι → Prog S α} {task : ι} {rest : Prog S α}

omit [DecidableEq ι] in
/-- Of a family, taking the tasks of one side from the family and the others
from it again gives the family. -/
theorem onlyOf_self : onlyOf mine programs programs = programs := by
  funext task
  exact ite_id _

/-- A turn of one's own side shows in the restriction to it. -/
theorem onlyOf_own (own : mine task = true) :
    onlyOf mine (Function.update rests task rest) programs =
      Function.update (onlyOf mine rests programs) task rest := by
  funext other
  by_cases same : other = task
  · subst same
    simp [onlyOf, own]
  · simp [onlyOf, same]

/-- A turn of the other side leaves the restriction to one's own as it is. -/
theorem onlyOf_other (other : mine task = false) :
    onlyOf mine (Function.update rests task rest) programs = onlyOf mine rests programs := by
  funext third
  by_cases same : third = task
  · subst same
    simp [onlyOf, other]
  · simp [onlyOf, same]

end OnlyOf

namespace Interleaved

variable {env : ι → Env S W} {world middle last : W} {programs between rests : ι → Prog S α}

/-- Two interleavings, the second from where the first stopped, are one. -/
theorem trans (first : Interleaved env world programs middle between)
    (second : Interleaved env middle between last rests) :
    Interleaved env world programs last rests := by
  induction first with
  | refl world programs => exact second
  | call turn step tail ih => exact .call turn step (ih second)

/-- A stretch of one program, while the others wait. -/
theorem stretch {task : ι} {program rest : Prog S α} (turn : programs task = program)
    (run : Prog.Steps (env task) world program last rest) :
    Interleaved env world programs last (Function.update programs task rest) := by
  induction run generalizing programs with
  | refl world program =>
    rw [← turn, Function.update_eq_self]
    exact .refl world programs
  | call step tail ih =>
    have rest := ih (Function.update_self task _ programs)
    rw [Function.update_idem] at rest
    exact .call turn step rest

/-- A smaller environment leaves fewer interleavings. -/
theorem env_mono {larger : ι → Env S W}
    (within : ∀ task op before reply after,
      env task op before reply after → larger task op before reply after)
    (interleaved : Interleaved env world programs last rests) :
    Interleaved larger world programs last rests := by
  induction interleaved with
  | refl world programs => exact .refl world programs
  | call turn step tail ih => exact .call turn (within _ _ _ _ _ step) ih

/-- The local facts of every program and the invariant of the world hold in every state,
and what is left of a program still ensures what it did. By induction on the interleaving:
a call moves the view of its own program, and no other. -/
theorem ensures {own : ι → Env S V} {view : ι → W → V} {inv : ι → V → Prop}
    {post : ι → α → V → Prop} (Global : W → Prop)
    (seen : ∀ task op before reply after, Global before → env task op before reply after →
      own task op (view task before) reply (view task after))
    (unseen : ∀ task other op before reply after, other ≠ task →
      env task op before reply after → view other after = view other before)
    (keeps : ∀ task op before reply after, Global before → (∀ task, inv task (view task before)) →
      env task op before reply after → inv task (view task after) → Global after)
    (interleaved : Interleaved env world programs last rests) (start : Global world)
    (holds : ∀ task, inv task (view task world))
    (ensured : ∀ task,
      (programs task).Ensures (own task) (inv task) (post task) (view task world)) :
    Global last ∧ (∀ task, inv task (view task last)) ∧
      ∀ task, (rests task).Ensures (own task) (inv task) (post task) (view task last) := by
  induction interleaved with
  | refl world programs => exact ⟨start, holds, ensured⟩
  | @call task op next world after last reply programs rests turn step tail ih =>
    have mine := ensured task
    rw [turn] at mine
    obtain ⟨kept, continues⟩ := mine reply (view task after)
      (seen task op world reply after start step)
    apply ih (keeps task op world reply after start holds step kept)
    · intro other
      by_cases same : other = task
      · rw [same]
        exact kept
      · rw [unseen task other op world reply after same step]
        exact holds other
    · intro other
      by_cases same : other = task
      · subst same
        rw [Function.update_self]
        exact continues
      · rw [Function.update_of_ne same, unseen task other op world reply after same step]
        exact ensured other

/-- The calls of some of the programs are a run of their own, in a world of their own, if every
call of theirs moves the two worlds together and no other call moves them apart. By induction on
the interleaving; the part of it before a call is there for what holds in its states. -/
theorem project {alone : ι → Env S V} {mine : ι → Bool} (related : W → V → Prop)
    (follows : ∀ task op before reply after current next own,
      Interleaved env world programs before current → current task = .call op next →
        env task op before reply after → related before own →
          if mine task then ∃ moved, alone task op own reply moved ∧ related after moved
          else related after own)
    {own : V} (start : related world own)
    (interleaved : Interleaved env world programs last rests) :
    ∃ moved, Interleaved alone own programs moved (onlyOf mine rests programs) ∧
      related last moved := by
  have from_here : ∀ {before last : W} {current rests : ι → Prog S α},
      Interleaved env before current last rests → ∀ own,
        Interleaved env world programs before current → related before own →
          ∃ moved, Interleaved alone own (onlyOf mine current programs) moved
            (onlyOf mine rests programs) ∧ related last moved := by
    intro before last current rests run
    induction run with
    | refl before current => exact fun own _ near => ⟨own, .refl _ _, near⟩
    | @call task op next before after last reply current rests turn step tail ih =>
      intro own earlier near
      have further := earlier.trans (.call turn step (.refl _ _))
      have moves := follows task op before reply after current next own earlier turn step near
      cases side : mine task with
      | true =>
        rw [side, if_pos rfl] at moves
        obtain ⟨middle, called, still⟩ := moves
        obtain ⟨moved, run, final⟩ := ih middle further still
        rw [onlyOf_own side] at run
        exact ⟨moved, .call (by simp [onlyOf, side, turn]) called run, final⟩
      | false =>
        rw [side, if_neg Bool.false_ne_true] at moves
        obtain ⟨moved, run, final⟩ := ih own further moves
        rw [onlyOf_other side] at run
        exact ⟨moved, run, final⟩
  obtain ⟨moved, run, final⟩ := from_here interleaved own (.refl _ _) start
  rw [onlyOf_self] at run
  exact ⟨moved, run, final⟩

end Interleaved

/-! ## Executed turns -/

section Turns

variable (answer : ι → (op : S.Op) → W → S.Reply op × W)

/-- One call of each program whose turn it is, in the order of the turns. -/
def play : List ι → (ι → Prog S α) → W → (ι → Prog S α) × W
  | [], programs, world => (programs, world)
  | task :: turns, programs, world =>
      match programs task with
      | .done _ => play turns programs world
      | .call op next => play turns (Function.update programs task (next (answer task op world).1))
          (answer task op world).2

variable {answer}

/-- Executed turns are an interleaving, given that each answer is one the task's
environment may give. -/
theorem play_interleaved {env : ι → Env S W}
    (possible : ∀ task op before,
      env task op before (answer task op before).1 (answer task op before).2)
    (turns : List ι) (programs : ι → Prog S α) (world : W) :
    Interleaved env world programs (play answer turns programs world).2
      (play answer turns programs world).1 := by
  induction turns generalizing programs world with
  | nil => exact .refl world programs
  | cons task turns ih =>
    rw [play]
    split
    · exact ih programs world
    · rename_i op next turn
      exact .call turn (possible task op world) (ih _ _)

end Turns

/-! ## Executed stretches -/

namespace Prog

variable (answer : (op : S.Op) → W → S.Reply op × W)

/-- Run until the next call is one to stop at. -/
def runUntil (stop : S.Op → Bool) : Prog S α → W → Prog S α × W
  | .done value, world => (.done value, world)
  | .call op next, world =>
      if stop op then (.call op next, world)
      else (next (answer op world).1).runUntil stop (answer op world).2

/-- Do all operations of the executed stretch meet a test of the world they find? -/
def meets (test : S.Op → W → Bool) (stop : S.Op → Bool) : Prog S α → W → Bool
  | .done _, _ => true
  | .call op next, world =>
      stop op ||
        (test op world && (next (answer op world).1).meets test stop (answer op world).2)

variable {answer}

/-- An executed stretch is a run of the small steps, given that each reply in it
is a possible one. Only the operations of the stretch have to pass the test; by
induction on the program. -/
theorem runUntil_steps {env : Env S W} {test : S.Op → W → Bool}
    (possible : ∀ op before, test op before = true →
      env op before (answer op before).1 (answer op before).2)
    (stop : S.Op → Bool) (program : Prog S α) (world : W)
    (meets : program.meets answer test stop world = true) :
    Steps env world program (program.runUntil answer stop world).2
      (program.runUntil answer stop world).1 := by
  induction program generalizing world with
  | done value => exact .refl world (.done value)
  | call op next ih =>
    rw [runUntil]
    by_cases stops : stop op = true
    · rw [if_pos stops]
      exact .refl world (.call op next)
    · rw [Prog.meets, Bool.or_eq_true, Bool.and_eq_true] at meets
      obtain ⟨tested, further⟩ := meets.resolve_left stops
      rw [if_neg stops]
      exact .call (possible op world tested) (ih _ _ further)

/-- A stretch without a stop goes through to the end of the program, so it is a
whole run. -/
theorem runUntil_ends {env : Env S W} {test : S.Op → W → Bool}
    (possible : ∀ op before, test op before = true →
      env op before (answer op before).1 (answer op before).2)
    (program : Prog S α) (world : W)
    (meets : program.meets answer test (fun _ => false) world = true) :
    ∃ value, Ends env world program value (program.runUntil answer (fun _ => false) world).2 := by
  have finished : ∀ (program : Prog S α) (world : W), ∃ value,
      (program.runUntil answer (fun _ => false) world).1 = .done value := by
    intro program
    induction program with
    | done value => exact fun world => ⟨value, rfl⟩
    | call op next ih => exact fun world => ih _ _
  obtain ⟨value, done⟩ := finished program world
  have steps := runUntil_steps possible (fun _ => false) program world meets
  rw [done] at steps
  exact ⟨value, steps⟩

end Prog

/-! ## Logs -/

/-- Every entry of a log is justified by the ones before it. -/
def Justified {ε : Type} (rule : List ε → ε → Prop) (log : List ε) : Prop :=
  ∀ earlier entry later, log = earlier ++ entry :: later → rule earlier entry

/-- The empty log is justified by any rule, having no entry. -/
theorem justified_nil {ε : Type} (rule : List ε → ε → Prop) : Justified rule [] := by
  intro earlier entry later parts
  simp at parts

/-- The step lemma: a longer log is justified if the log was, and the new entry
is by what came before it. By the position of the entry asked about, old or
last. -/
theorem justified_append {ε : Type} {rule : List ε → ε → Prop} {log : List ε} {entry : ε} :
    Justified rule (log ++ [entry]) ↔ Justified rule log ∧ rule log entry := by
  constructor
  · intro justified
    constructor
    · rintro earlier other later rfl
      exact justified earlier other (later ++ [entry]) (by simp)
    · exact justified log entry [] rfl
  · rintro ⟨old, last⟩ earlier other later parts
    rcases List.eq_nil_or_concat later with rfl | ⟨before, final, rfl⟩
    · obtain ⟨rfl, single⟩ := List.append_inj' parts rfl
      rw [List.cons.injEq] at single
      rw [← single.1]
      exact last
    · have shape : log ++ [entry] = (earlier ++ other :: before) ++ [final] := by
        simpa using parts
      obtain ⟨rfl, _⟩ := List.append_inj' shape rfl
      exact old earlier other before rfl

/-- A justified log was so from its beginning on. -/
theorem Justified.before {ε : Type} {rule : List ε → ε → Prop} {earlier later : List ε}
    (justified : Justified rule (earlier ++ later)) : Justified rule earlier := by
  intro first entry last parts
  refine justified first entry (last ++ later) ?_
  rw [parts]
  simp

end Interaction
