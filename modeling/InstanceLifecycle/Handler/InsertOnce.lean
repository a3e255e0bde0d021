import InstanceLifecycle.Handler.AsciiRuntime
import InstanceLifecycle.Handler.CmdbCall

/-!
# Inserts under ambiguous failures

One run of the engine on an insert whose transport failures may or may not have
stored the row, with a selector that answers truthfully or raises. The stored
rows are the world. Before an invocation nothing is stored; after an ambiguous
failure at most one row is, and the selector decides which.

A selector that raises the service's own exception would have it re-raised as if
the insert had been rejected; the exceptions it may raise are therefore a
parameter.
-/

namespace InstanceLifecycle

open Interaction

/-- The two calls a creating request makes: the insert itself, and the re-select
that looks for its row. -/
inductive InsertCall where
  | insert
  | reselect

/-- The two calls of one recovered insert, over rows of type `ρ`. -/
abbrev insertCalls (ρ : Type) : Signature where
  Op := InsertCall
  Reply
    | .insert => Except Exn ρ
    | .reselect => Except Exn (Option ρ)

/-- An insert stores its row and answers, loses the reply or the request, or fails
without an effect; a re-select raises or answers with what is stored. -/
def ambiguousInsert (ρ : Type) (selectorRaises : Exn → Prop) : Env (insertCalls ρ) (List ρ)
  | .insert, before, reply, after =>
      match (reply : Except Exn ρ) with
      | .ok row => after = before ++ [row]
      | .error exc =>
          if classify exc = .transport then after = before ∨ ∃ row, after = before ++ [row]
          else after = before
  | .reselect, before, reply, after =>
      after = before ∧
        match (reply : Except Exn (Option ρ)) with
        | .ok found => found = before.head?
        | .error exc => selectorRaises exc

/-- The insert as `op` of the call; the exception in its reply is raised. -/
def insertOp (ρ : Type) : Action (insertCalls ρ) FieldErrors Exn ρ :=
  Action.request (S := insertCalls ρ) .insert (fun reply => (reply : Except Exn ρ))

/-- The re-select as `selector` of the call, which may answer that there is no
such row. -/
def reselectOp (ρ : Type) : Action (insertCalls ρ) FieldErrors Exn (Option ρ) :=
  Action.request (S := insertCalls ρ) .reselect (fun reply => (reply : Except Exn (Option ρ)))

variable {ρ : Type}

/-- What the caller of an insert may conclude about the stored rows. Only an own
exception that came out of the selector says nothing. -/
def InsertSettled (raises : Exn → Prop) (result : Except Exn (Option ρ)) (stored : List ρ) :
    Prop :=
  stored.length ≤ 1 ∧
    (∀ row, result = .ok (some row) → stored = [row]) ∧
    (result = .ok none → stored = []) ∧
    (∀ text, result = .error (.cmdbException text) →
      stored = [] ∨ raises (.cmdbException text))

/-- Nothing is stored and no row is returned: this is settled, since an empty
store needs neither a row nor an exception. -/
theorem settled_empty (raises : Exn → Prop) (result : Except Exn (Option ρ))
    (absent : ∀ row, result ≠ .ok (some row)) : InsertSettled raises result [] :=
  ⟨by simp, fun row same => (absent row same).elim, fun _ => rfl, fun _ _ => Or.inl rfl⟩

/-- One row is stored and it is the one returned, which settles the call. -/
theorem settled_row (raises : Exn → Prop) (row : ρ) :
    InsertSettled raises (.ok (some row)) [row] := by
  refine ⟨by simp, ?_, by simp, by simp⟩
  intro found same
  cases same
  rfl

/-- A transport error or a failed re-select claims nothing about the row. -/
theorem settled_raised (raises : Exn → Prop) (exc : Exn) (stored : List ρ)
    (few : stored.length ≤ 1) (foreign : exc.isCmdbException = false ∨ raises exc) :
    InsertSettled raises (.error exc : Except Exn (Option ρ)) stored := by
  refine ⟨few, by simp, by simp, ?_⟩
  intro text same
  cases same
  rcases foreign with foreign | possible
  · simp [Exn.isCmdbException] at foreign
  · exact Or.inr possible

/-- A call from the empty store settles. While an attempt is under way at most
one row is stored, and none at the start of an insert; the rule of `cmdb_call`
carries both through the attempts. -/
theorem insertCall_ensures (handler : InstanceHandler) (options : CallOptions)
    (raises : Exn → Prop) (state : FieldErrors) :
    (handler.cmdbCall options (insertOp ρ) (some (reselectOp ρ))).Ensures
      (ambiguousInsert ρ raises) (fun _ => True)
      (fun result _ stored => InsertSettled raises result stored) state [] := by
  apply InstanceHandler.cmdbCall_ensures (fun stored => stored = [])
    (fun stored => stored.length ≤ 1) rfl
  · -- One invocation from the empty store.
    rintro stored rfl
    rw [insertOp, Action.ensures_request]
    intro reply after step
    refine ⟨trivial, rfl, ?_⟩
    cases reply with
    | ok row =>
      have same : after = [row] := step
      rw [same]
      exact settled_row raises row
    | error exc =>
      simp only [ambiguousInsert] at step
      by_cases transport : classify exc = .transport
      · rw [if_pos transport] at step
        have few : after.length ≤ 1 := by
          rcases step with rfl | ⟨row, rfl⟩ <;> simp
        have foreign : exc.isCmdbException = false := by
          cases exc <;> simp_all [classify, Exn.isCmdbException]
        simp only [InstanceHandler.failureExit, foreign, transport]
        exact ⟨few, settled_raised raises exc after few (Or.inl foreign)⟩
      · rw [if_neg transport] at step
        subst step
        simp only [InstanceHandler.failureExit]
        split
        · exact settled_empty _ _ (by simp)
        · refine settled_empty _ _ ?_
          intro row
          split <;> simp
  · -- The re-select in front of a repeated invocation.
    rintro reselection same stored few
    cases same
    rw [reselectOp, Action.ensures_request]
    rintro reply after ⟨rfl, truthful⟩
    refine ⟨trivial, rfl, ?_⟩
    cases reply with
    | error exc => exact ⟨few, settled_raised raises exc after few (Or.inr truthful)⟩
    | ok found =>
      cases after with
      | nil => simp_all
      | cons row rest =>
        have alone : rest = [] := by
          cases rest with
          | nil => rfl
          | cons other rest => simp at few
        subst alone
        have same : found = some row := truthful
        subst same
        exact settled_row raises row
  · intro absent
    cases absent

/-- For every number of attempts and every sequence of outcomes, one run stores at
most one row; a returned row is the one stored; and when the call returns `None`,
or raises a `_CmdbException` of its own, nothing is stored. -/
theorem insert_at_most_once (handler : InstanceHandler) (options : CallOptions)
    (raises : Exn → Prop) (state errors : FieldErrors) (result : Except Exn (Option ρ))
    (stored : List ρ)
    (run : Prog.Ends (ambiguousInsert ρ raises) []
      (handler.cmdbCall options (insertOp ρ) (some (reselectOp ρ)) state) (result, errors) stored) :
    InsertSettled raises result stored :=
  (insertCall_ensures handler options raises state).at_end run

/-- Every insert stores its row and loses the reply. -/
def losesReplies (selected : List Nat → Except Exn (Option Nat)) :
    (op : InsertCall) → List Nat → (insertCalls Nat).Reply op × List Nat
  | .insert, stored => (.error (.requestException "reply lost"), stored ++ [7])
  | .reselect, stored => (selected stored, stored)

/-- The store that keeps the row of an insert and loses its reply is among the
ambiguous ones, given a selector that either tells the truth or raises. -/
theorem losesReplies_possible (raises : Exn → Prop) (selected : List Nat → Except Exn (Option Nat))
    (truthful : ∀ stored, selected stored = .ok stored.head? ∨
      ∃ exc, selected stored = .error exc ∧ raises exc)
    (op : (insertCalls Nat).Op) (stored : List Nat) :
    ambiguousInsert Nat raises op stored (losesReplies selected op stored).1
      (losesReplies selected op stored).2 := by
  cases op with
  | insert => exact Or.inr ⟨7, rfl⟩
  | reselect =>
    refine ⟨rfl, ?_⟩
    simp only [losesReplies]
    rcases truthful stored with answered | ⟨exc, raised, possible⟩
    · rw [answered]
    · rw [raised]
      exact possible

/-- An insert that landed with its reply lost: the re-select finds row 7, and
the store holds that row alone. -/
theorem insert_at_most_once_recovered :
    InsertSettled (fun _ => True) (.ok (some 7) : Except Exn (Option Nat)) [7] :=
  insert_at_most_once AsciiRuntime.handler { field := "server.insert" } _ {} {} (.ok (some 7)) [7]
    (Prog.ends_of_run (losesReplies (fun stored => .ok stored.head?))
      (losesReplies_possible _ _ fun _ => Or.inl rfl) rfl)

/-- A selector that raises the service's own exception on the last attempt makes
the call report a permanent failure although the row is stored: without the case
of an exception out of the selector, the conclusion is false. -/
theorem own_exception_hides_row :
    Prog.Ends (ambiguousInsert Nat (fun _ => True)) []
        (AsciiRuntime.handler.cmdbCall { field := "server.insert", attempts := some 2 }
          (insertOp Nat) (some (reselectOp Nat)) {})
        (.error (.cmdbException "rejected"), {}) [7] ∧
      ¬ InsertSettled (fun _ => False)
        (.error (.cmdbException "rejected") : Except Exn (Option Nat)) [7] := by
  constructor
  · exact Prog.ends_of_run (losesReplies (fun _ => .error (.cmdbException "rejected")))
      (losesReplies_possible _ _ fun _ => Or.inr ⟨_, rfl, trivial⟩) rfl
  · intro settled
    have empty := settled.2.2.2 "rejected" rfl
    simp at empty

end InstanceLifecycle
