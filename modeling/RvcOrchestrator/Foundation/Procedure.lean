import RvcOrchestrator.Foundation.Execution

/-! # Programs that may stop anywhere

A program performs one operation after another on its surroundings and goes on with
each reply. It may stop before any of them.
-/

namespace RvcOrchestrator.Foundation

inductive Procedure (Operation : Type) (Reply : Operation → Type) (Result : Type) where
  | done (result : Result)
  | perform (operation : Operation)
      (resume : Reply operation → Procedure Operation Reply Result)

namespace Procedure

variable {Operation Result Other : Type} {Reply : Operation → Type}

def bind (next : Result → Procedure Operation Reply Other) :
    Procedure Operation Reply Result → Procedure Operation Reply Other
  | .done result => next result
  | .perform operation resume => .perform operation fun reply => (resume reply).bind next

instance : Monad (Procedure Operation Reply) where
  pure := .done
  bind procedure next := procedure.bind next

def complete {State : Type} (answer : (operation : Operation) → State → Reply operation × State) :
    Procedure Operation Reply Result → State → Result × State
  | .done result, state => (result, state)
  | .perform operation resume, state =>
      (resume (answer operation state).1).complete answer (answer operation state).2

/-- The operations of a program that runs to its end, each with the state it is performed in. -/
def performed {State : Type} (answer : (operation : Operation) → State → Reply operation × State) :
    Procedure Operation Reply Result → State → List (Operation × State)
  | .done _, _ => []
  | .perform operation resume, state =>
      (operation, state) ::
        (resume (answer operation state).1).performed answer (answer operation state).2

/-- A log has what the operations have noted. -/
theorem log_complete {State Entry : Type}
    {answer : (operation : Operation) → State → Reply operation × State}
    {log : State → List Entry} {note : Operation → State → List Entry}
    (noted : ∀ operation state,
      log (answer operation state).2 = log state ++ note operation state)
    (procedure : Procedure Operation Reply Result) (state : State) :
    log (procedure.complete answer state).2 =
      log state ++ (procedure.performed answer state).flatMap fun step => note step.1 step.2 := by
  induction procedure generalizing state with
  | done result => exact (List.append_nil _).symm
  | perform operation resume induction =>
      rw [complete, induction, performed, List.flatMap_cons, noted, List.append_assoc]

def Always (Required : Result → Prop) : Procedure Operation Reply Result → Prop
  | .done result => Required result
  | .perform _ resume => ∀ reply, Always Required (resume reply)

theorem complete_of_always {State : Type} {Required : Result → Prop}
    {answer : (operation : Operation) → State → Reply operation × State}
    {procedure : Procedure Operation Reply Result} (always : procedure.Always Required)
    (state : State) : Required (procedure.complete answer state).1 := by
  induction procedure generalizing state with
  | done result => exact always
  | perform operation resume induction => exact induction _ (always _) _

end Procedure

/-! ## Programs that raise -/

def Raising (Operation : Type) (Reply : Operation → Type) (Error Result : Type) : Type :=
  Procedure Operation Reply (Except Error Result)

namespace Raising

variable {Operation Error Result Other : Type} {Reply : Operation → Type}

def raise (error : Error) : Raising Operation Reply Error Result :=
  Procedure.done (.error error)

def bind (next : Other → Raising Operation Reply Error Result)
    (program : Raising Operation Reply Error Other) : Raising Operation Reply Error Result :=
  @Procedure.bind _ (Except Error Other) _ _ (fun
    | .ok result => next result
    | .error error => raise error) program

instance : Monad (Raising Operation Reply Error) where
  pure result := Procedure.done (.ok result)
  bind program next := program.bind next

def handle (next : Except Error Other → Raising Operation Reply Error Result)
    (program : Raising Operation Reply Error Other) : Raising Operation Reply Error Result :=
  @Procedure.bind _ (Except Error Other) _ _ next program

def ofExcept (outcome : Except Error Result) : Raising Operation Reply Error Result :=
  Procedure.done outcome

def Fails (program : Raising Operation Reply Error Result) : Prop :=
  @Procedure.Always _ (Except Error Result) _ (fun outcome => ∃ error, outcome = .error error)
    program

theorem fails_raise (error : Error) :
    (raise error : Raising Operation Reply Error Result).Fails :=
  ⟨error, rfl⟩

theorem fails_handle {next : Except Error Other → Raising Operation Reply Error Result}
    {program : Raising Operation Reply Error Other} (fails : program.Fails)
    (handled : ∀ error, (next (.error error)).Fails) : (program.handle next).Fails := by
  induction program with
  | done outcome =>
      rcases fails with ⟨error, rfl⟩
      exact handled error
  | perform operation resume induction => exact fun reply => induction reply (fails reply)

theorem fails_bind_of_fails {next : Other → Raising Operation Reply Error Result}
    {program : Raising Operation Reply Error Other} (fails : program.Fails) :
    (program >>= next).Fails :=
  fails_handle fails fails_raise

theorem fails_bind {next : Other → Raising Operation Reply Error Result}
    {program : Raising Operation Reply Error Other} (fails : ∀ result, (next result).Fails) :
    (program >>= next).Fails := by
  induction program with
  | done outcome =>
      cases outcome with
      | ok result => exact fails result
      | error error => exact fails_raise error
  | perform operation resume induction => exact fun reply => induction reply

theorem complete_of_fails {State : Type}
    {answer : (operation : Operation) → State → Reply operation × State}
    {program : Raising Operation Reply Error Result} (fails : program.Fails) (state : State) :
    ∃ error, (Procedure.complete answer program state).1 = .error error :=
  Procedure.complete_of_always fails state

/-! ### What a completed program leaves behind -/

section

variable {State : Type}

def Ends (answer : (operation : Operation) → State → Reply operation × State)
    (Ensures : Except Error Result → State → Prop)
    (program : Raising Operation Reply Error Result) (state : State) : Prop :=
  Ensures (Procedure.complete answer program state).1 (Procedure.complete answer program state).2

variable {answer : (operation : Operation) → State → Reply operation × State} {state : State}
  {Established : Except Error Other → State → Prop} {Ensures : Except Error Result → State → Prop}

theorem ends_handle {next : Except Error Other → Raising Operation Reply Error Result}
    {program : Raising Operation Reply Error Other} (first : program.Ends answer Established state)
    (second : ∀ outcome state, Established outcome state → (next outcome).Ends answer Ensures state) :
    (program.handle next).Ends answer Ensures state := by
  induction program generalizing state with
  | done outcome => exact second outcome state first
  | perform operation resume induction =>
      exact induction (answer operation state).1 first

theorem ends_bind {next : Other → Raising Operation Reply Error Result}
    {program : Raising Operation Reply Error Other} (first : program.Ends answer Established state)
    (returned : ∀ result state, Established (.ok result) state →
      (next result).Ends answer Ensures state)
    (raised : ∀ error state, Established (.error error) state → Ensures (.error error) state) :
    (program >>= next).Ends answer Ensures state := by
  apply ends_handle first
  intro outcome state established
  cases outcome with
  | ok result => exact returned result state established
  | error error => exact raised error state established

theorem ends_mono {Stronger : Except Error Result → State → Prop}
    {program : Raising Operation Reply Error Result} (ends : program.Ends answer Stronger state)
    (implies : ∀ outcome state, Stronger outcome state → Ensures outcome state) :
    program.Ends answer Ensures state :=
  implies _ _ ends

end

end Raising

end RvcOrchestrator.Foundation
